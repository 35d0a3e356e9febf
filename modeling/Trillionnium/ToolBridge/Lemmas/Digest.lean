import Trillionnium.Json.Lemmas.Text
import Trillionnium.ToolBridge.Basic

/-!
The bytes that the digest of an observation hashes. Every field is written with the lengths of its
name and of its value, so that the bytes determine what was observed.
-/

namespace ToolBridge

open List

open Json (Bytes utf8)
open ProcessRuntime (ExecutionEvent ExecutionEventKind ExecutionTerminal StreamKind TerminalKind)

theorem utf8_injective {s : String} (h : utf8 s = utf8 t) : s = t := by
  have hread := Json.ofUtf8?_utf8 s
  rw [h, Json.ofUtf8?_utf8] at hread
  exact (Option.some.inj hread).symm

@[simp]
theorem length_beBytes {n : Nat} : (beBytes width n).length = width := by
  simp [beBytes]

theorem mod_eq_of_beBytes {n : Nat} (h : beBytes width n = beBytes width m) :
    n % 256 ^ width = m % 256 ^ width := by
  induction width with
  | zero => rw [Nat.pow_zero, Nat.mod_one, Nat.mod_one]
  | succ width ih =>
    unfold beBytes at h
    rw [range_succ, map_append, map_append, reverse_append,
      reverse_append] at h
    obtain ⟨hdigit, hrest⟩ := cons.inj h
    have hdigit := congrArg UInt8.toNat hdigit
    simp only [Nat.toUInt8, UInt8.toNat_ofNat', Nat.reducePow, Nat.mod_mod] at hdigit
    rw [Nat.mod_pow_succ, Nat.mod_pow_succ, hdigit, ih hrest]

theorem u64Bytes_injective {n : Nat} (hn : n < 2 ^ 64) (hm : m < 2 ^ 64)
    (h : u64Bytes n = u64Bytes m) : n = m := by
  have h := mod_eq_of_beBytes h
  omega

theorem field_append {name : String} (h : field name value ++ rest = field name value' ++ rest')
    (hvalue : value.length < 2 ^ 64 := by first | decide | exact length_beBytes ▸ by decide)
    (hvalue' : value'.length < 2 ^ 64 := by first | decide | exact length_beBytes ▸ by decide) :
    value = value' ∧ rest = rest' := by
  unfold field at h
  simp only [append_assoc, append_cancel_left_eq] at h
  obtain ⟨hlength, h⟩ := append_inj h (by simp [u64Bytes])
  exact append_inj h (u64Bytes_injective hvalue hvalue' hlength)

theorem field_ne_nil {name : String} : field name value ≠ [] := by
  intro h
  have h := congrArg length h
  simp [field, u64Bytes] at h

theorem getD_injective {α : Type} {d : α} {x y : Option α} (hx : x ≠ some d) (hy : y ≠ some d)
    (h : x.getD d = y.getD d) : x = y := by
  cases x with
  | none =>
    cases y with
    | none => rfl
    | some b => exact absurd (congrArg some h.symm) hy
  | some a =>
    cases y with
    | none => exact absurd (congrArg some h) hx
    | some b => exact congrArg some h

structure IsCode (code : Option Int) : Prop where
  ne : code ≠ some i32Min
  range : ∀ n ∈ code, i32Min ≤ n ∧ n < 2 ^ 31

theorem IsCode.range_getD {code : Option Int} (h : IsCode code) :
    i32Min ≤ code.getD i32Min ∧ code.getD i32Min < 2 ^ 31 := by
  cases code with
  | none => decide
  | some n => exact h.range n rfl

theorem IsCode.injective {code code' : Option Int} (h : IsCode code) (h' : IsCode code')
    (heq : i32Bytes (code.getD i32Min) = i32Bytes (code'.getD i32Min)) : code = code' := by
  apply getD_injective h.ne h'.ne
  have heq := mod_eq_of_beBytes heq
  have hrange := h.range_getD
  have hrange' := h'.range_getD
  unfold i32Min at *
  omega

structure IsText (text : Option String) : Prop where
  ne : text ≠ some ""
  length : (utf8 (text.getD "")).length < 2 ^ 64

theorem IsText.injective {text' : Option String} (h : IsText text) (h' : IsText text')
    (heq : utf8 (text.getD "") = utf8 (text'.getD "")) : text = text' :=
  getD_injective h.ne h'.ne (utf8_injective heq)

structure IsTerminal (terminal : ExecutionTerminal) : Prop where
  exitCode : IsCode terminal.exitCode
  signal : IsCode terminal.signal
  stdoutBytes : terminal.stdoutBytes < 2 ^ 64
  stderrBytes : terminal.stderrBytes < 2 ^ 64
  elapsedMs : terminal.elapsedMs < 2 ^ 64
  error : IsText terminal.error

def IsKind : ExecutionEventKind → Prop
  | .accepted => True
  | .started pid => pid < 2 ^ 32
  | .output _ bytes => bytes.length < 2 ^ 64
  | .terminal terminal => IsTerminal terminal

theorem asStr_injective {kind kind' : TerminalKind} (h : utf8 kind.asStr = utf8 kind'.asStr) :
    kind = kind' := by
  have h := utf8_injective h
  revert h
  cases kind <;> cases kind' <;> simp [TerminalKind.asStr]

theorem length_asStr (kind : TerminalKind) : (utf8 kind.asStr).length < 2 ^ 64 := by
  cases kind <;> decide

namespace ObservationDigest

theorem streamName_injective (h : utf8 (streamName stream) = utf8 (streamName stream')) :
    stream = stream' := by
  have h := utf8_injective h
  revert h
  cases stream <;> cases stream' <;> simp [streamName]

theorem length_streamName : (utf8 (streamName stream)).length < 2 ^ 64 := by
  cases stream <;> decide

theorem eventBytes_injective {event event' : ExecutionEvent} (h : IsKind event.kind)
    (h' : IsKind event'.kind) (heq : eventBytes event ++ rest = eventBytes event' ++ rest') :
    event.kind = event'.kind ∧ rest = rest' := by
  obtain ⟨_, _, _, _, _, kind⟩ := event
  obtain ⟨_, _, _, _, _, kind'⟩ := event'
  -- The first field is the name of the kind, so that only events of one kind agree on it.
  cases kind <;> cases kind' <;> simp only [eventBytes, append_assoc] at heq <;>
    replace heq := field_append heq <;>
    first | exact absurd (utf8_injective heq.1) (by decide) | replace heq := heq.2
  case accepted.accepted => exact ⟨rfl, heq⟩
  case started.started pid pid' =>
    obtain ⟨hpid, heq⟩ := field_append heq
    have hpid := mod_eq_of_beBytes hpid
    change pid < 256 ^ 4 at h
    change pid' < 256 ^ 4 at h'
    rw [Nat.mod_eq_of_lt h, Nat.mod_eq_of_lt h'] at hpid
    rw [hpid]
    exact ⟨rfl, heq⟩
  case output.output stream bytes stream' bytes' =>
    obtain ⟨hstream, heq⟩ := field_append heq length_streamName length_streamName
    obtain ⟨hbytes, hrest⟩ := field_append heq h h'
    rw [streamName_injective hstream, hbytes]
    exact ⟨rfl, hrest⟩
  case terminal.terminal terminal terminal' =>
    obtain ⟨hkind, heq⟩ := field_append heq (length_asStr _) (length_asStr _)
    obtain ⟨hexitCode, heq⟩ := field_append heq
    obtain ⟨hsignal, heq⟩ := field_append heq
    obtain ⟨hstdout, heq⟩ := field_append heq
    obtain ⟨hstderr, heq⟩ := field_append heq
    obtain ⟨htruncated, heq⟩ := field_append heq (Nat.one_lt_two_pow (by decide))
      (Nat.one_lt_two_pow (by decide))
    obtain ⟨helapsed, heq⟩ := field_append heq
    obtain ⟨herror, hrest⟩ := field_append heq h.error.length h'.error.length
    obtain ⟨kind, exitCode, signal, stdoutBytes, stderrBytes, truncated, elapsedMs, error⟩ := terminal
    obtain ⟨kind', exitCode', signal', stdoutBytes', stderrBytes', truncated', elapsedMs', error'⟩ :=
      terminal'
    obtain rfl := asStr_injective hkind
    obtain rfl := h.exitCode.injective h'.exitCode hexitCode
    obtain rfl := h.signal.injective h'.signal hsignal
    obtain rfl := u64Bytes_injective h.stdoutBytes h'.stdoutBytes hstdout
    obtain rfl := u64Bytes_injective h.stderrBytes h'.stderrBytes hstderr
    obtain rfl := u64Bytes_injective h.elapsedMs h'.elapsedMs helapsed
    obtain rfl := h.error.injective h'.error herror
    cases truncated <;> cases truncated' <;> simp at htruncated <;> exact ⟨rfl, hrest⟩

def body : Nat → List ExecutionEvent → Bytes
  | _, [] => []
  | ordinal, event :: events =>
    field "event_ordinal" (u64Bytes ordinal) ++ (eventBytes event ++ body (ordinal + 1) events)

theorem hashed_foldlM {digest : ObservationDigest} {events : List ExecutionEvent}
    (h : events.foldlM update digest = some digest') :
    digest'.hashed = digest.hashed ++ body digest.nextOrdinal events := by
  induction events generalizing digest with
  | nil =>
    cases h
    exact (append_nil _).symm
  | cons event events ih =>
    rw [foldlM_cons] at h
    obtain ⟨next, hnext, h⟩ := Option.bind_eq_some_iff.mp h
    obtain ⟨ordinal, hordinal, rfl⟩ := Option.map_eq_some_iff.mp hnext
    obtain ⟨rfl, _⟩ := Checked.add_eq_some.mp hordinal
    rw [ih h, body]
    simp only [append_assoc]

theorem body_injective {events events' : List ExecutionEvent}
    (h : ∀ event ∈ events, IsKind event.kind) (h' : ∀ event ∈ events', IsKind event.kind)
    (heq : body ordinal events = body ordinal events') :
    events.map ExecutionEvent.kind = events'.map ExecutionEvent.kind := by
  induction events generalizing ordinal events' with
  | nil =>
    cases events' with
    | nil => rfl
    | cons event' events' => exact absurd (append_eq_nil_iff.mp heq.symm).1 field_ne_nil
  | cons event events ih =>
    cases events' with
    | nil => exact absurd (append_eq_nil_iff.mp heq).1 field_ne_nil
    | cons event' events' =>
      rw [forall_mem_cons] at h h'
      obtain ⟨_, heq⟩ := field_append heq
      obtain ⟨hkind, heq⟩ := eventBytes_injective h.1 h'.1 heq
      rw [map_cons, map_cons, hkind, ih h.2 h'.2 heq]

end ObservationDigest

structure Observed where
  callId : String
  tool : String
  targetId : Option String
  generation : Nat
  events : List ExecutionEvent

namespace Observed

open ObservationDigest

def hashed (observation : Observed) : Option Bytes :=
  let digest := ObservationDigest.new observation.callId observation.tool observation.targetId
    observation.generation
  (observation.events.foldlM update digest).map ObservationDigest.hashed

/--
The values that the fixed-width types of the source can hold, without the present values that are
written as an absent one.
-/
structure Representable (observation : Observed) : Prop where
  callId : (utf8 observation.callId).length < 2 ^ 64
  tool : (utf8 observation.tool).length < 2 ^ 64
  targetId : IsText observation.targetId
  generation : observation.generation < 2 ^ 64
  events : ∀ event ∈ observation.events, IsKind event.kind

theorem hashed_determines {observation observation' : Observed} (h : observation.Representable)
    (h' : observation'.Representable) (hhashed : observation.hashed = some bytes)
    (hhashed' : observation'.hashed = some bytes) :
    observation.callId = observation'.callId
      ∧ observation.tool = observation'.tool
      ∧ observation.targetId = observation'.targetId
      ∧ observation.generation = observation'.generation
      ∧ observation.events.map ExecutionEvent.kind
        = observation'.events.map ExecutionEvent.kind := by
  obtain ⟨digest, hdigest, rfl⟩ := Option.map_eq_some_iff.mp hhashed
  obtain ⟨digest', hdigest', heq⟩ := Option.map_eq_some_iff.mp hhashed'
  rw [hashed_foldlM hdigest, hashed_foldlM hdigest'] at heq
  simp only [ObservationDigest.new, append_assoc] at heq
  obtain ⟨_, heq⟩ := field_append heq
  obtain ⟨hcallId, heq⟩ := field_append heq h'.callId h.callId
  obtain ⟨htool, heq⟩ := field_append heq h'.tool h.tool
  obtain ⟨htargetId, heq⟩ := field_append heq h'.targetId.length h.targetId.length
  obtain ⟨hgeneration, heq⟩ := field_append heq
  refine ⟨(utf8_injective hcallId).symm, (utf8_injective htool).symm,
    (h'.targetId.injective h.targetId htargetId).symm, ?_, ?_⟩
  . exact (u64Bytes_injective h'.generation h.generation hgeneration).symm
  . exact (body_injective h'.events h.events heq).symm

theorem hashed_determines_sample : ∃ observation : Observed, ∃ bytes, observation.Representable
    ∧ observation.hashed = some bytes
    ∧ ∀ observation' : Observed, observation'.Representable → observation'.hashed = some bytes
      → observation'.targetId = none
        ∧ observation'.events.map ExecutionEvent.kind = [.accepted, .started 4242] := by
  let events : List ExecutionEvent :=
    [⟨"call-1", none, .shellExec, 0, 0, .accepted⟩, ⟨"call-1", none, .shellExec, 1, 3, .started 4242⟩]
  let observation : Observed := ⟨"call-1", "shell.exec", none, 1, events⟩
  have h : observation.Representable := by
    refine ⟨by decide, by decide, ⟨by decide, by decide⟩, by decide, ?_⟩
    simp [observation, events, IsKind]
  refine ⟨observation, _, h, rfl, ?_⟩
  intro observation' h' hhashed'
  obtain ⟨_, _, htargetId, _, hevents⟩ := hashed_determines h h' rfl hhashed'
  exact ⟨htargetId.symm, hevents.symm⟩

end Observed

end ToolBridge
