import Trillionnium.Host.Lemmas.Coherent

namespace Host

open Concurrent
open EventStore (EventInput)
open Json
open Protocol Monitor Document StoredTurn
open TurnLoop (TurnRequest)

variable {payload : Document}

def written (trace : Prog.Trace Act Act.Res) : List RunTurnFrame :=
  trace.filterMap fun
    | ⟨.write frame, _⟩ => some frame
    | _ => none

def answers (P : List RunTurnFrame → Prop) : Monitor Act Act.Res (List RunTurnFrame) where
  allows frames a :=
    match a with
    | .write frame => P (frames ++ [frame])
    | .spawnWorker _ => False
    | _ => True
  next frames a _ :=
    match a with
    | .write frame => frames ++ [frame]
    | _ => frames

theorem after_answers (P : List RunTurnFrame → Prop) (frames : List RunTurnFrame)
    (trace : Prog.Trace Act Act.Res) :
    (answers P).after frames trace = frames ++ written trace := by
  induction trace generalizing frames with
  | nil => exact (List.append_nil frames).symm
  | cons event trace ih =>
    obtain ⟨a, r⟩ := event
    refine (ih _).trans ?_
    cases a <;> first | rfl | exact List.append_assoc _ _ _

theorem guards_answers {ext : Externals} (P : List RunTurnFrame → Prop) :
    (world ext).Guards (answers P) (fun frames disk => P frames ∧ disk.launched = launched) where
  exec := by
    rintro frames disk a r disk' ⟨hP, hlaunched⟩ hallows hexec
    cases a with
    | append input durable =>
      obtain ⟨answer, hanswer⟩ := hexec
      exact ⟨hP, (appended hanswer).launched.trans hlaunched⟩
    | replay _ | encode _ =>
      obtain ⟨_, rfl⟩ := hexec
      exact ⟨hP, hlaunched⟩
    | receive =>
      cases hexec
      refine ⟨hP, ?_⟩
      unfold Disk.receive
      split <;> exact hlaunched
    | spawnWorker request => exact hallows.elim
    | write frame =>
      cases hexec
      exact ⟨hallows, hlaunched⟩
    | _ =>
      cases hexec
      exact ⟨hP, hlaunched⟩
  rely := by
    intro frames disk disk' _ hrely
    exact hrely.elim

section Deliver

variable {P : List RunTurnFrame → Prop} {frames : List RunTurnFrame}

theorem keeps_answers_deliverFrame {frame : RunTurnFrame} {state : CoreState}
    (h : state.deliveryAttached = true → P (frames ++ [frame])) :
    (answers P).Keeps frames (deliverFrame frame state) (fun state' frames' =>
      state'.deliveryAttached = true → state.deliveryAttached = true ∧ frames' = frames ++ [frame]) := by
  unfold deliverFrame
  split
  next hattached =>
    rw [keeps_bind]
    unfold writeFrame
    rw [keeps_perform_bind]
    refine ⟨trivial, ?_⟩
    intro encoded
    cases encoded with
    | error error =>
      intro hfalse
      cases hfalse
    | ok encoded =>
      dsimp only
      split
      . rw [keeps_perform_bind]
        refine ⟨h hattached, ?_⟩
        intro r
        cases r with
        | error error =>
          intro hfalse
          cases hfalse
        | ok _ => exact fun _ => ⟨hattached, rfl⟩
      . intro hfalse
        cases hfalse
  next hdetached => exact fun hattached => absurd hattached hdetached

theorem keeps_answers_deliverReplay (replayed : List RunTurnFrame) (state : CoreState)
    (h : state.deliveryAttached = true → ∀ part, part <+: replayed → P (frames ++ part)) :
    (answers P).Keeps frames (deliverReplay replayed state) (fun state' frames' =>
      state'.deliveryAttached = true
        → state.deliveryAttached = true ∧ frames' = frames ++ replayed) := by
  induction replayed generalizing frames state with
  | nil => exact fun hattached => ⟨hattached, (List.append_nil frames).symm⟩
  | cons frame replayed ih =>
    unfold deliverReplay
    apply (keeps_answers_deliverFrame _).bind
    . intro state' frames' hframes
      apply (ih _ _).mono
      . intro state'' frames'' hreplayed hattached
        obtain ⟨hmiddle, rfl⟩ := hreplayed hattached
        obtain ⟨hbefore, rfl⟩ := hframes hmiddle
        rw [List.append_assoc]
        exact ⟨hbefore, rfl⟩
      . intro hattached part hpart
        obtain ⟨hbefore, rfl⟩ := hframes hattached
        rw [List.append_assoc]
        exact h hbefore _ (List.cons_prefix_cons.mpr ⟨rfl, hpart⟩)
    . intro hattached
      exact h hattached [frame] ⟨replayed, rfl⟩

end Deliver

section Classify

variable {ext : Externals} {disk : Disk}

theorem Coherent.classify (h : Coherent ext disk) {scope : EventStore.TurnScope}
    (hne : disk.records scope ≠ []) (digest : String) :
    (∀ event ∈ disk.records scope, Stored scope digest event)
        ∧ (∃ stored, List.Forall₂ (IsRecord scope digest) (disk.records scope) stored
          ∧ (classify scope digest (disk.records scope) = .complete stored
            ∨ (∀ event ∈ disk.records scope, event.kind ≠ frameTurnEnd)
              ∧ classify scope digest (disk.records scope) = .incomplete stored))
      ∨ (∀ event ∈ disk.records scope, storedRequest event ≠ some digest)
        ∧ ∃ error, classify scope digest (disk.records scope) = .conflict error := by
  obtain ⟨first, rest, hrecords⟩ := List.exists_cons_of_ne_nil hne
  have hfirst : first ∈ disk.records scope := by
    rw [hrecords]
    apply List.mem_cons_self
  have hlog := (mem_records.mp hfirst).1
  obtain ⟨digest', hstored⟩ := h.stored first hlog
  rw [(mem_records.mp hfirst).2] at hstored
  have hsame : ∀ event ∈ disk.records scope,
      storedRequest event = some digest' := by
    intro event hmem
    obtain ⟨hevent, hscope⟩ := mem_records.mp hmem
    rw [h.sameDigest event hevent first hlog (hscope.trans (mem_records.mp hfirst).2.symm)]
    exact hstored.storedRequest_eq
  by_cases hdigest : digest = digest'
  . cases hdigest
    have hall : ∀ event ∈ disk.records scope, Stored scope digest event := by
      intro event hmem
      obtain ⟨hevent, hscope⟩ := mem_records.mp hmem
      obtain ⟨found, hfound⟩ := h.stored event hevent
      have heq := hsame event hmem
      rw [hfound.storedRequest_eq] at heq
      cases heq
      rwa [hscope] at hfound
    refine .inl ⟨hall, ?_⟩
    apply classify_stored hall hne
    apply (h.endsLast.sublist List.filter_sublist).imp_of_mem
    intro event event' hmem hmem' hends hkind
    apply hends hkind
    rw [(mem_records.mp hmem).2, (mem_records.mp hmem').2]
  . refine .inr ⟨?_, _, hrecords ▸ classify_conflict hstored hdigest⟩
    intro event hmem heq
    rw [hsame event hmem] at heq
    exact hdigest (Option.some.inj heq).symm

end Classify

section Closing

theorem isObject_decorateLogStatus (h : payload.isObject = true) :
    (decorateLogStatus payload persistence).isObject = true := by
  unfold decorateLogStatus
  dsimp only
  split <;> simp [isObject_insert, h]

theorem get?_decorateLogStatus_of_ne (h : payload.isObject = true) (persistence : Persistence)
    {name : String} (hname : name ∉ ["event_log_status", "runtime_ready", "event_log_error"]) :
    (decorateLogStatus payload persistence).get? name = payload.get? name := by
  simp only [List.mem_cons, List.not_mem_nil, or_false, not_or] at hname
  obtain ⟨hstatus, hready, herror⟩ := hname
  unfold decorateLogStatus
  dsimp only
  split <;> simp [get?_insert, isObject_insert, h, Ne.symm hstatus, Ne.symm hready,
    Ne.symm herror]

theorem get?_decorateLogStatus (h : payload.isObject = true) :
    (decorateLogStatus payload persistence).get? "status" = payload.get? "status" :=
  get?_decorateLogStatus_of_ne h persistence (by decide)

structure Unobserved (frame : RunTurnFrame) : Prop where
  kind : frame.kind = frameTurnEnd
  isObject : frame.payload.isObject = true
  status : frame.payload.get? "status" = some (.ofString "unknown_after_disconnect")

theorem unobserved_turnFrame (output : OutputState) (persistence : Persistence)
    (context : TurnContext) :
    Unobserved (output.turnFrame frameTurnEnd (reconciliationPayload persistence) context
      .default).1 := by
  have hobject : (reconciliationPayload persistence).isObject = true := isObject_object _
  refine ⟨rfl, (isObject_insert _ _ _).trans hobject, ?_⟩
  refine (get?_insert hobject _ _ _).trans ?_
  rw [if_neg (by decide)]
  exact get?_object _ _

variable {frame : RunTurnFrame}

theorem Unobserved.decoratedFrame (h : Unobserved frame) (persistence : Persistence) :
    Unobserved (decoratedFrame frame persistence) where
  kind := h.kind
  isObject := isObject_decorateLogStatus h.isObject
  status := (get?_decorateLogStatus h.isObject).trans h.status

end Closing

section Start

variable {ext : Externals} {state : CoreState} {context : TurnContext} {P : List RunTurnFrame → Prop}

variable {disk disk' : Disk} {trace : Prog.Trace Act Act.Res}

theorem answered {α : Type} {p rest : Run α}
    (hrun : (world ext).Interleaves disk p trace disk' rest)
    (hkeeps : (answers P).Keeps [] p (fun _ _ => True)) (hnil : P []) :
    disk'.launched = disk.launched ∧ P (written trace) := by
  obtain ⟨_, hP, hlaunched⟩ :=
    (guards_answers P).interleaves hrun hkeeps ⟨hnil, rfl⟩
  rw [after_answers, List.nil_append] at hP
  exact ⟨hlaunched, hP⟩

end Start

end Host
