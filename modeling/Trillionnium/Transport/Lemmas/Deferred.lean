import Trillionnium.Host.Lemmas.Once
import Trillionnium.Transport.Lemmas.Conserve
import Trillionnium.Transport.Lemmas.Order

namespace Transport

open Host (Externals TurnContext frameHostError)
open Json Protocol TransportHandshake List Event

variable {ext : Externals} {options : Options}

section Answered

def Loop.deferrals (s : Loop) : List DeferredHandshakeAction :=
  (s.log.flatMap deferral).filter (·.isLocal)

def Event.answer : Event → List (DeferredHandshakeAction × Sent)
  | .sent ⟨frame, binding, written, .answers action⟩ =>
    [(action, ⟨frame, binding, written, .answers action⟩)]
  | _ => []

def Loop.answers (s : Loop) : List (DeferredHandshakeAction × Sent) := s.log.flatMap answer

structure AnsweredOnce (s : Loop) : Prop where
  once : s.deferrals.Perm (s.answers.map Prod.fst ++ s.handshake.deferred.filter (·.isLocal))
  settled : s.handshake.holdsLocalDelivery = false → s.handshake.deferred = []
  answer : ∀ pair ∈ s.answers, pair.2.Answers pair.1
  written : s.delivery.attached = true → ∀ pair ∈ s.answers, pair.2.written = true

theorem mem_answer {event : Event} (h : pair ∈ event.answer) :
    event = .sent pair.2 ∧ pair.2.note = .answers pair.1 := by
  cases event with
  | sent message =>
    obtain ⟨frame, binding, written, note⟩ := message
    cases note with
    | answers action =>
      rw [mem_singleton.mp h]
      exact ⟨rfl, rfl⟩
    | _ => cases h
  | _ => cases h

theorem filter_disposal {events : List Event} (h : ∀ event ∈ events, event.Within p q False) :
    (events.flatMap disposal).filter (·.isLocal)
      = (events.flatMap answer).map Prod.fst := by
  induction events with
  | nil => rfl
  | cons event events ih =>
    obtain ⟨hevent, hevents⟩ := forall_mem_cons.mp h
    have hfirst : event.disposal.filter (·.isLocal) = event.answer.map Prod.fst := by
      cases event with
      | sent message =>
        obtain ⟨frame, binding, written, note⟩ := message
        cases note with
        | answers action => exact filter_cons_of_pos (hevent action rfl).2.1
        | _ => rfl
      | discarded action =>
        apply filter_cons_of_neg
        exact hevent
      | _ => rfl
    rw [flatMap_cons, flatMap_cons, filter_append, map_append, ih hevents,
      hfirst]

theorem Account.answeredOnce (h : Balanced False s) : AnsweredOnce s := by
  obtain ⟨events, hlog, hwithin⟩ := h.events
  rw [nil_append] at hlog
  rw [← hlog] at hwithin
  refine ⟨?_, h.closed, ?_, ?_⟩
  . have hperm := h.balance.filter (·.isLocal)
    rw [filter_append, filter_disposal hwithin, nil_append] at hperm
    exact hperm
  . intro pair hmem
    obtain ⟨event, hevent, hanswer⟩ := mem_flatMap.mp hmem
    obtain ⟨rfl, hnote⟩ := mem_answer hanswer
    exact hwithin _ hevent pair.1 hnote
  . intro hattached pair hmem
    obtain ⟨event, hevent, hanswer⟩ := mem_flatMap.mp hmem
    obtain ⟨rfl, _⟩ := mem_answer hanswer
    exact h.wrote hattached _ hevent

theorem answeredOnce_of_avoids {messages : List Message} {connectionId : String}
    {journal : TransportJournal} {outcomes : Nat → Option String} {s : Loop}
    (havoids : Avoids ext options (Forgets ext) messages
      (.start options connectionId journal outcomes))
    (hrun : runLoop ext options messages (.start options connectionId journal outcomes) = .ok s) :
    AnsweredOnce s := by
  apply Account.answeredOnce
  refine balanced_runLoop (balanced_start outcomes) ?_ hrun
  exact havoids.mono fun _ _ h => h.1

section Sample

def sampleBinding (requestId : String) : BrokerRequestBinding where
  requestId := requestId
  requestSha256 := "0000000000000000000000000000000000000000000000000000000000000000"
  upstreamSeq := 1

def sampleGreeting : ValidFrame :=
  ⟨{ sampleDelta "" [] with kind := frameHello }, by decide +kernel⟩

def sampleAck : ValidFrame :=
  ⟨{ sampleDelta "" [] with kind := frameHelloAck }, by decide +kernel⟩

def sampleTurnStart : ValidFrame :=
  ⟨{ Host.sampleStart with extensions := (sampleBinding "request-1").fields }, by decide +kernel⟩

def sampleEcho (kind : String) (extensions : List (String × Document)) : RunTurnFrame :=
  { sampleDelta "late" extensions with
    kind := kind
    turnId := some "turn"
    turnStreamId := some
      "r5-stream-34f7dede921ac1362a012b71739510d7397787ab5b27952f812bdc467368708f" }

def sampleConflict : ValidFrame :=
  ⟨sampleEcho "turn.rejected" [("broker_request_id", .ofString "request-0")], by decide +kernel⟩

def sampleLoop : Loop :=
  .start sampleOptions "connection" ⟨true, none, 0, fun _ => none⟩ fun _ => none

def sampleUnavailable : List Message := [
  .clientFrame sampleGreeting none,
  .clientGarbage (.invalidJson "line") (some (sampleBinding "request-2")),
  .coreEof]

def sampleForgotten : List Message := [
  .clientFrame sampleGreeting none,
  .clientFrame sampleTurnStart none,
  .clientGarbage (.invalidJson "line") (some (sampleBinding "request-2")),
  .coreFrame sampleConflict,
  .coreFrame sampleAck]

def Loop.tally (s : Loop) : Nat × Nat × Nat :=
  (s.deferrals.length, s.answers.length, s.handshake.deferred.length)

theorem exists_of_any {α : Type} {x : Option α} {P : α → Bool} (h : x.any P = true) :
    ∃ y, x = some y ∧ P y = true := by
  cases x with
  | none => cases h
  | some y => exact ⟨y, rfl, h⟩

theorem eq_ok_of_toOption {α : Type} {x : Except String α} {y : α} (h : x.toOption = some y) :
    x = .ok y := by
  cases x with
  | error error => cases h
  | ok z =>
    cases h
    rfl

theorem tally_sampleUnavailable :
    (runLoop .reference sampleOptions sampleUnavailable sampleLoop).toOption.any
      (fun s => s.tally = (1, 1, 0)) = true := by
  decide +kernel

theorem tally_sampleForgotten :
    (runLoop .reference sampleOptions sampleForgotten sampleLoop).toOption.any
      (fun s => s.tally = (1, 0, 0)) = true := by
  decide +kernel

end Sample

theorem answeredOnce_sampleUnavailable : ∃ s,
    runLoop .reference sampleOptions sampleUnavailable sampleLoop = .ok s
      ∧ s.tally = (1, 1, 0) ∧ AnsweredOnce s := by
  obtain ⟨s, hrun, htally⟩ := exists_of_any tally_sampleUnavailable
  have hrun := eq_ok_of_toOption hrun
  refine ⟨s, hrun, of_decide_eq_true htally, answeredOnce_of_avoids ?_ hrun⟩
  apply avoids_of_forall
  rintro message hmem s ⟨frame, rfl, _⟩
  simp [sampleUnavailable] at hmem

theorem not_answeredOnce_sampleForgotten : ∃ s,
    runLoop .reference sampleOptions sampleForgotten sampleLoop = .ok s ∧ ¬ AnsweredOnce s := by
  obtain ⟨s, hrun, htally⟩ := exists_of_any tally_sampleForgotten
  refine ⟨s, eq_ok_of_toOption hrun, ?_⟩
  intro hanswered
  have htally : s.tally = (1, 0, 0) := of_decide_eq_true htally
  obtain ⟨hdeferred, hanswers, hqueue⟩ : s.deferrals.length = 1 ∧ s.answers.length = 0
      ∧ s.handshake.deferred.length = 0 := by
    simpa [Loop.tally] using htally
  have hlength := hanswered.once.length_eq
  rw [hdeferred, eq_nil_of_length_eq_zero hanswers,
    eq_nil_of_length_eq_zero hqueue] at hlength
  cases hlength

end Answered

section Rejected

def isOfTurn (frame : RunTurnFrame) (active : Option TurnContext) : Bool :=
  active.any fun context =>
    match BrokerLineage.fromFrame frame with
    | .error _ => false
    | .ok lineage =>
      lineage.turnId = some context.turnId && lineage.turnStreamId = some context.turnStreamId

def runPending (ext : Externals) (options : Options) : List Message → Loop → Option Loop
  | [], s => some s
  | message :: messages, s =>
    match handle ext options message s with
    | .ok ((), s') =>
      if s'.handshake.turnPending then runPending ext options messages s' else none
    | .error _ => none

def replay (ext : Externals) (options : Options) (before pending : List Message)
    (message : Message) (s : Loop) : Option (Loop × Loop × Loop) := do
  let s₀ ← (runLoop ext options before s).toOption
  let s₁ ← runPending ext options pending s₀
  let (_, s₂) ← (handle ext options message s₁).toOption
  return (s₀, s₁, s₂)

def Event.isRejection : Event → Bool
  | .rejected _ _ => true
  | _ => false

def Loop.since (s s' : Loop) : List Event := s'.log.drop s.log.length

variable {s s' : Loop}

theorem since_eq (h : s'.log = s.log ++ events) : s.since s' = events := by
  unfold Loop.since
  rw [h, drop_left]

theorem Account.since (h : Account p q r s.log [] G s') :
    s'.log = s.log ++ s.since s' ∧ ∀ event ∈ s.since s', event.Within p q r := by
  obtain ⟨events, hlog, hwithin⟩ := h.events
  rw [since_eq hlog]
  exact ⟨hlog, hwithin⟩

theorem since_append {a b c : Loop} (hab : b.log = a.log ++ a.since b)
    (hbc : c.log = b.log ++ b.since c) :
    a.since c = a.since b ++ b.since c ∧ c.log = a.log ++ a.since c := by
  have hac : c.log = a.log ++ (a.since b ++ b.since c) := by
    rw [hbc, hab, append_assoc]
  have hsince := since_eq hac
  exact ⟨hsince, by rw [hsince]; exact hac⟩

theorem Steps.log (h : Steps r s s') : s'.log = s.log ++ s.since s' := by
  cases h with
  | held h | opened h | rejected h => exact h.since.1

theorem steps_of_handle (h : Balanced True s) (hrun : handle ext options message s = .ok ((), s')) :
    Steps True s s' ∧ Balanced True s' :=
  ⟨handle_step (fun _ _ => h.restart) (fun _ => trivial) s rfl () s' hrun,
    balanced_step h (fun _ => trivial) hrun⟩

theorem log_runLoop (h : Balanced True s) (hrun : runLoop ext options messages s = .ok s') :
    s'.log = s.log ++ s.since s' := by
  have hself : ∀ s : Loop, s.log = s.log ++ s.since s := by
    intro s
    rw [since_eq (append_nil s.log).symm, append_nil]
  induction messages generalizing s with
  | nil =>
    cases hrun
    exact hself s'
  | cons message messages ih =>
    unfold runLoop at hrun
    split at hrun
    next =>
      cases hrun
      exact hself s'
    next =>
      cases hstep : handle ext options message s with
      | error error =>
        rw [hstep] at hrun
        cases hrun
      | ok result =>
        rw [hstep] at hrun
        obtain ⟨hsteps, hbalanced⟩ := steps_of_handle h hstep
        exact (since_append hsteps.log (ih hbalanced hrun)).2

theorem not_released_of_pending (h : Steps True s s') (hpending : s'.handshake.turnPending = true)
    (frame : RunTurnFrame) : .released frame ∉ s.since s' := by
  intro hmem
  cases h with
  | held h => exact h.since.2 _ hmem
  | opened h | rejected h =>
    have hshut := (isShut_iff.mp h.gates).2
    rw [hpending] at hshut
    cases hshut

theorem runPending_spec (h : Balanced True s) (hrun : runPending ext options messages s = some s') :
    Balanced True s' ∧ s'.log = s.log ++ s.since s' ∧ ∀ frame, .released frame ∉ s.since s' := by
  induction messages generalizing s with
  | nil =>
    cases hrun
    have hnil : s'.since s' = [] := since_eq (append_nil s'.log).symm
    rw [hnil]
    exact ⟨h, (append_nil s'.log).symm, fun _ hmem => by cases hmem⟩
  | cons message messages ih =>
    unfold runPending at hrun
    cases hstep : handle ext options message s with
    | error error =>
      rw [hstep] at hrun
      cases hrun
    | ok result =>
      rw [hstep] at hrun
      obtain ⟨_, s₁⟩ := result
      dsimp only at hrun
      split at hrun
      next hpending =>
        obtain ⟨hsteps, hbalanced⟩ := steps_of_handle h hstep
        obtain ⟨hbalanced', hlog, hreleased⟩ := ih hbalanced hrun
        obtain ⟨hsince, hlog'⟩ := since_append hsteps.log hlog
        refine ⟨hbalanced', hlog', ?_⟩
        intro frame hmem
        rw [hsince] at hmem
        cases mem_append.mp hmem with
        | inl hmem => exact not_released_of_pending hsteps hpending frame hmem
        | inr hmem => exact hreleased frame hmem
      next => cases hrun

theorem mem_deferral {event : Event} (h : action ∈ event.deferral) : event = .deferred action := by
  cases event with
  | deferred action' =>
    rw [mem_singleton.mp h]
  | _ => cases h

theorem deferred_of_released (h : Balanced True s) (h' : Balanced True s')
    (hlog : s'.log = s.log ++ s.since s') (hempty : s.handshake.deferred = [])
    {frame : RunTurnFrame} (hreleased : .released frame ∈ s.since s') :
    .deferred (.core frame) ∈ s.since s' := by
  have hbefore := h.balance
  have hafter := h'.balance
  rw [hempty, append_nil, append_nil] at hbefore
  rw [hlog, flatMap_append, flatMap_append, append_assoc] at hafter
  -- What was deferred before is disposed of before.
  have hsegment := (perm_append_left_iff _).mp
    ((hbefore.symm.append_right _).trans hafter)
  have hdisposal : .core frame ∈ (s.since s').flatMap disposal :=
    mem_flatMap.mpr ⟨_, hreleased, mem_singleton_self _⟩
  have hdeferral := hsegment.mem_iff.mpr (mem_append_left _ hdisposal)
  obtain ⟨event, hmem, hevent⟩ := mem_flatMap.mp hdeferral
  rw [← mem_deferral hevent]
  exact hmem

theorem replay_eq_some {before : List Message} {s₀ s₁ s₂ : Loop}
    (h : replay ext options before pending message s = some (s₀, s₁, s₂)) :
    runLoop ext options before s = .ok s₀ ∧ runPending ext options pending s₀ = some s₁
      ∧ handle ext options message s₁ = .ok ((), s₂) := by
  unfold replay at h
  obtain ⟨a, ha, h⟩ := Option.bind_eq_some_iff.mp h
  obtain ⟨b, hb, h⟩ := Option.bind_eq_some_iff.mp h
  obtain ⟨⟨_, c⟩, hc, h⟩ := Option.bind_eq_some_iff.mp h
  cases h
  exact ⟨eq_ok_of_toOption ha, hb, eq_ok_of_toOption hc⟩

def RejectsInQueue (s : Loop) : Prop :=
  s.handshake.awaitingAck = true
    ∨ ∀ frame, .core frame ∈ s.handshake.deferred → isOfTurn frame s.active = false

theorem not_released_of_rejected {before pending after : List Message} {message : Message}
    {connectionId : String} {journal : TransportJournal} {outcomes : Nat → Option String}
    {s₀ s₁ s₂ s₃ : Loop} (hreplay : replay ext options before pending message
      (.start options connectionId journal outcomes) = some (s₀, s₁, s₂))
    (hrejected : (s₁.since s₂).any isRejection = true) (hqueue : RejectsInQueue s₁)
    (hafter : runLoop ext options after s₂ = .ok s₃) :
    (∀ frame, .released frame ∈ s₀.since s₂ → isOfTurn frame s₁.active = false)
      ∧ ∀ frame, .released frame ∈ s₂.since s₃ → .deferred (.core frame) ∈ s₂.since s₃ := by
  have havoids : ∀ messages s, Avoids ext options (fun s message => Forgets ext s message ∧ ¬ True)
      messages s :=
    fun messages => avoids_of_forall fun _ _ _ h => h.2 trivial
  obtain ⟨hbefore, hpending, hstep⟩ := replay_eq_some hreplay
  have h₀ := balanced_runLoop (balanced_start outcomes)
    (havoids before _) hbefore
  obtain ⟨h₁, hlog₁, hheld⟩ := runPending_spec h₀ hpending
  obtain ⟨hsteps, h₂⟩ := steps_of_handle h₁ hstep
  have h₃ := balanced_runLoop h₂ (havoids after _) hafter
  have hlog₃ := log_runLoop h₂ hafter
  obtain ⟨event, hevent, hrejection⟩ := any_eq_true.mp hrejected
  have hwitness : ∀ {p}, ¬ event.Within p False True := by
    intro p hwithin
    cases event with
    | rejected resolver turn => exact hwithin
    | _ => cases hrejection
  cases hsteps with
  | held h | opened h => exact absurd (h.since.2 event hevent) hwitness
  | rejected h =>
    constructor
    . intro frame hmem
      rw [(since_append hlog₁ h.since.1).1] at hmem
      cases mem_append.mp hmem with
      | inl hmem => exact absurd hmem (hheld frame)
      | inr hmem =>
        obtain ⟨hgreeted, hwaiting⟩ := h.since.2 _ hmem
        cases hqueue with
        | inl hawaiting =>
          rw [hgreeted] at hawaiting
          cases hawaiting
        | inr hnone => exact hnone frame hwaiting
    . intro frame hmem
      exact deferred_of_released h₂ h₃ hlog₃ (h₂.closed h.gates) hmem

section Sample

def sampleRejection : ValidFrame := ⟨sampleEcho "turn.rejected" [], by decide +kernel⟩

def sampleLate : ValidFrame := ⟨sampleEcho frameModelDelta [], by decide +kernel⟩

def Event.releasesTurn (active : Option TurnContext) : Event → Bool
  | .released frame => isOfTurn frame active
  | _ => false

def Event.delivers (kind : String) : Event → Bool
  | .sent message => message.frame.kind = kind && message.written
  | _ => false

def sampleQueued : Option (Loop × Loop × Loop) :=
  replay .reference sampleOptions
    [.clientFrame sampleGreeting none, .clientFrame sampleTurnStart none]
    [.coreFrame sampleLate, .coreFrame sampleRejection] (.coreFrame sampleAck) sampleLoop

def sampleDirect : Option (Loop × Loop × Loop) :=
  replay .reference sampleOptions [.clientFrame sampleTurnStart none] [.coreFrame sampleLate]
    (.coreFrame sampleRejection) sampleLoop

theorem sampleQueued_rejects : sampleQueued.any (fun states =>
    (states.2.1.since states.2.2).any isRejection && states.2.1.handshake.awaitingAck)
      = true := by
  decide +kernel

theorem sampleDirect_rejects : sampleDirect.any (fun states =>
    (states.2.1.since states.2.2).any isRejection
      && (states.2.1.since states.2.2).any (releasesTurn states.2.1.active)
      && (states.2.1.since states.2.2).any (delivers frameModelDelta)) = true := by
  decide +kernel

end Sample

theorem not_released_sampleQueued : ∃ s₀ s₁ s₂ : Loop, sampleQueued = some (s₀, s₁, s₂)
    ∧ (s₁.since s₂).any isRejection = true
    ∧ ∀ frame, .released frame ∈ s₀.since s₂ → isOfTurn frame s₁.active = false := by
  obtain ⟨⟨s₀, s₁, s₂⟩, hreplay, hchecks⟩ := exists_of_any sampleQueued_rejects
  obtain ⟨hrejected, hawaiting⟩ := Bool.and_eq_true_iff.mp hchecks
  have hafter : runLoop .reference sampleOptions [] s₂ = .ok s₂ := rfl
  exact ⟨s₀, s₁, s₂, hreplay, hrejected,
    (not_released_of_rejected hreplay hrejected (.inl hawaiting) hafter).1⟩

theorem released_sampleDirect : ∃ s₀ s₁ s₂ : Loop, sampleDirect = some (s₀, s₁, s₂)
    ∧ (s₁.since s₂).any isRejection = true
    ∧ (∃ frame, .released frame ∈ s₁.since s₂ ∧ isOfTurn frame s₁.active = true)
    ∧ (s₁.since s₂).any (delivers frameModelDelta) = true := by
  obtain ⟨⟨s₀, s₁, s₂⟩, hreplay, hchecks⟩ := exists_of_any sampleDirect_rejects
  obtain ⟨hchecks, hdelivers⟩ := Bool.and_eq_true_iff.mp hchecks
  obtain ⟨hrejected, hreleases⟩ := Bool.and_eq_true_iff.mp hchecks
  refine ⟨s₀, s₁, s₂, hreplay, hrejected, ?_, hdelivers⟩
  obtain ⟨event, hmem, hevent⟩ := any_eq_true.mp hreleases
  cases event with
  | released frame => exact ⟨frame, hmem, hevent⟩
  | _ => cases hevent

end Rejected

end Transport
