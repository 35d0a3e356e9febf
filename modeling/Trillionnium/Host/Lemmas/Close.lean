import Trillionnium.Host.Lemmas.Once

namespace Host

open Concurrent
open EventStore (EventInput EventLog)
open Json
open Protocol
open TurnLoop (TurnEvent)

section Inversion

variable {ext : Externals} {disk disk' : Disk} {state state' : CoreState} {context : TurnContext}
  {frame : RunTurnFrame} {stored : List RunTurnFrame} {trace : Prog.Trace Act Act.Res}

theorem not_rely (disk disk' : Disk) : ¬ (workingWorld ext).rely disk disk' := id

theorem unchanged_of_speaks {α : Type} {p : Run α} {P : α → Prop} {x : α} (hp : p.Only Act.Speaks P)
    (hrun : (workingWorld ext).Interleaves disk p trace disk' (.pure x)) : disk' = disk ∧ P x := by
  apply hrun.unchanged not_rely _ hp
  intro s a r s' ha hexec
  cases a with
  | controlSeq | write _ => exact hexec.1
  | encode frame => exact hexec.1.2
  | _ => exact ha.elim

theorem resumeTurn_of_round {request : RunTurnRequest} (hidle : state.active = none)
    (hdurable : state.persistence.isDurable = true) (hkind : frame.kind = frameTurnStart)
    (hrequest : frame.turnRequest limits = .ok request)
    (hcontext : turnContext ext request = context)
    (hrun : (workingWorld ext).Interleaves disk (round ext state)
      (⟨.receive, .message (.inbound (.ok frame))⟩ :: served) disk' (.pure flow)) :
    ∃ rest, served = ⟨.replay context.durableScope, .ok (disk.records context.durableScope)⟩ :: rest
      ∧ (workingWorld ext).Interleaves { disk with inbound := some frame }
        (resumeTurn context request.userInput { state with output := state.output.restart }
          (.classify context.durableScope context.requestSha256 (disk.records context.durableScope)))
        rest disk' (.pure flow) := by
  unfold round at hrun
  split at hrun
  . cases hrun with
    | other hrely => exact hrely.elim
  . obtain ⟨r, disk₁, rest, htrace, hexec, hserve⟩ := World.Interleaves.performed not_rely hrun
    cases htrace
    cases hexec.1
    change (workingWorld ext).Interleaves { disk with inbound := some frame }
      (handleInbound ext (.ok frame) state) served disk' _ at hserve
    unfold handleInbound at hserve
    rw [hidle] at hserve
    dsimp only at hserve
    unfold handleIdleFrame at hserve
    rw [hkind, if_neg (by decide), if_pos rfl] at hserve
    unfold handleTurnStart at hserve
    rw [hrequest] at hserve
    dsimp only at hserve
    rw [hcontext] at hserve
    unfold startTurn at hserve
    dsimp only at hserve
    rw [effectAdmissionError_of_isDurable hdurable] at hserve
    dsimp only at hserve
    rw [load_eq hdurable] at hserve
    change (workingWorld ext).Interleaves _ (perform (.replay context.durableScope) >>= fun r =>
      resumeTurn context request.userInput _ (.ofReplay _ _ r)) served disk' _ at hserve
    obtain ⟨r, disk₁, rest, rfl, ⟨⟨_, rfl⟩, hworks⟩, hresume⟩ :=
      World.Interleaves.performed not_rely hserve
    cases hworks
    exact ⟨rest, rfl, hresume⟩

def closingFrame (context : TurnContext) (stored : List RunTurnFrame) (state : CoreState) :
    RunTurnFrame :=
  decoratedFrame ((state.output.observeReplay stored).turnFrame frameTurnEnd
    (reconciliationPayload state.persistence) context .default).1 state.persistence

def closingId (context : TurnContext) (stored : Nat) : String :=
  OutputState.eventId context.turnStreamId (min stored (2 ^ 64 - 1))

def closingRecord (context : TurnContext) (stored : List RunTurnFrame) (state : CoreState) :
    EventInput :=
  frameInput context.durableScope context.requestSha256 (closingId context stored.length)
    (closingFrame context stored state)

theorem isRecord_closingRecord :
    IsRecord context.durableScope context.requestSha256 (closingRecord context stored state)
      (closingFrame context stored state) := by
  apply isRecord_frameInput _ rfl
  apply IsTurnFrame.decoratedFrame
  apply isTurnFrame_turnFrame

def closedReplay (context : TurnContext) (stored : List RunTurnFrame) (state : CoreState)
    (r : Except String Unit) : List RunTurnFrame :=
  stored ++ [match r with
    | .ok () => closingFrame context stored state
    | .error error => unrecordedFrame (closingFrame context stored state)
      (state.persistence.disable error)]

def closedState (stored : List RunTurnFrame) (context : TurnContext) (state : CoreState)
    (r : Except String Unit) : CoreState :=
  { state with
    output := ((state.output.observeReplay stored).turnFrame frameTurnEnd
      (reconciliationPayload state.persistence) context .default).2
    persistence := (recorded state.persistence r).2 }

theorem reconcileTurn_eq (hdurable : state.persistence.isDurable = true) :
    reconcileTurn context stored state
      = (perform (.append (closingRecord context stored state) true) >>= fun r =>
        deliverReplay (closedReplay context stored state r) (closedState stored context state r)) := by
  have hframe := isTurnFrame_turnFrame (state.output.observeReplay stored) frameTurnEnd
    (reconciliationPayload state.persistence) context .default
  have heventId : ((state.output.observeReplay stored).turnFrame frameTurnEnd
    (reconciliationPayload state.persistence) context .default).1.eventId
      = some (closingId context stored.length) := rfl
  have hkind : ((state.output.observeReplay stored).turnFrame frameTurnEnd
    (reconciliationPayload state.persistence) context .default).1.kind = frameTurnEnd := rfl
  unfold reconcileTurn newFrame closedReplay closedState closingRecord closingFrame
  dsimp only
  generalize (state.output.observeReplay stored).turnFrame frameTurnEnd
    (reconciliationPayload state.persistence) context .default = made at hframe heventId hkind ⊢
  obtain ⟨terminal, output⟩ := made
  have happend := appendFrame_eq hdurable
    (hframe.decoratedFrame state.persistence) heventId context.requestSha256
  have hauthority : isAuthorityFrame (decoratedFrame terminal state.persistence).kind = true := by
    change isAuthorityFrame terminal.kind = true
    rw [hkind]
    rfl
  rw [hauthority] at happend
  change (Persistence.appendFrame _ _ (decoratedFrame terminal state.persistence) _ >>= _) >>= _ = _
  rw [happend]
  change Prog.act _ _ = Prog.act _ _
  congr 1
  funext r
  cases r <;> rfl

end Inversion

section Settled

variable {ext : Externals} {disk disk' : Disk} {scope : EventStore.TurnScope}
  {records : List EventInput}

def Settled (scope : EventStore.TurnScope) (records : List EventInput) (disk : Disk) : Prop :=
  disk.records scope = records
    ∧ (disk.durable.filter fun event => event.scope = scope) = records

theorem durable_isPrefix (disk : Disk) : disk.durable <+: disk.log := List.take_prefix _ _

theorem Settled.between (h : Settled scope records disk) (hsafe : disk.durable <+: disk'.durable)
    (hrecords : disk'.records scope <+: records) : Settled scope records disk' := by
  have hlow := hsafe.filter fun event => decide (event.scope = scope)
  have hhigh := (durable_isPrefix disk').filter fun event => decide (event.scope = scope)
  rw [h.2] at hlow
  have heq : disk'.records scope = records := hrecords.eq_of_length_le (hlow.trans hhigh).length_le
  refine ⟨heq, (hlow.eq_of_length_le ?_).symm⟩
  rw [← heq]
  exact hhigh.length_le

theorem Settled.crash (h : Settled scope records disk) (kept : Nat) :
    Settled scope records (disk.crash kept) := by
  apply h.between
  . rw [durable_crash]
  . rw [← h.1]
    exact (List.take_prefix _ _).filter _

theorem guards_settled (hend : ∃ event ∈ records, event.kind = frameTurnEnd) :
    (world ext).Guards (journal ext) (fun g disk => Invariant ext g disk ∧ Settled scope records disk) := by
  apply guards_and
  . intro disk disk' hlog hsynced h
    unfold Settled Disk.records Disk.durable
    rw [hlog, hsynced]
    exact h
  . intro g disk disk' input durable r hinvariant hallows happended h
    apply h.between happended.safe
    obtain ⟨digest, hstored, hfollows⟩ := hinvariant.mayFollow hallows
    obtain ⟨event, hevent, hkind⟩ := hend
    have hother : input.scope ≠ scope := by
      rintro rfl
      rw [← h.1] at hevent
      obtain ⟨hmem, hscope⟩ := mem_records.mp hevent
      exact (hfollows event hmem hscope).2 hkind
    rw [← h.1]
    unfold Disk.records
    rcases happended.log with ⟨hlog, _⟩ | hlog
    . rw [hlog]
    . rw [hlog, List.filter_append, List.filter_singleton, decide_eq_false hother]
      simp

theorem guards_isAccepted (digest : String) :
    (world ext).Guards (journal ext) (fun g disk => Invariant ext g disk ∧ IsAccepted disk scope digest) := by
  apply guards_and
  . intro disk disk' hlog hsynced h
    unfold IsAccepted Disk.durable
    rw [hlog, hsynced]
    exact h
  . intro g disk disk' input durable r _ _ happended h
    exact h.mono happended.safe

end Settled

section Close

variable {ext : Externals} {disk disk' : Disk} {state : CoreState} {context : TurnContext}
  {frame : RunTurnFrame} {request : RunTurnRequest} {served : Prog.Trace Act Act.Res}

def IsReplayed (ext : Externals) (context : TurnContext) (frames : List RunTurnFrame) (disk : Disk)
    (state : CoreState) : Prop :=
  ∀ frame request served disk' flow, state.active = none → state.persistence.isDurable = true →
    frame.kind = frameTurnStart → frame.turnRequest limits = .ok request →
    turnContext ext request = context →
    (workingWorld ext).Interleaves disk (round ext state)
      (⟨.receive, .message (.inbound (.ok frame))⟩ :: served) disk' (.pure flow) →
    disk'.log = disk.log ∧ ∃ state', flow = .inl state' ∧ written served <+: frames
      ∧ (state'.deliveryAttached = true → written served = frames)

theorem isReplayed_of_classify {frames : List RunTurnFrame}
    (h : StoredTurn.classify context.durableScope context.requestSha256
      (disk.records context.durableScope) = .complete frames) :
    IsReplayed ext context frames disk state := by
  intro frame request served disk' flow hidle hdurable hkind hrequest hcontext hrun
  obtain ⟨rest, rfl, hresume⟩ := resumeTurn_of_round hidle hdurable hkind hrequest hcontext hrun
  rw [h] at hresume
  obtain ⟨state', disk₁, before, behind, rfl, hreplay, hdone⟩ := World.Interleaves.of_bind hresume
  obtain ⟨rfl, _⟩ := unchanged_of_speaks (only_deliverReplay _ _) hreplay
  have hkeeps := @keeps_answers_deliverReplay (· <+: frames) [] frames
    { state with output := state.output.restart.observeReplay frames } fun _ _ => id
  have hall := hkeeps.runs hreplay.steps
  rw [after_answers, List.nil_append] at hall
  have hpart := (answered (run_of_working hreplay) (hkeeps.mono fun _ _ _ => trivial)
    List.nil_prefix).2
  cases hdone with
  | refl =>
    rw [List.append_nil]
    exact ⟨rfl, state', rfl, hpart, fun hattached => (hall hattached).2⟩
  | other hrely => exact hrely.elim

structure ClosedBy (ext : Externals) (context : TurnContext) (disk disk' : Disk) (state' : CoreState)
    (terminal : RunTurnFrame) : Prop where
  status : Unobserved terminal
  recorded : ∃ event, IsRecord context.durableScope context.requestSha256 event terminal
    ∧ disk'.log = disk.log ++ [event]
  safe : disk'.durable = disk'.log
  usable : state'.persistence.isDurable = true
  replayed : ∃ stored, List.Forall₂ (IsRecord context.durableScope context.requestSha256)
      (disk.records context.durableScope) stored
    ∧ ∀ later state, Reaches ext disk' state' later state
      → IsReplayed ext context (stored ++ [terminal]) later state

variable {stored : List RunTurnFrame}

theorem reconciled
    (hrun : (workingWorld ext).Interleaves disk (resumeTurn context userInput state (.incomplete stored)) served disk' (.pure flow))
    (hdurable : state.persistence.isDurable = true) :
    ∃ r state', disk.append (closingRecord context stored state) true .stored = (r, disk')
      ∧ flow = .inl state' ∧ state'.persistence = (recorded state.persistence r).2 := by
  obtain ⟨state', disk₁, before, behind, rfl, hreconcile, hdone⟩ := World.Interleaves.of_bind hrun
  rw [reconcileTurn_eq hdurable] at hreconcile
  obtain ⟨r, disk₂, rest, rfl, ⟨_, hworks⟩, hreplay⟩ := World.Interleaves.performed not_rely hreconcile
  obtain ⟨rfl, hsame⟩ := unchanged_of_speaks (only_deliverReplay _ _) hreplay
  cases hdone with
  | refl => exact ⟨r, state', hworks, rfl, hsame.1⟩
  | other hrely => exact hrely.elim

theorem find?_closingRecord :
    EventLog.find? disk.log (closingRecord context stored state) = none
      ↔ ∀ event ∈ disk.records context.durableScope,
        event.eventId ≠ closingId context stored.length := by
  unfold EventLog.find?
  rw [List.find?_eq_none]
  constructor
  . intro h event hmem heq
    obtain ⟨hlog, hscope⟩ := mem_records.mp hmem
    exact h event hlog (decide_eq_true ⟨hscope, heq⟩)
  . intro h event hlog heq
    have hsame := of_decide_eq_true heq
    exact h event (mem_records.mpr ⟨hlog, hsame.1⟩) hsame.2

theorem append_closingRecord
    (hopen : ∀ event ∈ disk.records context.durableScope, event.kind ≠ frameTurnEnd)
    (hfound : EventLog.find? disk.log (closingRecord context stored state) ≠ none) :
    disk.append (closingRecord context stored state) true .stored
      = (.error EventStore.EventStoreError.eventConflict.toString, disk) := by
  obtain ⟨event, hevent⟩ := Option.ne_none_iff_exists'.mp hfound
  have hsame := List.find?_some hevent
  rw [decide_eq_true_eq] at hsame
  have hmem := mem_records.mpr ⟨List.mem_of_find?_eq_some hevent, hsame.1⟩
  have hconflict : ¬ (event.kind = (closingRecord context stored state).kind
      ∧ (event.payload == (closingRecord context stored state).payload) = true) :=
    fun h => hopen event hmem h.1
  unfold Disk.append EventLog.append
  rw [hevent]
  dsimp only
  rw [if_neg hconflict]

theorem settled_of_append (hlog : disk'.log = disk.log ++ [event])
    (hscope : event.scope = context.durableScope) (hsafe : disk'.durable = disk'.log) :
    Settled context.durableScope (disk.records context.durableScope ++ [event]) disk' := by
  have hrecords : disk'.records context.durableScope = disk.records context.durableScope ++ [event] := by
    unfold Disk.records
    rw [hlog, List.filter_append, List.filter_singleton, decide_eq_true hscope]
    rfl
  refine ⟨hrecords, ?_⟩
  rw [hsafe]
  exact hrecords

theorem isAccepted_of_cut {start state : CoreState} {disk : Disk} {trace : Prog.Trace Act Act.Res}
    (hstart : IsStarted start) (hreach : Reaches ext .empty start disk state)
    (hactive : state.active = some active)
    (hcut : (world ext).Interleaves disk (round ext state) trace disk₁ rest)
    (hrestarted : IsStarted restarted)
    (hlater : Reaches ext (disk₁.crash kept) restarted disk₂ state₂) :
    Sound ext disk₂ state₂
      ∧ IsAccepted disk₂ active.context.durableScope active.context.requestSha256 := by
  obtain ⟨g, hagrees, hinvariant⟩ := hreach.sound (sound_of_isStarted coherent_empty rfl hstart)
  have hopen := hinvariant.phase
  rw [(hagrees.active active hactive).1] at hopen
  obtain ⟨_, hcoherent, haccepted⟩ :=
    (guards_isAccepted _).interleaves hcut (keeps_round hagrees) ⟨hinvariant, hopen.accepted⟩
  have hsafe : ∀ disk kept, IsAccepted disk active.context.durableScope active.context.requestSha256
      → IsAccepted (disk.crash kept) active.context.durableScope active.context.requestSha256 := by
    intro disk kept h
    unfold IsAccepted
    rw [durable_crash]
    exact h
  exact hlater.invariant (guards_isAccepted _) hsafe
    (sound_of_isStarted (hcoherent.coherent.crash kept) rfl hrestarted) (hsafe _ _ haccepted)

theorem classify_of_isAccepted (hdisk : Coherent ext disk)
    (haccepted : IsAccepted disk context.durableScope context.requestSha256)
    (hopen : ∀ event ∈ disk.records context.durableScope, event.kind ≠ frameTurnEnd) :
    ∃ stored, List.Forall₂ (IsRecord context.durableScope context.requestSha256)
        (disk.records context.durableScope) stored
      ∧ StoredTurn.classify context.durableScope context.requestSha256
        (disk.records context.durableScope) = .incomplete stored := by
  obtain ⟨event, hmem, _, hstored⟩ := haccepted
  have hrecord : event ∈ disk.records context.durableScope :=
    mem_records.mpr ⟨(durable_isPrefix disk).subset hmem, hstored.scope_eq⟩
  rcases hdisk.classify (List.ne_nil_of_mem hrecord) context.requestSha256 with
    ⟨_, stored, hstored, _⟩ | ⟨hother, _⟩
  . refine ⟨stored, hstored, classify_incomplete hstored (kind_of_forall₂ hstored hopen) ?_⟩
    exact List.ne_nil_of_mem hrecord
  . exact absurd hstored.storedRequest_eq (hother event hrecord)

theorem closedBy_of_append {event : EventInput} {terminal : RunTurnFrame}
    (hsound : Sound ext disk' state')
    (hstored : List.Forall₂ (IsRecord context.durableScope context.requestSha256) (disk.records context.durableScope) stored)
    (hopen : ∀ event ∈ disk.records context.durableScope, event.kind ≠ frameTurnEnd)
    (hrecord : IsRecord context.durableScope context.requestSha256 event terminal)
    (hstatus : Unobserved terminal) (hlog : disk'.log = disk.log ++ [event])
    (hsafe : disk'.durable = disk'.log) (husable : state'.persistence.isDurable = true) :
    ClosedBy ext context disk disk' state' terminal := by
  refine ⟨hstatus, ⟨event, hrecord, hlog⟩, hsafe, husable, stored, hstored, ?_⟩
  intro later state hlater
  have hend : ∃ e ∈ disk.records context.durableScope ++ [event], e.kind = frameTurnEnd :=
    ⟨event, by simp, hrecord.kind_eq.trans hstatus.kind⟩
  obtain ⟨_, hsettled⟩ := hlater.invariant (guards_settled hend) (fun _ kept h => h.crash kept) hsound
    (settled_of_append hlog hrecord.scope_eq hsafe)
  apply isReplayed_of_classify
  rw [hsettled.1]
  exact classify_complete hstored (kind_of_forall₂ hstored hopen) hrecord hstatus.kind

theorem unobserved_closingFrame {stored : List RunTurnFrame} {state : CoreState} :
    Unobserved (closingFrame context stored state) := by
  apply Unobserved.decoratedFrame
  apply unobserved_turnFrame

theorem interrupted_turn_closes {start state restarted state₂ : CoreState} {disk disk₁ disk₂ disk₃ : Disk}
    {active : ActiveTurn} {trace served : Prog.Trace Act Act.Res} {rest : Run Flow} {kept : Nat}
    {flow : Flow} (hstart : IsStarted start) (hreach : Reaches ext .empty start disk state)
    (hactive : state.active = some active)
    (hcut : (world ext).Interleaves disk (round ext state) trace disk₁ rest)
    (hrestarted : IsStarted restarted)
    (hlater : Reaches ext (disk₁.crash kept) restarted disk₂ state₂)
    (hopen : ∀ event ∈ disk₂.records active.context.durableScope, event.kind ≠ frameTurnEnd)
    (hidle : state₂.active = none) (hdurable : state₂.persistence.isDurable = true)
    (hkind : frame.kind = frameTurnStart) (hrequest : frame.turnRequest limits = .ok request)
    (hcontext : turnContext ext request = active.context)
    (hrun : (workingWorld ext).Interleaves disk₂ (round ext state₂)
      (⟨.receive, .message (.inbound (.ok frame))⟩ :: served) disk₃ (.pure flow)) :
    (∃ state₃ terminal, flow = .inl state₃ ∧ ClosedBy ext active.context disk₂ disk₃ state₃ terminal)
      ↔ ∀ event ∈ disk₂.records active.context.durableScope,
        event.eventId ≠ closingId active.context (disk₂.records active.context.durableScope).length := by
  obtain ⟨hsound, haccepted⟩ := isAccepted_of_cut hstart hreach hactive hcut hrestarted hlater
  have hcoherent : Coherent ext disk₂ := hsound.choose_spec.2.coherent
  obtain ⟨stored, hstored, hclassify⟩ := classify_of_isAccepted hcoherent haccepted hopen
  obtain ⟨answered, rfl, hresume⟩ :=
    resumeTurn_of_round hidle hdurable hkind hrequest hcontext hrun
  rw [hclassify] at hresume
  obtain ⟨r, state₃, happend, hflow, hpersistence⟩ := reconciled hresume hdurable
  rw [hstored.length_eq]
  constructor
  . rintro ⟨_, terminal, _, hclosed⟩
    apply find?_closingRecord.mp
    by_contra hfound
    have hsame := happend.symm.trans (append_closingRecord hopen hfound)
    obtain ⟨event, _, hlog⟩ := hclosed.recorded
    rw [(Prod.mk.inj hsame).2] at hlog
    exact absurd (List.self_eq_append_right.mp hlog) (List.cons_ne_nil _ _)
  . intro hfresh
    have hdone := happend.symm.trans (append_stored_of_fresh { disk₂ with inbound := some frame }
      (find?_closingRecord.mpr hfresh) true)
    obtain ⟨rfl, rfl⟩ := Prod.mk.inj hdone
    cases hflow
    have hsound₃ := (Reaches.round .refl (run_of_working hrun)).sound hsound
    refine ⟨state₃, _, rfl, closedBy_of_append hsound₃ hstored hopen isRecord_closingRecord
      unobserved_closingFrame rfl ?_ (hpersistence ▸ hdurable)⟩
    unfold Disk.durable
    apply List.take_of_length_le
    rw [List.length_append]
    exact le_refl _

end Close

section Sample

def messageEvent : TurnEvent := ⟨1, .provider (.modelMessage "hi")⟩

theorem advance_sampleCrash :
    (∀ event ∈ ((sampleDisk .reference).crash 0).records (sampleContext .reference).durableScope,
      event.kind ≠ frameTurnEnd ∧ event.eventId ≠ closingId (sampleContext .reference)
        (((sampleDisk .reference).crash 0).records (sampleContext .reference).durableScope).length)
    ∧ (advance .reference (.message (.inbound (.ok sampleStart))) ((sampleDisk .reference).crash 0)
      sampleState).isSome := by
  decide +kernel

-- The refusal takes an ordinal that no record has, so the message after it is recorded under the id
-- that the end of the turn gets when the turn is closed.
theorem advance_sampleMessage :
    ∃ r₁ ∈ advance .reference (.message (.inbound (.ok sampleStart))) (sampleDisk .reference)
      (sampleActive .reference),
    ∃ r₂ ∈ advance .reference (.message (.turnEvent messageEvent 1)) r₁.disk r₁.state,
    r₂.state.active = some (sampleTurn .reference)
      ∧ (∀ event ∈ (r₂.disk.crash 2).records (sampleContext .reference).durableScope,
        event.kind ≠ frameTurnEnd)
      ∧ (∃ event ∈ (r₂.disk.crash 2).records (sampleContext .reference).durableScope,
        event.eventId = closingId (sampleContext .reference)
          ((r₂.disk.crash 2).records (sampleContext .reference).durableScope).length)
      ∧ ∃ r₃ ∈ advance .reference (.message (.inbound (.ok sampleStart))) (r₂.disk.crash 2) sampleState,
        r₃.state.persistence.effectAdmissionError ≠ none := by
  decide +kernel

end Sample

theorem interrupted_turn_closes_sample : ∃ disk₃ state₃ terminal,
    ClosedBy .reference (sampleContext .reference) ((sampleDisk .reference).crash 0) disk₃ state₃
      terminal := by
  obtain ⟨hevents, hsome⟩ := advance_sampleCrash
  obtain ⟨r, hr⟩ := Option.isSome_iff_exists.mp hsome
  have hcut : (world .reference).Interleaves (sampleDisk .reference) (round .reference
      (sampleActive .reference)) [] (sampleDisk .reference) _ := .refl _ _
  obtain ⟨state, terminal, _, hclosed⟩ := (interrupted_turn_closes isStarted_sampleState
    reaches_sampleActive rfl hcut isStarted_sampleState .refl (fun event h => (hevents event h).1) rfl
    rfl rfl turnRequest_sampleStart rfl (run_round hr)).mpr (fun event h => (hevents event h).2)
  exact ⟨r.disk, state, terminal, hclosed⟩

theorem interrupted_turn_not_closed : ∃ start disk state active kept served disk₃ state₃,
    IsStarted start ∧ Reaches .reference .empty start disk state ∧ state.active = some active
      ∧ (∀ event ∈ (disk.crash kept).records active.context.durableScope, event.kind ≠ frameTurnEnd)
      ∧ sampleStart.turnRequest limits = .ok sampleRequest
      ∧ turnContext .reference sampleRequest = active.context
      ∧ (workingWorld .reference).Interleaves (disk.crash kept) (round .reference start)
        (⟨.receive, .message (.inbound (.ok sampleStart))⟩ :: served) disk₃ (.pure (.inl state₃))
      ∧ disk₃.log = (disk.crash kept).log ∧ state₃.persistence.effectAdmissionError ≠ none := by
  obtain ⟨r₁, hr₁, r₂, hr₂, hactive, hopen, ⟨event, hevent, hid⟩, r₃, hr₃, hfailed⟩ :=
    advance_sampleMessage
  have hreach := (reaches_sampleActive.round (run_of_working (run_round hr₁))).round
    (run_of_working (run_round hr₂))
  have hlater : Reaches .reference (r₂.disk.crash 2) sampleState (r₂.disk.crash 2) sampleState := .refl
  obtain ⟨hsound, haccepted⟩ := isAccepted_of_cut isStarted_sampleState hreach hactive
    (.refl _ _) isStarted_sampleState hlater
  obtain ⟨stored, hstored, hclassify⟩ :=
    classify_of_isAccepted hsound.choose_spec.2.coherent haccepted hopen
  have hcontext : turnContext .reference sampleRequest = (sampleTurn .reference).context := rfl
  obtain ⟨_, _, hresume⟩ := resumeTurn_of_round rfl rfl rfl turnRequest_sampleStart hcontext
    (run_round hr₃)
  rw [hclassify] at hresume
  obtain ⟨_, _, happend, _, _⟩ := reconciled hresume rfl
  have hsame := happend.symm.trans (append_closingRecord hopen fun hnone =>
    find?_closingRecord.mp hnone event hevent (hstored.length_eq ▸ hid))
  refine ⟨sampleState, r₂.disk, r₂.state, sampleTurn .reference, 2, r₃.served, r₃.disk, r₃.state,
    isStarted_sampleState, hreach, hactive, hopen, turnRequest_sampleStart, rfl, run_round hr₃, ?_,
    hfailed⟩
  rw [(Prod.mk.inj hsame).2]

end Host
