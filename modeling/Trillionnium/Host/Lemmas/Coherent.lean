import Trillionnium.Host.Lemmas.Journal

namespace Host

open Concurrent
open EventStore (EventInput EventLog StoreAnswer)
open Protocol StoredTurn
open TurnLoop (TurnRequest)

def requestScope (request : TurnRequest) : EventStore.TurnScope where
  sessionId := request.sessionId
  profileId := request.profileId
  taskId := request.taskId
  turnId := request.turnId
  turnStreamId := request.turnStreamId

def Disk.launchedScopes (disk : Disk) : List EventStore.TurnScope :=
  disk.launched.map fun launch => requestScope launch.2

def IsAccepted (disk : Disk) (scope : EventStore.TurnScope) (digest : String) : Prop :=
  ∃ event ∈ disk.durable, event.kind = frameTurnAccepted ∧ Stored scope digest event

def MayFollow (log : EventLog) (input : EventInput) : Prop :=
  ∃ digest, Stored input.scope digest input
    ∧ ∀ event ∈ log, event.scope = input.scope
      → storedRequest event = some digest ∧ event.kind ≠ frameTurnEnd

structure Coherent (ext : Externals) (disk : Disk) : Prop where
  stored : ∀ event ∈ disk.log, ∃ digest, Stored event.scope digest event
  sameDigest : ∀ event ∈ disk.log, ∀ event' ∈ disk.log, event.scope = event'.scope
    → storedRequest event = storedRequest event'
  endsLast : disk.log.Pairwise fun event event' =>
    event.kind = frameTurnEnd → event'.scope ≠ event.scope
  launchedOnce : disk.launchedScopes.Nodup
  launchedAccepted : ∀ launch ∈ disk.launched, ∃ digest,
    Asks ext launch.1 (requestScope launch.2) digest launch.2
      ∧ IsAccepted disk (requestScope launch.2) digest

structure IsOpen (disk : Disk) (scope : EventStore.TurnScope) (digest : String) : Prop where
  unended : ∀ event ∈ disk.log, event.scope = scope
    → storedRequest event = some digest ∧ event.kind ≠ frameTurnEnd
  accepted : IsAccepted disk scope digest

def Phase.Holds (disk : Disk) : Phase → Prop
  | .idle => True
  | .looked scope records => disk.records scope = records
  | .recorded scope digest => IsOpen disk scope digest ∧ scope ∉ disk.launchedScopes
  | .live scope digest => IsOpen disk scope digest
  | .ending scope digest => IsOpen disk scope digest

structure Invariant (ext : Externals) (g : Watch) (disk : Disk) : Prop where
  coherent : Coherent ext disk
  inbound : g.inbound = disk.inbound
  phase : g.phase.Holds disk

section Append

variable {ext : Externals} {disk disk' : Disk} {input : EventInput} {durable : Bool}
  {answer : StoreAnswer} {r : Except String Unit}

structure Appended (disk disk' : Disk) (input : EventInput) (durable : Bool)
    (r : Except String Unit) : Prop where
  inbound : disk'.inbound = disk.inbound
  launched : disk'.launched = disk.launched
  log : (disk'.log = disk.log ∧ (r = .ok () → ∃ event ∈ disk.log, event.scope = input.scope))
    ∨ disk'.log = disk.log ++ [input]
  safe : disk.durable <+: disk'.durable
  synced : r = .ok () → durable = true → disk'.durable = disk'.log

theorem appended (h : disk.append input durable answer = (r, disk')) :
    Appended disk disk' input durable r := by
  have hgrown := EventStore.EventLog.prefix_append disk.log input answer
  have hcases := EventStore.EventLog.append_cases disk.log input answer
  unfold Disk.append at h
  generalize EventStore.EventLog.append disk.log input answer = appended at h hgrown hcases
  obtain ⟨result, log⟩ := appended
  obtain ⟨rfl, rfl⟩ := Prod.mk.inj h
  have htake : disk.durable <+: log.take disk.synced := by
    obtain ⟨rest, hrest⟩ := hgrown
    have hlog : log = disk.log ++ rest := hrest.symm
    unfold Disk.durable
    rw [hlog, List.take_append]
    apply List.prefix_append
  refine ⟨rfl, rfl, ?_, ?_, ?_⟩
  . rcases hcases with ⟨event, hevent, hscope, _, hlog⟩ | ⟨⟨error, herror⟩, hlog⟩ | hlog
    . exact .inl ⟨hlog, fun _ => ⟨event, hevent, hscope⟩⟩
    . refine .inl ⟨hlog, ?_⟩
      intro hok
      rw [hok] at herror
      cases herror
    . exact .inr hlog
  . have hlog : disk.durable <+: log := htake.trans (List.take_prefix _ _)
    unfold Disk.durable at hlog htake ⊢
    dsimp only
    split
    . rw [List.take_length]
      exact hlog
    . exact htake
  . rintro rfl rfl
    unfold Disk.durable
    dsimp only
    rw [List.take_length]

variable {scope : EventStore.TurnScope} {digest : String}

theorem IsAccepted.mono (h : IsAccepted disk scope digest) (hsafe : disk.durable <+: disk'.durable) :
    IsAccepted disk' scope digest := by
  obtain ⟨event, hmem, hevent⟩ := h
  exact ⟨event, hsafe.subset hmem, hevent⟩

theorem Coherent.append (h : Coherent ext disk) (happended : Appended disk disk' input durable r)
    (hfollows : MayFollow disk.log input) : Coherent ext disk' := by
  obtain ⟨digest, hinput, hsame⟩ := hfollows
  have hlaunched : disk'.launchedScopes = disk.launchedScopes := by
    unfold Disk.launchedScopes
    rw [happended.launched]
  have haccepted : ∀ launch ∈ disk'.launched, ∃ digest,
      Asks ext launch.1 (requestScope launch.2) digest launch.2
        ∧ IsAccepted disk' (requestScope launch.2) digest := by
    intro launch hlaunch
    rw [happended.launched] at hlaunch
    obtain ⟨digest, hasks, haccepted⟩ := h.launchedAccepted launch hlaunch
    exact ⟨digest, hasks, haccepted.mono happended.safe⟩
  have hdigest : ∀ event ∈ disk.log, event.scope = input.scope
      → storedRequest event = storedRequest input := by
    intro event hevent hscope
    rw [(hsame event hevent hscope).1, hinput.storedRequest_eq]
  rcases happended.log with ⟨hlog, _⟩ | hlog
  . exact ⟨hlog ▸ h.stored, hlog ▸ h.sameDigest, hlog ▸ h.endsLast, hlaunched ▸ h.launchedOnce,
      haccepted⟩
  . refine ⟨?_, ?_, ?_, hlaunched ▸ h.launchedOnce, haccepted⟩
    . rw [hlog]
      exact List.forall_mem_concat h.stored ⟨digest, hinput⟩
    . rw [hlog]
      apply List.forall_mem_concat
      . intro event hevent
        exact List.forall_mem_concat (h.sameDigest event hevent) (hdigest event hevent)
      . apply List.forall_mem_concat
        . intro event hevent hscope
          exact (hdigest event hevent hscope.symm).symm
        . exact fun _ => rfl
    . rw [hlog]
      apply List.pairwise_concat h.endsLast
      intro event hevent hkind hscope
      exact (hsame event hevent hscope.symm).2 hkind

theorem IsOpen.append (h : IsOpen disk scope digest)
    (happended : Appended disk disk' input durable r) (hinput : Stored scope digest input)
    (hkind : input.kind ≠ frameTurnEnd) : IsOpen disk' scope digest := by
  refine ⟨?_, h.accepted.mono happended.safe⟩
  rcases happended.log with ⟨hlog, _⟩ | hlog
  . rw [hlog]
    exact h.unended
  . rw [hlog]
    exact List.forall_mem_concat h.unended fun _ => ⟨hinput.storedRequest_eq, hkind⟩

theorem mem_records : event ∈ disk.records scope ↔ event ∈ disk.log ∧ event.scope = scope := by
  simp [Disk.records]

theorem IsOpen.mayFollow (h : IsOpen disk scope digest) (hinput : Stored scope digest input) :
    MayFollow disk.log input := by
  have hscope := hinput.scope_eq
  refine ⟨digest, by rwa [hscope], ?_⟩
  rw [hscope]
  exact h.unended

theorem MayAppend.mayFollow (h : MayAppend scope (disk.records scope) input durable) :
    MayFollow disk.log input := by
  obtain ⟨digest, hinput, h⟩ := h
  have hscope := hinput.scope_eq
  refine ⟨digest, by rwa [hscope], ?_⟩
  intro event hmem heq
  have hrecord : event ∈ disk.records scope := mem_records.mpr ⟨hmem, heq.trans hscope⟩
  rcases h with ⟨hnil, _⟩ | ⟨_, _, hopen⟩
  . rw [hnil] at hrecord
    exact absurd hrecord List.not_mem_nil
  . exact hopen event hrecord

theorem MayAppend.recorded (hcoherent : Coherent ext disk)
    (h : MayAppend scope (disk.records scope) input durable)
    (hkind : input.kind = frameTurnAccepted)
    (happended : Appended disk disk' input durable (.ok ())) :
    (Phase.recorded scope ((storedRequest input).getD "")).Holds disk' := by
  obtain ⟨digest, hinput, h⟩ := h
  rw [hinput.storedRequest_eq, Option.getD_some]
  rcases h with ⟨hnil, _, hdurable⟩ | ⟨_, hend, _⟩
  . have hnone : ∀ event ∈ disk.log, event.scope ≠ scope := by
      intro event hmem heq
      have hrecord : event ∈ disk.records scope := mem_records.mpr ⟨hmem, heq⟩
      rw [hnil] at hrecord
      exact List.not_mem_nil hrecord
    have hlog : disk'.log = disk.log ++ [input] := by
      rcases happended.log with ⟨_, hfound⟩ | hlog
      . obtain ⟨event, hmem, heq⟩ := hfound rfl
        exact absurd (heq.trans hinput.scope_eq) (hnone event hmem)
      . exact hlog
    refine ⟨⟨?_, ?_⟩, ?_⟩
    . rw [hlog]
      apply List.forall_mem_concat
      . intro event hmem heq
        exact absurd heq (hnone event hmem)
      . rw [hkind]
        exact fun _ => ⟨hinput.storedRequest_eq, by decide⟩
    . refine ⟨input, ?_, hkind, hinput⟩
      rw [happended.synced rfl hdurable, hlog]
      simp
    . unfold Disk.launchedScopes
      rw [happended.launched]
      intro hmem
      obtain ⟨launch, hlaunch, heq⟩ := List.mem_map.mp hmem
      obtain ⟨_, _, event, hevent, _, hstored⟩ := hcoherent.launchedAccepted launch hlaunch
      exact hnone event (List.mem_of_mem_take hevent) (hstored.scope_eq.trans heq)
  . rw [hkind] at hend
    exact absurd hend (by decide)

end Append

section Guards

variable {ext : Externals}

variable {disk : Disk} {g : Watch}

theorem Coherent.receive (h : Coherent ext disk) (received : Received) :
    Coherent ext (disk.receive received) := by
  unfold Disk.receive
  split <;> exact ⟨h.stored, h.sameDigest, h.endsLast, h.launchedOnce, h.launchedAccepted⟩

theorem inbound_receive {disk : Disk} {received : Received} :
    (disk.receive received).inbound = Received.frame? received := by
  unfold Disk.receive
  split
  . rfl
  next hne =>
    unfold Received.frame?
    split
    next frame => exact absurd rfl (hne frame)
    . rfl

theorem holds_receive {phase : Phase} (h : phase.Holds disk) (received : Received) :
    phase.afterReceive.Holds (disk.receive received) := by
  cases phase with
  | live scope digest =>
    unfold Disk.receive
    split <;> exact ⟨h.unended, h.accepted⟩
  | _ => trivial

theorem Invariant.receive (h : Invariant ext g disk) (received : Received) :
    Invariant ext ⟨Received.frame? received, g.phase.afterReceive⟩ (disk.receive received) where
  coherent := h.coherent.receive received
  inbound := inbound_receive.symm
  phase := holds_receive h.phase received

theorem Invariant.mayFollow {input : EventInput} {durable : Bool} (h : Invariant ext g disk)
    (hallows : Allows ext g (.append input durable)) : MayFollow disk.log input := by
  have hphase := h.phase
  obtain ⟨inbound, phase⟩ := g
  cases phase with
  | idle | recorded _ _ => exact hallows.elim
  | looked scope records =>
    cases hphase
    exact MayAppend.mayFollow hallows
  | live _ _ | ending _ _ => exact IsOpen.mayFollow hphase hallows.1

theorem Invariant.append {input : EventInput} {durable : Bool} (h : Invariant ext g disk)
    (hallows : Allows ext g (.append input durable))
    (happended : Appended disk disk' input durable r) :
    Invariant ext { g with phase := g.phase.afterAppend input r } disk' := by
  have hcoherent' := h.coherent.append happended (h.mayFollow hallows)
  obtain ⟨hcoherent, hinbound, hphase⟩ := h
  obtain ⟨inbound, phase⟩ := g
  refine ⟨hcoherent', hinbound.trans happended.inbound.symm, ?_⟩
  cases phase with
  | idle | recorded _ _ => exact hallows.elim
  | looked scope records =>
    cases hphase
    cases r with
    | error error => trivial
    | ok _ =>
      dsimp only [Phase.afterAppend]
      split
      next hkind => exact MayAppend.recorded hcoherent hallows hkind happended
      . trivial
  | live scope digest => cases r <;> exact IsOpen.append hphase happended hallows.1 hallows.2
  | ending scope digest => cases r <;> trivial

theorem Invariant.launch {request : TurnRequest} (h : Invariant ext g disk)
    (hallows : Allows ext g (.spawnWorker request)) :
    Invariant ext { g with phase := g.phase.afterSpawn r } (disk.launch request r) := by
  obtain ⟨hcoherent, hinbound, hphase⟩ := h
  obtain ⟨inbound, phase⟩ := g
  cases phase with
  | recorded scope digest =>
    cases r with
    | error error => exact ⟨hcoherent, hinbound, trivial⟩
    | ok worker =>
      obtain ⟨hopen, hfresh⟩ := hphase
      obtain ⟨frame, req, hframe, hrequest, rfl, rfl, rfl⟩ := hallows
      refine ⟨⟨hcoherent.stored, hcoherent.sameDigest, hcoherent.endsLast, ?_, ?_⟩, hinbound, ?_⟩
      . unfold Disk.launchedScopes Disk.launch
        rw [List.map_append, List.map_singleton, ← List.concat_eq_append]
        exact hcoherent.launchedOnce.concat hfresh
      . apply List.forall_mem_concat hcoherent.launchedAccepted
        refine ⟨requestSha256 ext req, ⟨frame, req, ?_, hrequest, rfl, rfl, rfl⟩, hopen.accepted⟩
        rw [← hframe, hinbound]
      . exact ⟨hopen.unended, hopen.accepted⟩
  | _ => exact hallows.elim

theorem guards : (world ext).Guards (journal ext) (Invariant ext) where
  exec := by
    intro g disk a r disk' hinvariant hallows hexec
    cases a with
    | append input durable =>
      obtain ⟨answer, hanswer⟩ := hexec
      exact hinvariant.append hallows (appended hanswer)
    | replay scope =>
      obtain ⟨hr, rfl⟩ := hexec
      refine ⟨hinvariant.coherent, hinvariant.inbound, ?_⟩
      rw [phase_replay]
      have hphase := hinvariant.phase
      rcases hr with rfl | ⟨error, rfl⟩
      . cases hcase : g.phase with
        | idle | looked _ _ => rfl
        | _ =>
          rw [hcase] at hphase
          exact hphase
      . exact hphase
    | receive =>
      cases hexec
      exact hinvariant.receive r
    | spawnWorker request =>
      cases hexec
      exact hinvariant.launch hallows
    | joinWorker worker =>
      cases hexec
      refine ⟨hinvariant.coherent, hinvariant.inbound, ?_⟩
      have hphase := hinvariant.phase
      change g.phase.afterJoin.Holds disk
      cases hcase : g.phase with
      | _ =>
        rw [hcase] at hphase
        exact hphase
    | encode frame =>
      obtain ⟨_, rfl⟩ := hexec
      exact hinvariant
    | _ =>
      cases hexec
      exact hinvariant
  rely := by
    intro g disk disk' _ hrely
    exact hrely.elim

end Guards

section Reach

variable {ext : Externals}

theorem durable_crash (disk : Disk) (kept : Nat) : (disk.crash kept).durable = disk.durable := by
  unfold Disk.durable Disk.crash
  dsimp only
  rw [List.take_take]
  congr 1
  omega

variable {disk disk' : Disk} {state : CoreState}

theorem Coherent.crash (h : Coherent ext disk) (kept : Nat) :
    Coherent ext (disk.crash kept) where
  stored := fun event hmem => h.stored event (List.mem_of_mem_take hmem)
  sameDigest := fun event hmem event' hmem' =>
    h.sameDigest event (List.mem_of_mem_take hmem) event' (List.mem_of_mem_take hmem')
  endsLast := h.endsLast.sublist (List.take_sublist _ _)
  launchedOnce := h.launchedOnce
  launchedAccepted := by
    intro launch hlaunch
    obtain ⟨digest, hasks, haccepted⟩ := h.launchedAccepted launch hlaunch
    refine ⟨digest, hasks, ?_⟩
    unfold IsAccepted
    rw [durable_crash]
    exact haccepted

theorem agrees_of_isStarted (h : IsStarted state) : Agrees ⟨none, .idle⟩ state := by
  obtain ⟨persistence, connectionId, rfl, h⟩ := h
  apply agrees_of_inactive
  . rcases h with ⟨allow, rfl⟩ | ⟨error, allow, rfl⟩ <;> rfl
  . rfl
  . intro scope digest heq
    cases heq

def Sound (ext : Externals) (disk : Disk) (state : CoreState) : Prop :=
  ∃ g, Agrees g state ∧ Invariant ext g disk

theorem sound_of_isStarted (hdisk : Coherent ext disk) (hinbound : disk.inbound = none)
    (hstate : IsStarted state) : Sound ext disk state :=
  ⟨⟨none, .idle⟩, agrees_of_isStarted hstate, hdisk, hinbound.symm, trivial⟩

theorem Sound.round {trace : Prog.Trace Act Act.Res} (h : Sound ext disk state)
    (hrun : (world ext).Interleaves disk (round ext state) trace disk' rest) :
    ∃ g, (journal ext).Keeps g rest FlowAgrees ∧ Invariant ext g disk' := by
  obtain ⟨g, hagrees, hinvariant⟩ := h
  exact ⟨_, guards.interleaves hrun (keeps_round hagrees) hinvariant⟩

theorem guards_and {J : Disk → Prop}
    (hlog : ∀ disk disk', disk'.log = disk.log → disk'.synced = disk.synced → J disk → J disk')
    (happend : ∀ g disk disk' input durable r, Invariant ext g disk →
      Allows ext g (.append input durable) → Appended disk disk' input durable r → J disk → J disk') :
    (world ext).Guards (journal ext) (fun g disk => Invariant ext g disk ∧ J disk) where
  exec := by
    rintro g disk a r disk' ⟨hinvariant, hJ⟩ hallows hexec
    refine ⟨guards.exec g disk a r disk' hinvariant hallows hexec, ?_⟩
    cases a with
    | append input durable =>
      obtain ⟨answer, hanswer⟩ := hexec
      exact happend g disk disk' input durable r hinvariant hallows (appended hanswer) hJ
    | replay _ | encode _ =>
      obtain ⟨_, rfl⟩ := hexec
      exact hJ
    | receive =>
      cases hexec
      apply hlog disk _ _ _ hJ
      . unfold Disk.receive
        split <;> rfl
      . unfold Disk.receive
        split <;> rfl
    | spawnWorker request =>
      cases hexec
      cases r <;> exact hlog disk _ rfl rfl hJ
    | _ =>
      cases hexec
      exact hJ
  rely := by
    intro g disk disk' _ hrely
    exact hrely.elim

theorem Reaches.invariant {J : Disk → Prop}
    (hguards : (world ext).Guards (journal ext) fun g disk => Invariant ext g disk ∧ J disk)
    (hcrash : ∀ disk kept, J disk → J (disk.crash kept)) {state' : CoreState}
    (h : Reaches ext disk state disk' state') (hsound : Sound ext disk state) (hJ : J disk) :
    Sound ext disk' state' ∧ J disk' := by
  induction h with
  | refl => exact ⟨hsound, hJ⟩
  | round _ hrun ih =>
    obtain ⟨⟨g, hagrees, hinvariant⟩, hJ⟩ := ih
    obtain ⟨hflow, hinvariant, hJ⟩ := hguards.interleaves hrun (keeps_round hagrees) ⟨hinvariant, hJ⟩
    exact ⟨⟨_, hflow _ rfl, hinvariant⟩, hJ⟩
  | restart _ hrun kept hstate ih =>
    obtain ⟨⟨g, hagrees, hinvariant⟩, hJ⟩ := ih
    obtain ⟨_, hinvariant, hJ⟩ := hguards.interleaves hrun (keeps_round hagrees) ⟨hinvariant, hJ⟩
    exact ⟨sound_of_isStarted (hinvariant.coherent.crash kept) rfl hstate, hcrash _ _ hJ⟩

theorem Reaches.sound {state' : CoreState} (h : Reaches ext disk state disk' state')
    (hsound : Sound ext disk state) : Sound ext disk' state' := by
  have hguards : (world ext).Guards (journal ext) fun g disk => Invariant ext g disk ∧ True :=
    guards_and (fun _ _ _ _ _ => trivial) (fun _ _ _ _ _ _ _ _ _ _ => trivial)
  exact (h.invariant hguards (fun _ _ _ => trivial) hsound trivial).1

theorem coherent_empty : Coherent ext .empty where
  stored := fun _ hmem => absurd hmem List.not_mem_nil
  sameDigest := fun _ hmem => absurd hmem List.not_mem_nil
  endsLast := .nil
  launchedOnce := .nil
  launchedAccepted := fun _ hmem => absurd hmem List.not_mem_nil

end Reach

end Host
