import Trillionnium.JobRuntime.Lemmas.Refinement

namespace JobRuntime

open EventStore Json JobRegistry Machine

namespace Journal

variable {key : JobKey}

variable {codec : FloatCodec} {journal : Journal} {recovered : Recovering}

def Durably (journal : Journal) (key : JobKey) (P : JobView → Prop) : Prop :=
  ∃ recovered, recover (journal.log.take journal.synced) = .ok recovered ∧ P (recovered.view key)

def Persists (P : JobView → Prop) : Prop := ∀ view view', view.Le view' → P view → P view'

variable {op : Op} {operation : Operation}

theorem Transition.prefix_synced {next : Journal} (h : Transition codec journal op next out) :
    journal.log.take journal.synced <+: next.log.take next.synced := by
  cases h with
  | unchanged _ | entered _ _ | asked _ _ | committed _ _ _ | continued _ _ _ | openFailed _ =>
    exact List.prefix_rfl
  | @stored lane answer call stage input mode hlane =>
    have hgrows := EventLog.prefix_append journal.log input answer
    simp only [storeAnswers, hlane]
    split
    . rw [List.take_length]
      exact (List.take_prefix _ _).trans hgrows
    . exact hgrows.take journal.synced
  | restarted kept =>
    change _ <+: (journal.log.take (max kept journal.synced)).take journal.synced
    rw [List.take_take, Nat.min_eq_left (Nat.le_max_right _ _)]

theorem Durably.step {key : JobKey} {P : JobView → Prop} (h : journal.Durably key P)
    (hP : Persists P) (hsound : journal.Sound codec recovered) (op : Op) :
    (journal.step codec op).1.Durably key P := by
  obtain ⟨recovered', hsound'⟩ := hsound.step op
  obtain ⟨first, hfirst, hview⟩ := h
  obtain ⟨kept, hkept, _⟩ :=
    exists_recover_of_isPrefix hsound'.recovers (List.take_prefix _ _)
  obtain ⟨first', hfirst', hle⟩ :=
    exists_recover_of_isPrefix hkept (transition hsound op).prefix_synced
  cases hfirst.symm.trans hfirst'
  exact ⟨kept, hkept, hP _ _ (hle.view key) hview⟩

theorem view_openStore {P : JobView → Prop} (hP : Persists P)
    (hsound : journal.Sound codec recovered) (h : journal.Durably key P) {kept : Nat} :
    P ((openStore (journal.log.take (max kept journal.synced)) journal.synced).state.view key) := by
  obtain ⟨first, hfirst, hview⟩ := h
  obtain ⟨next, hnext, _⟩ :=
    exists_recover_of_isPrefix hsound.recovers (List.take_prefix (max kept journal.synced) _)
  have hgrows : journal.log.take journal.synced
      <+: journal.log.take (max kept journal.synced) := by
    apply List.take_prefix_take_left
    apply Nat.le_max_right
  obtain ⟨first', hfirst', hle⟩ := exists_recover_of_isPrefix hnext hgrows
  cases hfirst.symm.trans hfirst'
  unfold openStore JournalState.openStore
  rw [hnext]
  exact hP _ _ (hle.view key) hview

theorem view_step {P : JobView → Prop} (hP : Persists P) (hsound : journal.Sound codec recovered)
    (hdurable : journal.Durably key P) (hop : ∀ error, op ≠ .openFailed error)
    (h : P (journal.state.view key)) : P ((journal.step codec op).1.state.view key) := by
  have htransition := transition hsound op
  generalize (journal.step codec op).1 = next at htransition ⊢
  generalize (journal.step codec op).2 = out at htransition
  have htouches : ∀ {key' keep} {state : JournalState}, journal.state.Touches key' keep state
      → P (state.view key) := by
    intro key' keep state htouches
    by_cases heq : key = key'
    . subst heq
      exact hP _ _ htouches.le h
    . rw [htouches.others key heq]
      exact h
  cases htransition with
  | unchanged _ | asked _ _ => exact h
  | entered hlane hanswers => exact htouches hanswers.touches
  | stored hlane =>
    unfold storeAnswers
    split <;> exact h
  | committed _ _ hcommits | continued _ _ hcommits => exact htouches hcommits.touches
  | restarted kept => exact view_openStore hP hsound hdurable
  | openFailed error => exact absurd rfl (hop error)

def Knows (journal : Journal) (key : JobKey) (P : JobView → Prop) : Prop :=
  journal.Durably key P ∧ (journal.state.store = true → P (journal.state.view key))

theorem store_of_step (hsound : journal.Sound codec recovered)
    (hstore : (journal.step codec op).1.state.store = true) :
    (∃ kept, op = .restart kept) ∨ journal.state.store = true := by
  have htransition := transition hsound op
  generalize (journal.step codec op).1 = next at htransition hstore
  generalize (journal.step codec op).2 = out at htransition
  cases htransition with
  | unchanged _ | asked _ _ => exact .inr hstore
  | entered _ h | committed _ _ h | continued _ _ h => exact .inr (h.touches.live hstore)
  | stored hlane =>
    right
    unfold storeAnswers at hstore
    split at hstore <;> exact hstore
  | restarted kept => exact .inl ⟨kept, rfl⟩
  | openFailed error => cases hstore

theorem Knows.step {key : JobKey} {P : JobView → Prop} (h : journal.Knows key P)
    (hP : Persists P) (hsound : journal.Sound codec recovered) (op : Op) :
    (journal.step codec op).1.Knows key P := by
  refine ⟨h.1.step hP hsound op, ?_⟩
  intro hstore
  cases store_of_step hsound hstore with
  | inl hop =>
    obtain ⟨kept, rfl⟩ := hop
    exact view_openStore hP hsound h.1
  | inr hold =>
    apply view_step hP hsound h.1 _ (h.2 hold)
    intro error heq
    rw [heq] at hstore
    cases hstore

def Accepted (operation : Operation) (view : JobView) : Prop :=
  (∃ existing, view.operations operation.operationId = some existing ∧ operation.Matches existing)
    ∧ (operation.isStart = true → view.job ≠ none)

theorem persists_accepted : Persists (Accepted operation) := by
  rintro view view' hle ⟨⟨existing, hexisting, hrequest, hkind, hsha⟩, hstart⟩
  obtain ⟨existing', hexisting', hrequest', hkind', hsha', _⟩ := hle.operation _ existing hexisting
  exact ⟨⟨existing', hexisting', hrequest'.trans hrequest, hkind'.trans hkind, hsha'.trans hsha⟩,
    fun h => hle.job_ne_none (hstart h)⟩

theorem accepted_apply {view : JobView} :
    Accepted operation ((Entry.accepted operation details).apply view) := by
  unfold Accepted Entry.apply
  dsimp only
  split
  next hstart =>
    exact ⟨⟨_, Function.update_self _ _ _, rfl, rfl, rfl⟩, fun _ => Option.some_ne_none _⟩
  next hstart =>
    exact ⟨⟨_, Function.update_self _ _ _, rfl, rfl, rfl⟩, fun h => absurd h hstart⟩

theorem accepted_of_bare_eq {view view' : JobView}
    (h : view'.bare = ((Entry.accepted operation details).apply view).bare) :
    Accepted operation view' := by
  apply persists_accepted _ _ view'.bare_le
  rw [h]
  apply persists_accepted _ _ (JobView.le_bare _)
  apply accepted_apply

def Begun (journal : Journal) : Prop :=
  ∀ lane pending operation details, journal.lanes lane = some pending
    → pending.call = .beginOperation operation details → pending.appended = some (.ok ())
    → journal.Durably operation.key (Accepted operation)

theorem begun_openStore {log : EventLog} {synced : Nat} : (openStore log synced).Begun := by
  intro lane pending operation details hlane
  cases hlane

theorem Begun.stored (hbegun : journal.Begun) (hsound : journal.Sound codec recovered)
    {lane : Fin journalShardCount} (hlane : journal.lanes lane = some ⟨call, stage, input, mode, none⟩)
    (answer : StoreAnswer) : (journal.storeAnswers lane answer).1.Begun := by
  obtain ⟨recovered', hsound'⟩ := hsound.stored hlane answer
  intro lane' pending' operation details hlane' hcall happended'
  by_cases heq : lane' = lane
  . have hready := hsound'.ready lane' pending' hlane'
    have hwritten := hready.written
    have hentry : pending'.entry = .accepted operation details := by
      unfold Pending.entry
      rw [hcall]
      rfl
    simp only [Written, happended', hentry, hcall] at hwritten
    have hmode := hready.mode
    rw [hentry] at hmode
    have hsynced : (journal.storeAnswers lane answer).1.synced
        = (journal.storeAnswers lane answer).1.log.length := by
      rw [heq] at hlane'
      simp only [storeAnswers, hlane, setLane_self, Option.some.injEq] at hlane' ⊢
      rw [← hlane'] at happended' hmode
      rw [show mode = .durable from hmode, Option.some.inj happended']
    refine ⟨recovered', ?_, ?_⟩
    . rw [hsynced, List.take_length]
      exact hsound'.recovers
    . apply accepted_of_bare_eq
      rw [← (recover_bound hsound'.recovers).bare] at hwritten
      exact hwritten
  . have hold : journal.lanes lane' = some pending' := by
      simp only [storeAnswers, hlane] at hlane'
      rw [← hlane', journal.setLane_of_ne _ heq]
    have hdurable := hbegun lane' pending' operation details hold hcall happended'
    exact hdurable.step persists_accepted hsound (.append lane answer)

theorem Begun.step (hbegun : journal.Begun) (hsound : journal.Sound codec recovered) (op : Op) :
    (journal.step codec op).1.Begun := by
  have hdurably : ∀ operation, journal.Durably operation.key (Accepted operation)
      → (journal.step codec op).1.Durably operation.key (Accepted operation) :=
    fun operation h => h.step persists_accepted hsound op
  have htransition := transition hsound op
  generalize (journal.step codec op).1 = next at htransition hdurably ⊢
  generalize (journal.step codec op).2 = out at htransition
  have hlanes : ∀ (state : JournalState) (lane : Fin journalShardCount) (new : Option Pending),
      (∀ pending, new = some pending → pending.appended = none)
      → next = { journal with state, lanes := journal.setLane lane new } → next.Begun := by
    intro state lane new hnew hnext lane' pending operation details hlane hcall happended
    apply hdurably
    by_cases heq : lane' = lane
    . rw [hnext, heq] at hlane
      have := hnew pending ((journal.setLane_self lane new).symm.trans hlane)
      rw [this] at happended
      cases happended
    . rw [hnext] at hlane
      exact hbegun lane' pending operation details
        ((journal.setLane_of_ne new heq).symm.trans hlane) hcall happended
  cases htransition with
  | unchanged hout => exact hbegun
  | entered hlane h =>
    apply hlanes _ _ none _ rfl
    intro pending hnew
    cases hnew
  | asked hlane h =>
    apply hlanes journal.state _ _ _ rfl
    intro pending hnew
    cases hnew
    rfl
  | stored hlane => exact hbegun.stored hsound hlane _
  | committed hlane happended h =>
    apply hlanes _ _ none _ rfl
    intro pending hnew
    cases hnew
  | continued hlane happended h =>
    apply hlanes _ _ _ _ rfl
    intro pending hnew
    cases hnew
    rfl
  | restarted kept => apply begun_openStore
  | openFailed error =>
    intro lane pending operation details hlane
    cases hlane

def Begins (operation : Operation) (_ : Op) (out : Answer) : Prop :=
  ∃ details, out = .answered (.beginOperation operation details) (.ok (.began .new))

theorem begins_step (hbegun : journal.Begun) (hsound : journal.Sound codec recovered)
    (h : Begins operation op (journal.step codec op).2) :
    journal.state.store = true
      ∧ (journal.state.view operation.key).operations operation.operationId = none
      ∧ (operation.isStart = true → (journal.state.view operation.key).job = none)
      ∧ (journal.step codec op).1.Durably operation.key (Accepted operation)
      ∧ Accepted operation ((journal.step codec op).1.state.view operation.key) := by
  obtain ⟨details, hout⟩ := h
  have hdurably : journal.Durably operation.key (Accepted operation)
      → (journal.step codec op).1.Durably operation.key (Accepted operation) :=
    fun h => h.step persists_accepted hsound op
  have htransition := transition hsound op
  generalize (journal.step codec op).1 = next at htransition hdurably ⊢
  rw [hout] at htransition
  generalize hanswer : Answer.answered (.beginOperation operation details) (.ok (.began .new)) = out
    at htransition
  cases htransition with
  | unchanged hne => exact absurd hanswer.symm (hne _)
  | @entered call state result hlane h =>
    obtain ⟨_, hresult⟩ := Answer.answered.inj hanswer
    exact absurd hresult.symm h.old
  | asked _ _ | stored _ | continued _ _ _ | restarted _ | openFailed _ => cases hanswer
  | @committed lane pending appended state result hlane happended h =>
    obtain ⟨hcall, hresult⟩ := Answer.answered.inj hanswer
    rw [← hresult] at h
    obtain ⟨rfl, hstore, _⟩ := h.new rfl
    have hready := hsound.ready lane pending hlane
    have hallowed := hready.allowed
    have hentry : pending.entry = .accepted operation details := by
      unfold Pending.entry
      rw [← hcall]
      rfl
    have hkey : pending.call.key = operation.key := by
      rw [← hcall]
      rfl
    rw [hentry, hkey] at hallowed
    have happlied := h.applied rfl hstore
    rw [show Entry.ofCall pending.call pending.stage = _ from hentry, hkey] at happlied
    exact ⟨hstore, hallowed.fresh, hallowed.start operation details rfl,
      hdurably (hbegun lane pending operation details hlane hcall.symm happended),
      accepted_of_bare_eq happlied⟩

def Conflicts (operation operation' : Operation) : Prop :=
  operation'.key = operation.key
    ∧ (operation'.request ≠ operation.request
      ∨ operation'.operationId = operation.operationId
        ∧ (operation'.operationKind ≠ operation.operationKind
          ∨ operation'.operationSha256 ≠ operation.operationSha256))

theorem enterBegin_conflict {state : JournalState}
    (haccepted : Accepted operation (state.view operation.key))
    (hconflicts : Conflicts operation operation') :
    state.enterBegin codec operation' details = (state, .answered (.error .jobConflict)) := by
  obtain ⟨⟨existing, hexisting, hmatches⟩, _⟩ := haccepted
  obtain ⟨hkey, hdiffers⟩ := hconflicts
  unfold JournalState.enterBegin
  cases hensure : state.ensureRequestForKey operation'.key operation'.request with
  | error e =>
    rw [JournalState.ensureRequestForKey_error hensure]
  | ok _ =>
    have hfits := JournalState.ensureRequestForKey_eq_ok.mp hensure
    have hrequest : operation'.request = operation.request := by
      rw [hkey] at hfits
      exact (hfits.2 _ existing hexisting).symm.trans hmatches.1
    obtain ⟨hid, hother⟩ := hdiffers.resolve_left (not_not.mpr hrequest)
    have hlookup : state.operations.lookup operation'.operationKey = some existing := by
      unfold Operation.operationKey
      rw [hkey, hid]
      exact hexisting
    have hmismatch : ¬ operation'.Matches existing := by
      rintro ⟨_, hkind, hsha⟩
      rw [hmatches.2.1] at hkind
      rw [hmatches.2.2] at hsha
      exact hother.elim (fun h => h hkind.symm) (fun h => h hsha.symm)
    simp only [hlookup]
    rw [if_neg hmismatch]

theorem startCall_conflict (haccepted : Accepted operation (journal.state.view operation.key))
    (hconflicts : Conflicts operation operation') :
    (journal.startCall codec (.beginOperation operation' details)).1 = journal
      ∧ ((journal.startCall codec (.beginOperation operation' details)).2 = .blocked
        ∨ ∃ e, (journal.startCall codec (.beginOperation operation' details)).2
          = .answered (.beginOperation operation' details) (.error e)) := by
  unfold startCall
  split
  . exact ⟨rfl, .inr ⟨_, rfl⟩⟩
  . split
    . exact ⟨rfl, .inl rfl⟩
    next hlane =>
      simp only [JournalState.enter, enterBegin_conflict haccepted hconflicts, proceed]
      have hlanes : journal.setLane (Call.beginOperation operation' details).lane none
          = journal.lanes := by
        unfold setLane
        rw [← hlane, Function.update_eq_self]
      rw [hlanes]
      exact ⟨rfl, .inr ⟨_, rfl⟩⟩

section Run

variable {log : EventLog} {synced : Nat} {ops : List Op}

section

variable (hlog : ∃ recovered, recover log = .ok recovered) (hsynced : synced ≤ log.length)
include hlog hsynced

theorem begun_before {i : Nat} :
    (before (step codec) (openStore log synced) ops i).Begun
      ∧ ∃ recovered, (before (step codec) (openStore log synced) ops i).Sound codec recovered := by
  apply before_invariant
    (P := fun journal : Journal => journal.Begun ∧ ∃ recovered, journal.Sound codec recovered)
  . obtain ⟨recovered, hrecovered⟩ := hlog
    exact ⟨begun_openStore, recovered, sound_openStore hrecovered hsynced⟩
  . rintro journal op ⟨hbegun, recovered, hsound⟩
    exact ⟨hbegun.step hsound op, hsound.step op⟩

theorem knows_before {P : JobView → Prop} (hP : Persists P) {i : Nat} (hij : i ≤ j)
    (h : (before (step codec) (openStore log synced) ops i).Knows key P) :
    (before (step codec) (openStore log synced) ops j).Knows key P := by
  apply before_of_le (P := fun journal : Journal => journal.Knows key P) hij h
  intro k op _ _ _ hk
  obtain ⟨_, recovered, hsound⟩ := begun_before hlog hsynced
  exact hk.step hP hsound op

theorem view_before {P : JobView → Prop} (hP : Persists P) {i : Nat} (hij : i ≤ j)
    (hops : ∀ k error, i ≤ k → k < j → ops[k]? ≠ some (.openFailed error))
    (hdurable : (before (step codec) (openStore log synced) ops i).Durably key P)
    (hview : P ((before (step codec) (openStore log synced) ops i).state.view key)) :
    P ((before (step codec) (openStore log synced) ops j).state.view key) := by
  refine (before_of_le (P := fun journal : Journal => journal.Durably key P
    ∧ P (journal.state.view key)) hij ⟨hdurable, hview⟩ ?_).2
  intro k op hik hkj hop hk
  obtain ⟨_, recovered, hsound⟩ := begun_before hlog hsynced
  refine ⟨hk.1.step hP hsound op, view_step hP hsound hk.1 ?_ hk.2⟩
  rintro error rfl
  exact hops k error hik hkj hop

theorem not_begins_after {i : Nat}
    (hi : Happens (step codec) (openStore log synced) ops (Begins operation) i)
    (hj : Happens (step codec) (openStore log synced) ops (Begins operation') j)
    (hkey : operation'.key = operation.key) (hsame : operation'.operationId = operation.operationId
      ∨ operation.isStart = true ∧ operation'.isStart = true) : ¬ i < j := by
  intro hij
  obtain ⟨hbegun, recovered, hsound⟩ := begun_before hlog hsynced
  obtain ⟨op, hbegins, hnext⟩ := hi.exists_step
  obtain ⟨_, _, _, hdurable, haccepted⟩ := begins_step hbegun hsound hbegins
  rw [← hnext] at hdurable haccepted
  have hknows := knows_before hlog hsynced persists_accepted hij
    ⟨hdurable, fun _ => haccepted⟩
  obtain ⟨hbegun', recovered', hsound'⟩ := begun_before hlog hsynced
  obtain ⟨op', hbegins', _⟩ := hj.exists_step
  obtain ⟨hstore, hfree, hjob, _⟩ := begins_step hbegun' hsound' hbegins'
  obtain ⟨⟨existing, hexisting, _⟩, hknown⟩ := hknows.2 hstore
  rw [hkey] at hfree hjob
  cases hsame with
  | inl hid =>
    rw [hid, hexisting] at hfree
    cases hfree
  | inr hstart => exact hknown hstart.1 (hjob hstart.2)

end

theorem begin_at_most_once (codec : FloatCodec) (log : EventLog) (synced : Nat) (ops : List Op)
    (hlog : ∃ recovered, recover log = .ok recovered) (hsynced : synced ≤ log.length) :
    (∀ i j operation operation', operation'.key = operation.key
      → operation'.operationId = operation.operationId
        ∨ operation.operationKind = "start" ∧ operation'.operationKind = "start"
      → Happens (step codec) (openStore log synced) ops (Begins operation) i
      → Happens (step codec) (openStore log synced) ops (Begins operation') j
      → i = j)
      ∧ (∀ i j operation operation' details out, i < j
        → Happens (step codec) (openStore log synced) ops (Begins operation) i
        → (∀ k error, i < k → k < j → ops[k]? ≠ some (.openFailed error))
        → Conflicts operation operation'
        → At (step codec) (openStore log synced) ops j
          (.call (.beginOperation operation' details)) out
        → (out = .blocked ∨ ∃ e, out = .answered (.beginOperation operation' details) (.error e))
          ∧ before (step codec) (openStore log synced) ops (j + 1)
            = before (step codec) (openStore log synced) ops j) := by
  constructor
  . intro i j operation operation' hkey hsame hi hj
    have hstart : operation'.operationId = operation.operationId
        ∨ operation.isStart = true ∧ operation'.isStart = true := by
      apply hsame.imp_right
      rintro ⟨h, h'⟩
      exact ⟨beq_iff_eq.mpr h, beq_iff_eq.mpr h'⟩
    have hlt := not_begins_after hlog hsynced hi hj hkey hstart
    have hgt := not_begins_after hlog hsynced hj hi hkey.symm (hstart.imp Eq.symm And.symm)
    omega
  . intro i j operation operation' details out hij hi hops hconflicts hj
    obtain ⟨hbegun, recovered, hsound⟩ := begun_before hlog hsynced
    obtain ⟨op, hbegins, hnext⟩ := hi.exists_step
    obtain ⟨_, _, _, hdurable, haccepted⟩ := begins_step hbegun hsound hbegins
    rw [← hnext] at hdurable haccepted
    have hview := view_before hlog hsynced persists_accepted hij hops hdurable haccepted
    obtain ⟨hsame, hrefused⟩ := startCall_conflict hview hconflicts
    obtain ⟨hop, hout⟩ := hj
    rw [← hout, before_succ hop]
    exact ⟨hrefused, hsame⟩

end Run

set_option maxRecDepth 10000 in
theorem begin_at_most_once_sample :
    Happens (step bitsCodec) (openStore [] 0) (firstOps sampleOperation (.ofString "details"))
        (Begins sampleOperation) 2
      ∧ ∀ j, Happens (step bitsCodec) (openStore [] 0)
        (firstOps sampleOperation (.ofString "details")) (Begins sampleOperation) j → j = 2 := by
  have hbegins : Happens (step bitsCodec) (openStore [] 0)
      (firstOps sampleOperation (.ofString "details")) (Begins sampleOperation) 2 :=
    ⟨.commit (stableJournalShardIndex sampleOperation.key), _, ⟨rfl, rfl⟩, .ofString "details", rfl⟩
  refine ⟨hbegins, ?_⟩
  intro j hj
  exact (begin_at_most_once bitsCodec [] 0 (firstOps sampleOperation (.ofString "details"))
    ⟨.empty, rfl⟩ (Nat.le_refl _)).1 j 2 sampleOperation sampleOperation rfl (.inl rfl) hj hbegins

end Journal

end JobRuntime
