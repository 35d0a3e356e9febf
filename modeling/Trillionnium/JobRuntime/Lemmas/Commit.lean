import Trillionnium.JobRuntime.Lemmas.View

namespace JobRuntime

open EventStore Json JobRegistry Entry

namespace JournalState

variable {state : JournalState} {key : JobKey} {request : JobRequest} {payload result : Document}
  {operation : Operation} {kind : String}

def view (state : JournalState) (key : JobKey) : JobView := .ofMaps state.operations state.jobs key

theorem ensureRequestForKey_eq_ok :
    state.ensureRequestForKey key request = .ok () ↔ (state.view key).Fits request := by
  unfold ensureRequestForKey
  split
  next h =>
    constructor
    . intro hok
      cases hok
    . intro hfits
      exfalso
      cases h with
      | inl hjob =>
        obtain ⟨job, hjob, hne⟩ := (Option.any_eq_true _ _).mp hjob
        exact of_decide_eq_true hne (hfits.1 job hjob)
      | inr hoperation =>
        obtain ⟨entry, hmem, hentry⟩ := List.any_eq_true.mp hoperation
        obtain ⟨hkey, hne⟩ := of_decide_eq_true hentry
        apply hne
        apply hfits.2 entry.1.operationId
        apply AList.mem_lookup_iff.mpr
        rw [← hkey]
        exact hmem
  next h =>
    constructor
    . intro _
      constructor
      . intro job hjob
        by_contra hne
        apply h
        exact .inl ((Option.any_eq_true _ _).mpr ⟨job, hjob, decide_eq_true hne⟩)
      . intro id operation hoperation
        by_contra hne
        apply h
        exact .inr (List.any_eq_true.mpr
          ⟨⟨⟨key, id⟩, operation⟩, AList.mem_lookup_iff.mp hoperation, decide_eq_true ⟨rfl, hne⟩⟩)
    . intro _
      rfl

theorem ensureRequestForKey_error {e : JobRuntimeError}
    (h : state.ensureRequestForKey key request = .error e) : e = .jobConflict := by
  unfold ensureRequestForKey at h
  split at h
  . cases h
    rfl
  . cases h

structure Touches (state : JournalState) (key : JobKey) (keep : Bool) (state' : JournalState) :
    Prop where
  others : ∀ key', key' ≠ key → state'.view key' = state.view key'
  le : (state.view key).Le (state'.view key)
  started : (state.view key).Started → (state'.view key).Started
  store : state'.store = (state.store && keep)

variable {state : JournalState}

theorem Touches.refl (state : JournalState) (key : JobKey) : state.Touches key true state where
  others := fun _ _ => rfl
  le := JobView.Le.refl _
  started := id
  store := (Bool.and_true _).symm

theorem touches_disable {error : String} :
    state.Touches key false (state.disable error) where
  others := fun _ _ => rfl
  le := JobView.Le.refl _
  started := id
  store := (Bool.and_false _).symm

theorem Touches.kept (h : state.Touches key true state') : state'.store = state.store :=
  h.store.trans (Bool.and_true _)

theorem Touches.live (h : state.Touches key keep state') (hstore : state'.store = true) :
    state.store = true := by
  rw [h.store, Bool.and_eq_true] at hstore
  exact hstore.1

theorem Touches.trans (h : state.Touches key keep state') (h' : state'.Touches key keep' state'') :
    state.Touches key (keep && keep') state'' where
  others := fun key' hne => (h'.others key' hne).trans (h.others key' hne)
  le := h.le.trans h'.le
  started := fun hstarted => h'.started (h.started hstarted)
  store := by rw [h'.store, h.store, Bool.and_assoc]

theorem view_setJob (state : JournalState) (key key' : JobKey) (job : JobState) :
    (state.setJob key job).view key'
      =
    if key' = key then (state.view key').setJob job else state.view key' := by
  apply JobView.ofMaps_insertJob

theorem view_setOperation (state : JournalState) (operation : Operation) (key : JobKey)
    (existing : OperationState) :
    (state.setOperation operation.operationKey existing).view key
      =
    if key = operation.key then (state.view key).setOperation operation.operationId existing
    else state.view key := by
  apply JobView.ofMaps_insertOperation

theorem touches_setJob {job : JobState}
    (h : ∀ existing, (state.view key).job = some existing → job.request = existing.request
      ∧ (existing.terminal.isSome → job.terminal.isSome)) :
    state.Touches key true (state.setJob key job) := by
  constructor
  . intro key' hne
    rw [view_setJob, if_neg hne]
  . rw [view_setJob, if_pos rfl]
    apply JobView.le_setJob
    exact h
  . intro _
    rw [view_setJob, if_pos rfl]
    apply JobView.started_setJob
  . exact (Bool.and_true _).symm

theorem touches_bindJob (state : JournalState) (key : JobKey) (request : JobRequest) :
    state.Touches key true (state.bindJob key request) := by
  apply touches_setJob
  intro existing hexisting
  simp [jobOrFresh, show state.jobs.lookup key = some existing from hexisting]

theorem touches_setTerminal : state.Touches key true (state.setTerminal key request payload) := by
  apply touches_setJob
  intro existing hexisting
  simp [jobOrFresh, show state.jobs.lookup key = some existing from hexisting]

theorem touches_setOperation {updated : OperationState}
    (h : ∀ existing, state.operations.lookup operation.operationKey = some existing
      → updated.request = existing.request ∧ updated.operationKind = existing.operationKind
        ∧ updated.operationSha256 = existing.operationSha256
        ∧ (existing.terminal.isSome → updated.terminal.isSome))
    (hjob : (state.view operation.key).Started → updated.operationKind = "start"
      → (state.view operation.key).job ≠ none) :
    state.Touches operation.key true (state.setOperation operation.operationKey updated) := by
  constructor
  . intro key' hne
    rw [view_setOperation, if_neg hne]
  . rw [view_setOperation, if_pos rfl]
    exact JobView.le_setOperation h
  . intro hstarted
    rw [view_setOperation, if_pos rfl]
    exact hstarted.setOperation (hjob hstarted)
  . exact (Bool.and_true _).symm

theorem touches_updateOperation {existing updated : OperationState}
    (hexisting : state.operations.lookup operation.operationKey = some existing)
    (hrequest : updated.request = existing.request)
    (hkind : updated.operationKind = existing.operationKind)
    (hsha : updated.operationSha256 = existing.operationSha256)
    (hterminal : existing.terminal.isSome → updated.terminal.isSome) :
    state.Touches operation.key true (state.setOperation operation.operationKey updated) := by
  apply touches_setOperation
  . intro existing' hexisting'
    cases hexisting.symm.trans hexisting'
    exact ⟨hrequest, hkind, hsha, hterminal⟩
  . intro hstarted hstart
    exact hstarted _ existing hexisting (hkind.symm.trans hstart)

theorem touches_markOperationUncertain :
    state.Touches operation.key true (state.markOperationUncertain operation.operationKey) := by
  unfold markOperationUncertain
  split
  . apply Touches.refl
  next existing hexisting => exact touches_updateOperation hexisting rfl rfl rfl id

theorem touches_insertOperation
    (hnone : (state.view operation.key).operations operation.operationId = none)
    (hjob : operation.isStart = true → (state.view operation.key).job = none) :
    state.Touches operation.key true (state.insertOperation operation preexisting durableAccept) := by
  unfold insertOperation
  dsimp only
  split
  next hstart =>
    -- Entered in the other order, the job of the operation is there when the operation is.
    have hset : state.Touches operation.key true
        (state.setJob operation.key (.fresh operation.request)) := by
      apply touches_setJob
      intro existing hexisting
      cases (hjob hstart).symm.trans hexisting
    apply hset.trans
    apply touches_setOperation
    . intro existing hexisting
      cases hnone.symm.trans hexisting
    . intro _ _
      rw [view_setJob, if_pos rfl]
      nofun
  next hstart =>
    apply touches_setOperation
    . intro existing hexisting
      cases hnone.symm.trans hexisting
    . intro _ hkind
      exact absurd (beq_iff_eq.mpr hkind) hstart

theorem touches_commitOperationTerminal :
    state.Touches operation.key true (state.commitOperationTerminal operation result).1 := by
  unfold commitOperationTerminal
  split
  . apply Touches.refl
  next existing hexisting =>
    split
    . apply Touches.refl
    . have hcompleted : state.Touches operation.key true (state.setOperation operation.operationKey
          { existing with terminal := some result }) :=
        touches_updateOperation hexisting rfl rfl rfl (fun _ => rfl)
      dsimp only
      split
      . exact hcompleted
      next job hjob =>
        apply hcompleted.trans
        apply touches_setJob
        intro existing' hexisting'
        split at hjob
        . cases hjob.symm.trans hexisting'
          exact ⟨rfl, fun h => h⟩
        . cases hjob

theorem commitOperationTerminal_ne_new :
    (state.commitOperationTerminal operation result).2 ≠ .ok (.began .new) := by
  unfold commitOperationTerminal
  split
  . nofun
  . split
    . dsimp only
      split <;> nofun
    . dsimp only
      split <;> nofun

section Enter

variable {codec : FloatCodec} {state' : JournalState}

structure Asks (codec : FloatCodec) (state : JournalState) (call : Call) (stage : Stage)
    (input : EventInput) (mode : AppendMode) : Prop where
  store : state.store = true
  input : input = (ofCall call stage).input codec
  mode : mode = (ofCall call stage).mode
  allowed : (ofCall call stage).Allowed (state.view call.key)

structure Answers (state : JournalState) (key : JobKey) (state' : JournalState)
    (result : Result Reply) : Prop where
  touches : state.Touches key true state'
  unchanged : state.store = true → state' = state
  old : result ≠ .ok (.began .new)

theorem answers_of_eq {result : Result Reply} (h : result ≠ .ok (.began .new)) :
    state.Answers key state result :=
  ⟨.refl state key, fun _ => rfl, h⟩

theorem allowed_observed {view : JobView} (hfits : view.Fits request) :
    (observed key request eventSeq kind payload).Allowed view where
  fits := hfits
  fresh := trivial
  start := by
    intro operation details h
    cases h

theorem allowed_ended {view : JobView} (hfits : view.Fits request)
    (hnone : view.job.bind JobState.terminal = none) :
    (ended key request eventSeq payload).Allowed view where
  fits := hfits
  fresh := hnone
  start := by
    intro operation details h
    cases h

def Enters (codec : FloatCodec) (state : JournalState) (call : Call) :
    JournalState × Phase → Prop
  | (state', .answered result) => state.Answers call.key state' result
  | (state', .append stage input mode) =>
    state' = state ∧ stage = .first ∧ state.Asks codec call .first input mode

theorem enters_beginOperation :
    state.Enters codec (.beginOperation operation details)
      (state.enterBegin codec operation details) := by
  unfold enterBegin
  split
  next e he =>
    exact answers_of_eq nofun
  next hensure =>
    have hfits := ensureRequestForKey_eq_ok.mp hensure
    split
    next existing hexisting =>
      split
      . split
        . exact answers_of_eq nofun
        . exact answers_of_eq nofun
      . exact answers_of_eq nofun
    next hnone =>
      split
      next existing hexisting =>
        split
        . exact answers_of_eq nofun
        . exact answers_of_eq nofun
      next hjob =>
        have hstart : operation.isStart = true → (state.view operation.key).job = none := by
          intro hstart
          rw [if_pos hstart] at hjob
          exact hjob
        split
        next hstore =>
          refine ⟨rfl, rfl, hstore, rfl, rfl, hfits, hnone, ?_⟩
          intro operation' details' heq
          cases heq
          exact hstart
        next hstore =>
          exact ⟨touches_insertOperation hnone hstart, fun h => absurd h hstore, nofun⟩

theorem enters_completeOperation :
    state.Enters codec (.completeOperation operation result)
      (state.enterComplete codec operation result) := by
  unfold enterComplete
  split
  next e he =>
    exact answers_of_eq nofun
  next hensure =>
    have hfits := ensureRequestForKey_eq_ok.mp hensure
    split
    next hnone =>
      exact answers_of_eq nofun
    next existing hexisting =>
      split
      next hmatches =>
        split
        next terminal hterminal =>
          apply answers_of_eq
          split <;> nofun
        next hterminal =>
          split
          next hstore =>
            refine ⟨rfl, rfl, hstore, rfl, rfl, hfits, ⟨existing, hexisting, hmatches, hterminal⟩, ?_⟩
            intro operation' details' heq
            cases heq
          next hstore =>
            have huncertain : ∀ error, state.Answers operation.key
                (state.markOperationUncertain operation.operationKey) (.error error) := by
              intro error
              exact ⟨touches_markOperationUncertain, fun h => absurd h hstore, nofun⟩
            split
            . apply huncertain
            . split
              . apply huncertain
              . exact ⟨touches_commitOperationTerminal,
                  fun h => absurd h hstore, commitOperationTerminal_ne_new⟩
      next hmatches =>
        exact answers_of_eq nofun

theorem enters_appendObservation {terminal : Option Document} :
    state.Enters codec (.appendObservation key request eventSeq kind payload)
      (state.enterObservation codec key request eventSeq kind payload terminal) := by
  unfold enterObservation
  split
  next e he =>
    exact answers_of_eq nofun
  next hensure =>
    have hfits := ensureRequestForKey_eq_ok.mp hensure
    split
    next hstore => exact ⟨rfl, rfl, hstore, rfl, rfl, allowed_observed hfits⟩
    next hstore =>
      split
      . exact answers_of_eq nofun
      . dsimp only
        split
        . exact ⟨touches_bindJob state key request, fun h => absurd h hstore, nofun⟩
        . refine ⟨touches_bindJob state key request, fun h => absurd h hstore, ?_⟩
          split <;> nofun
        . exact ⟨(touches_bindJob state key request).trans touches_setTerminal,
            fun h => absurd h hstore, nofun⟩

theorem enters_recordJobTerminal :
    state.Enters codec (.recordJobTerminal key request eventSeq payload)
      (state.enterJobTerminal codec key request eventSeq payload) := by
  unfold enterJobTerminal
  split
  next e he =>
    exact answers_of_eq nofun
  next hensure =>
    have hfits := ensureRequestForKey_eq_ok.mp hensure
    split
    next existing hexisting =>
      apply answers_of_eq
      split <;> nofun
    next hnone =>
      split
      next hstore => exact ⟨rfl, rfl, hstore, rfl, rfl, allowed_ended hfits hnone⟩
      next hstore =>
        split
        . exact answers_of_eq nofun
        . exact ⟨touches_setTerminal, fun h => absurd h hstore, nofun⟩

theorem enters_enter (codec : FloatCodec) (state : JournalState) (call : Call) :
    state.Enters codec call (state.enter codec call) := by
  cases call with
  | beginOperation operation details => apply enters_beginOperation
  | completeOperation operation result => apply enters_completeOperation
  | appendObservation key request eventSeq kind payload => apply enters_appendObservation
  | recordJobTerminal key request eventSeq payload => apply enters_recordJobTerminal

end Enter

section Commit

variable {codec : FloatCodec} {state' : JournalState}

structure Commits (codec : FloatCodec) (state : JournalState) (call : Call) (stage : Stage)
    (appended : Except String Unit) (result : JournalState × Phase) : Prop where
  touches : state.Touches call.key appended.isOk result.1
  applied : appended = .ok () → state.store = true → (result.1.view call.key).bare
    = ((ofCall call stage).apply (state.view call.key)).bare
  asks : ∀ stage' input mode, result.2 = .append stage' input mode
    → appended = .ok () ∧ result.1.Asks codec call stage' input mode
  new : result.2 = .answered (.ok (.began .new)) → appended = .ok () ∧ state.store = true
    ∧ ∃ operation details, call = .beginOperation operation details

variable {stage : Stage} {operation : Operation} {appended : Except String Unit} {key : JobKey}
  {request : JobRequest} {eventSeq : Fin (2 ^ 64)} {payload : Document}

theorem commits_disable (error : String) :
    state.Commits codec call stage (.error error)
      (state.disable error, .answered (.error (.journal error))) where
  touches := touches_disable
  applied := nofun
  asks := nofun
  new := nofun

theorem commits_beginOperation
    (hallowed : (accepted operation details).Allowed (state.view operation.key)) :
    state.Commits codec (.beginOperation operation details) stage appended
      (state.commitBegin operation appended) := by
  have hstart := hallowed.start operation details rfl
  unfold commitBegin
  cases appended with
  | error error => apply commits_disable
  | ok _ =>
    refine ⟨touches_insertOperation hallowed.fresh hstart, ?_, nofun, ?_⟩
    . intro _ _
      change ((state.insertOperation operation (!state.store) true).view operation.key).bare = _
      simp only [ofCall, apply, insertOperation, Call.key]
      split
      next hkind =>
        rw [view_setJob, if_pos rfl, view_setOperation, if_pos rfl, JobView.jobOrFresh, hstart hkind]
        rw [JobView.bare_setJob, JobView.bare_setJob, JobView.bare_setOperation,
          JobView.bare_setOperation]
        rfl
      . rw [view_setOperation, if_pos rfl, JobView.bare_setOperation, JobView.bare_setOperation]
        rfl
    . intro hnew
      refine ⟨rfl, ?_, operation, details, rfl⟩
      by_contra hstore
      rw [Bool.not_eq_true] at hstore
      rw [hstore] at hnew
      cases hnew

theorem view_commitOperationTerminal
    (hallowed : (terminal operation result).Allowed (state.view operation.key))
    (hstarted : (state.view operation.key).Started) :
    (state.commitOperationTerminal operation result).1.view operation.key
      =
    (terminal operation result).apply (state.view operation.key) := by
  obtain ⟨existing, hexisting, hmatches, hterminal⟩ := hallowed.fresh
  have hlookup : state.operations.lookup operation.operationKey = some existing := hexisting
  simp only [commitOperationTerminal, apply, hlookup, hterminal, hexisting]
  by_cases hkind : operation.isStart = true
  . have hjob : (state.view operation.key).job ≠ none := by
      apply hstarted _ existing hexisting
      rw [hmatches.2.1]
      exact beq_iff_eq.mp hkind
    obtain ⟨job, hjob⟩ := Option.ne_none_iff_exists'.mp hjob
    rw [if_pos hkind, if_pos hkind, show state.jobs.lookup operation.key = some job from hjob]
    dsimp only
    rw [view_setJob, if_pos rfl, view_setOperation, if_pos rfl, JobView.jobOrFresh, hjob]
    rfl
  . rw [if_neg hkind, if_neg hkind]
    dsimp only
    rw [view_setOperation, if_pos rfl]

theorem commits_completeOperation
    (hallowed : (terminal operation result).Allowed (state.view operation.key))
    (hstarted : (state.view operation.key).Started) :
    state.Commits codec (.completeOperation operation result) stage appended
      (state.commitComplete operation result appended) := by
  unfold commitComplete
  cases appended with
  | error error =>
    exact ⟨touches_markOperationUncertain.trans touches_disable, nofun,
      nofun, nofun⟩
  | ok _ =>
    dsimp only
    split
    next hstore =>
      refine ⟨touches_commitOperationTerminal, ?_, nofun, ?_⟩
      . intro _ _
        change ((state.commitOperationTerminal operation result).1.view operation.key).bare = _
        rw [view_commitOperationTerminal hallowed hstarted]
        rfl
      . intro hnew
        exact absurd (Phase.answered.inj hnew) commitOperationTerminal_ne_new
    next hstore =>
      exact ⟨touches_markOperationUncertain, fun _ h => absurd h hstore, nofun, nofun⟩

theorem commits_appendObservation {terminal : Option Document}
    (hfits : (state.view key).Fits request) :
    state.Commits codec (.appendObservation key request eventSeq kind payload) .first appended
      (state.commitObservation codec key request eventSeq terminal appended) := by
  have htouches := touches_bindJob state key request
  have hview : (state.bindJob key request).view key
      = (observed key request eventSeq kind payload).apply (state.view key) := by
    unfold bindJob
    rw [view_setJob, if_pos rfl]
    rfl
  have hanswered : ∀ result : Result Reply, result ≠ .ok (.began .new)
      → state.Commits codec (.appendObservation key request eventSeq kind payload) .first (.ok ())
        (state.bindJob key request, .answered result) := by
    intro result hold
    exact ⟨htouches, fun _ _ => congrArg JobView.bare hview, nofun,
      fun hnew => absurd (Phase.answered.inj hnew) hold⟩
  unfold commitObservation
  cases appended with
  | error error => apply commits_disable
  | ok _ =>
    dsimp only
    split
    next hstore =>
      split
      . exact hanswered _ nofun
      next terminal =>
        split
        . apply hanswered
          split <;> nofun
        next hnone =>
          refine ⟨htouches, fun _ _ => congrArg JobView.bare hview, ?_, nofun⟩
          intro stage' input mode hask
          cases hask
          refine ⟨rfl, hstore, rfl, rfl, allowed_ended ?_ hnone⟩
          change ((state.bindJob key request).view key).Fits request
          rw [hview]
          exact fits_apply hfits trivial
    . exact hanswered _ nofun

theorem commits_setTerminal (hkey : call.key = key)
    (hentry : ofCall call stage = .ended key request eventSeq payload) (e : JobRuntimeError) :
    state.Commits codec call stage (.ok ())
      (if state.store then (state.setTerminal key request payload, .answered (.ok .done))
      else (state, .answered (.error e))) := by
  subst hkey
  split
  next hstore =>
    refine ⟨touches_setTerminal, ?_, nofun, nofun⟩
    intro _ _
    change ((state.setTerminal call.key request payload).view call.key).bare = _
    unfold setTerminal
    rw [view_setJob, if_pos rfl, hentry]
    rfl
  next hstore =>
    exact ⟨.refl state _, fun _ h => absurd h hstore, nofun, nofun⟩

theorem commits_observedTerminal {terminal : Document} :
    state.Commits codec (.appendObservation key request eventSeq kind payload) (.terminal terminal)
      appended (state.commitObservedTerminal key request terminal appended) := by
  unfold commitObservedTerminal
  cases appended with
  | error error => apply commits_disable
  | ok _ => exact commits_setTerminal rfl rfl _

theorem commits_recordJobTerminal
    (hallowed : (ended key request eventSeq payload).Allowed (state.view key)) :
    state.Commits codec (.recordJobTerminal key request eventSeq payload) stage appended
      (state.commitJobTerminal key request payload appended) := by
  unfold commitJobTerminal
  rw [show (state.jobs.lookup key).bind JobState.terminal = none from hallowed.fresh]
  cases appended with
  | error error => apply commits_disable
  | ok _ => exact commits_setTerminal rfl rfl _

theorem commits_commit (hallowed : (ofCall call stage).Allowed (state.view call.key))
    (hstarted : (state.view call.key).Started) :
    state.Commits codec call stage appended (state.commit codec call stage appended) := by
  cases call with
  | beginOperation operation details => exact commits_beginOperation hallowed
  | completeOperation operation result => exact commits_completeOperation hallowed hstarted
  | appendObservation key request eventSeq kind payload =>
    cases stage with
    | first => exact commits_appendObservation hallowed.fits
    | terminal terminal => exact commits_observedTerminal
  | recordJobTerminal key request eventSeq payload => exact commits_recordJobTerminal hallowed

end Commit

end JournalState

end JobRuntime
