import Trillionnium.JobRuntime.Impl.Machine

/-!
What the journal knows about one job, and how a record changes it. Both the live journal and recovery
are compared with this reading of the records.
-/

namespace JobRuntime

open EventStore Json JobRegistry

@[ext]
structure JobView where
  job : Option JobState
  operations : String → Option OperationState

namespace OperationState

def bare (operation : OperationState) : OperationState :=
  { operation with preexisting := true, durableAccept := true }

end OperationState

namespace JobView

def empty : JobView := ⟨none, fun _ => none⟩

def ofMaps (operations : HashMap OperationKey OperationState) (jobs : HashMap JobKey JobState)
    (key : JobKey) : JobView where
  job := jobs.lookup key
  operations := fun id => operations.lookup ⟨key, id⟩

def jobOrFresh (view : JobView) (request : JobRequest) : JobState :=
  view.job.getD (.fresh request)

def setJob (view : JobView) (job : JobState) : JobView := { view with job := some job }

def setOperation (view : JobView) (id : String) (operation : OperationState) : JobView :=
  { view with operations := Function.update view.operations id (some operation) }

def bare (view : JobView) : JobView :=
  { view with operations := fun id => (view.operations id).map OperationState.bare }

def Fits (view : JobView) (request : JobRequest) : Prop :=
  (∀ job, view.job = some job → job.request = request)
    ∧ ∀ id operation, view.operations id = some operation → operation.request = request

def Binds (view : JobView) : Option JobRequest → Prop
  | none => view = empty
  | some request => view.Fits request ∧ view ≠ empty

def Started (view : JobView) : Prop :=
  ∀ id operation, view.operations id = some operation → operation.operationKind = "start"
    → view.job ≠ none

structure Le (view view' : JobView) : Prop where
  job : ∀ job, view.job = some job → ∃ job', view'.job = some job'
    ∧ job'.request = job.request ∧ (job.terminal.isSome → job'.terminal.isSome)
  operation : ∀ id operation, view.operations id = some operation
    → ∃ operation', view'.operations id = some operation'
      ∧ operation'.request = operation.request
      ∧ operation'.operationKind = operation.operationKind
      ∧ operation'.operationSha256 = operation.operationSha256
      ∧ (operation.terminal.isSome → operation'.terminal.isSome)

theorem Le.refl (view : JobView) : view.Le view where
  job := fun job h => ⟨job, h, rfl, id⟩
  operation := fun _ operation h => ⟨operation, h, rfl, rfl, rfl, id⟩

variable {view view' : JobView} {id : String} {operation : OperationState} {request : JobRequest}

theorem Le.trans (h : view.Le view') (h' : view'.Le view'') :
    view.Le view'' where
  job := by
    intro job hjob
    obtain ⟨job', hjob', hrequest', hterminal'⟩ := h.job job hjob
    obtain ⟨job'', hjob'', hrequest'', hterminal''⟩ := h'.job job' hjob'
    exact ⟨job'', hjob'', hrequest''.trans hrequest', fun hsome => hterminal'' (hterminal' hsome)⟩
  operation := by
    intro id operation hoperation
    obtain ⟨operation', hoperation', hrequest', hkind', hsha', hterminal'⟩ :=
      h.operation id operation hoperation
    obtain ⟨operation'', hoperation'', hrequest'', hkind'', hsha'', hterminal''⟩ :=
      h'.operation id operation' hoperation'
    exact ⟨operation'', hoperation'', hrequest''.trans hrequest', hkind''.trans hkind',
      hsha''.trans hsha', fun hsome => hterminal'' (hterminal' hsome)⟩

theorem Le.job_ne_none (h : view.Le view') (hjob : view.job ≠ none) : view'.job ≠ none := by
  obtain ⟨job, hsome⟩ := Option.ne_none_iff_exists'.mp hjob
  obtain ⟨job', hsome', _⟩ := h.job job hsome
  rw [hsome']
  apply Option.some_ne_none

theorem Le.operation_ne_none (h : view.Le view') (hoperation : view.operations id ≠ none) :
    view'.operations id ≠ none := by
  obtain ⟨operation, hsome⟩ := Option.ne_none_iff_exists'.mp hoperation
  obtain ⟨operation', hsome', _⟩ := h.operation id operation hsome
  rw [hsome']
  apply Option.some_ne_none

theorem ofMaps_insertJob (operations : HashMap OperationKey OperationState)
    (jobs : HashMap JobKey JobState) (key key' : JobKey) (job : JobState) :
    ofMaps operations (jobs.insert key job) key'
      =
    if key' = key then (ofMaps operations jobs key').setJob job else ofMaps operations jobs key' := by
  split
  next h =>
    rw [h]
    apply JobView.ext
    . exact AList.lookup_insert _
    . rfl
  next h =>
    apply JobView.ext
    . exact AList.lookup_insert_ne h
    . rfl

theorem ofMaps_insertOperation {operations : HashMap OperationKey OperationState} {key : JobKey}
    {id : String} :
    ofMaps (operations.insert ⟨key, id⟩ operation) jobs key'
      =
    if key' = key then (ofMaps operations jobs key').setOperation id operation
    else ofMaps operations jobs key' := by
  split
  next h =>
    rw [h]
    apply JobView.ext
    . rfl
    . funext id'
      by_cases hid : id' = id
      . rw [hid]
        simp only [ofMaps, setOperation, Function.update_self]
        exact AList.lookup_insert _
      . simp only [ofMaps, setOperation, Function.update_of_ne hid]
        apply AList.lookup_insert_ne
        intro heq
        exact hid (congrArg OperationKey.operationId heq)
  next h =>
    apply JobView.ext
    . rfl
    . funext id'
      apply AList.lookup_insert_ne
      intro heq
      exact h (congrArg OperationKey.job heq)

theorem bare_operations_eq_none : view.bare.operations id = none ↔ view.operations id = none := by
  simp only [bare, Option.map_eq_none_iff]

theorem bare_operations_eq_some :
    view.bare.operations id = some operation
      ↔ ∃ existing, view.operations id = some existing ∧ existing.bare = operation := by
  simp only [bare, Option.map_eq_some_iff]

theorem bare_setJob (view : JobView) (job : JobState) :
    (view.setJob job).bare = view.bare.setJob job := rfl

theorem bare_setOperation {view : JobView} {id : String} :
    (view.setOperation id operation).bare = view.bare.setOperation id operation.bare := by
  apply JobView.ext
  . rfl
  . funext id'
    by_cases h : id' = id
    . simp [bare, setOperation, h]
    . simp [bare, setOperation, h]

theorem le_bare (view : JobView) : view.Le view.bare where
  job := fun job h => ⟨job, h, rfl, id⟩
  operation := by
    intro id operation h
    exact ⟨operation.bare, bare_operations_eq_some.mpr ⟨operation, h, rfl⟩, rfl, rfl, rfl, fun h => h⟩

theorem bare_le (view : JobView) : view.bare.Le view where
  job := fun job h => ⟨job, h, rfl, id⟩
  operation := by
    intro id operation h
    obtain ⟨existing, hexisting, rfl⟩ := bare_operations_eq_some.mp h
    exact ⟨existing, hexisting, rfl, rfl, rfl, fun h => h⟩

theorem Fits.of_le (h : view'.Fits request) (hle : view.Le view') : view.Fits request := by
  constructor
  . intro job hjob
    obtain ⟨job', hjob', hrequest, _⟩ := hle.job job hjob
    rw [← hrequest]
    exact h.1 job' hjob'
  . intro id operation hoperation
    obtain ⟨operation', hoperation', hrequest, _⟩ := hle.operation id operation hoperation
    rw [← hrequest]
    exact h.2 id operation' hoperation'

theorem fits_empty (request : JobRequest) : empty.Fits request := by
  constructor
  . intro job h
    cases h
  . intro id operation h
    cases h

theorem fits_bare : view.bare.Fits request ↔ view.Fits request := by
  constructor
  . intro h
    exact h.of_le view.le_bare
  . intro h
    exact h.of_le view.bare_le

theorem Fits.eq (h : view.Fits request) (h' : view.Fits request') (hne : view ≠ empty) :
    request = request' := by
  by_contra hdiffers
  apply hne
  apply JobView.ext
  . apply Option.eq_none_iff_forall_ne_some.mpr
    intro job hjob
    exact hdiffers ((h.1 job hjob).symm.trans (h'.1 job hjob))
  . funext id
    apply Option.eq_none_iff_forall_ne_some.mpr
    intro operation hoperation
    exact hdiffers ((h.2 id operation hoperation).symm.trans (h'.2 id operation hoperation))

theorem Binds.eq_none_or {bound : Option JobRequest} (h : view.Binds bound)
    (hfits : view.Fits request) : bound = none ∨ bound = some request := by
  cases bound with
  | none => exact .inl rfl
  | some request' => exact .inr (congrArg some (h.1.eq hfits h.2))

theorem ne_empty_of_job (h : view.job ≠ none) : view ≠ empty := by
  intro hempty
  rw [hempty] at h
  exact h rfl

theorem ne_empty_of_operation (h : view.operations id ≠ none) : view ≠ empty := by
  intro hempty
  rw [hempty] at h
  exact h rfl

theorem le_setJob {job : JobState}
    (h : ∀ existing, view.job = some existing → job.request = existing.request ∧ (existing.terminal.isSome → job.terminal.isSome)) :
    view.Le (view.setJob job) where
  job := fun existing hexisting => ⟨job, rfl, h existing hexisting⟩
  operation := fun _ operation hoperation => ⟨operation, hoperation, rfl, rfl, rfl, fun h => h⟩

theorem le_setOperation
    (h : ∀ existing, view.operations id = some existing → operation.request = existing.request ∧ operation.operationKind = existing.operationKind ∧ operation.operationSha256 = existing.operationSha256 ∧ (existing.terminal.isSome → operation.terminal.isSome)) :
    view.Le (view.setOperation id operation) where
  job := fun job hjob => ⟨job, hjob, rfl, fun h => h⟩
  operation := by
    intro id' existing hexisting
    by_cases hid : id' = id
    . rw [hid] at hexisting ⊢
      exact ⟨operation, Function.update_self _ _ _, h existing hexisting⟩
    . exact ⟨existing, by simp [setOperation, hid, hexisting], rfl, rfl, rfl, fun h => h⟩

theorem Fits.setJob {job : JobState} (h : view.Fits request) (hjob : job.request = request) :
    (view.setJob job).Fits request := by
  constructor
  . intro existing hexisting
    cases hexisting
    exact hjob
  . exact h.2

theorem Fits.setOperation (h : view.Fits request) (hrequest : operation.request = request) :
    (view.setOperation id operation).Fits request := by
  constructor
  . exact h.1
  . intro id' existing hexisting
    by_cases hid : id' = id
    . rw [hid] at hexisting
      simp only [JobView.setOperation, Function.update_self, Option.some.injEq] at hexisting
      rw [← hexisting]
      exact hrequest
    . apply h.2 id'
      simpa [JobView.setOperation, hid] using hexisting

theorem Fits.jobOrFresh (h : view.Fits request) : (view.jobOrFresh request).request = request := by
  unfold JobView.jobOrFresh
  cases hjob : view.job with
  | none => rfl
  | some job => exact h.1 job hjob

theorem started_setJob (view : JobView) (job : JobState) : (view.setJob job).Started := by
  intro id operation hoperation hkind
  apply Option.some_ne_none

theorem Started.setOperation (h : view.Started)
    (hkind : operation.operationKind = "start" → view.job ≠ none) :
    (view.setOperation id operation).Started := by
  intro id' existing hexisting hstart
  by_cases hid : id' = id
  . rw [hid] at hexisting
    simp only [JobView.setOperation, Function.update_self, Option.some.injEq] at hexisting
    rw [← hexisting] at hstart
    exact hkind hstart
  . apply h id' existing _ hstart
    simpa [JobView.setOperation, hid] using hexisting

end JobView

inductive Entry where
  | accepted (operation : Operation) (details : Document)
  | terminal (operation : Operation) (result : Document)
  | observed (key : JobKey) (request : JobRequest) (eventSeq : Fin (2 ^ 64)) (kind : String)
    (payload : Document)
  | ended (key : JobKey) (request : JobRequest) (eventSeq : Fin (2 ^ 64)) (payload : Document)

namespace Entry

def key : Entry → JobKey
  | accepted operation _ => operation.key
  | terminal operation _ => operation.key
  | observed key _ _ _ _ => key
  | ended key _ _ _ => key

def request : Entry → JobRequest
  | accepted operation _ => operation.request
  | terminal operation _ => operation.request
  | observed _ request _ _ _ => request
  | ended _ request _ _ => request

def envelope : Entry → JournalEnvelope
  | accepted operation details =>
    ⟨jobJournalSchema, "operation.accepted", operation.key.jobId, operation.request,
      some operation.operationId, some operation.operationKind, some operation.operationSha256, none,
      details⟩
  | terminal operation result =>
    ⟨jobJournalSchema, "operation.terminal", operation.key.jobId, operation.request,
      some operation.operationId, some operation.operationKind, some operation.operationSha256, none,
      result⟩
  | observed key request eventSeq _ payload =>
    ⟨jobJournalSchema, "observation", key.jobId, request, none, none, none, some eventSeq, payload⟩
  | ended key request eventSeq payload =>
    ⟨jobJournalSchema, "job.terminal", key.jobId, request, none, none, none, some eventSeq, payload⟩

def withPayload (payload : Document) : Entry → Entry
  | accepted operation _ => accepted operation payload
  | terminal operation _ => terminal operation payload
  | observed key request eventSeq kind _ => observed key request eventSeq kind payload
  | ended key request eventSeq _ => ended key request eventSeq payload

def input (codec : FloatCodec) : Entry → EventInput
  | accepted operation details => JournalState.acceptedInput codec operation details
  | terminal operation result => JournalState.terminalInput codec operation result
  | observed key request eventSeq kind payload =>
    JournalState.observationInput codec key request eventSeq kind payload
  | ended key request eventSeq payload =>
    JournalState.jobTerminalInput codec key request eventSeq payload

def mode : Entry → AppendMode
  | observed _ _ _ _ _ => .grouped
  | _ => .durable

@[simp]
theorem input_scope (codec : FloatCodec) (entry : Entry) :
    (entry.input codec).scope = turnScope entry.key := by
  cases entry <;> rfl

@[simp]
theorem input_payload (codec : FloatCodec) (entry : Entry) :
    (entry.input codec).payload = entry.envelope.toDocument := by
  cases entry <;> rfl

theorem envelope_withPayload (entry : Entry) (payload : Document) :
    (entry.withPayload payload).envelope = { entry.envelope with payload := payload } := by
  cases entry <;> rfl

@[simp]
theorem key_withPayload (entry : Entry) (payload : Document) :
    (entry.withPayload payload).key = entry.key := by
  cases entry <;> rfl

def ofCall : Call → Stage → Entry
  | .beginOperation operation details, _ => accepted operation details
  | .completeOperation operation result, _ => terminal operation result
  | .appendObservation key request eventSeq kind payload, .first =>
    observed key request eventSeq kind payload
  | .appendObservation key request eventSeq _ _, .terminal payload =>
    ended key request eventSeq payload
  | .recordJobTerminal key request eventSeq payload, _ => ended key request eventSeq payload

@[simp]
theorem key_ofCall : (ofCall call stage).key = call.key := by
  cases call <;> cases stage <;> rfl

def apply (entry : Entry) (view : JobView) : JobView :=
  match entry with
  | accepted operation _ =>
    let accepted := view.setOperation operation.operationId (operation.accepted true true)
    if operation.isStart then
      accepted.setJob (view.jobOrFresh operation.request)
    else
      accepted
  | terminal operation result =>
    match view.operations operation.operationId with
    | none => view
    | some existing =>
      let completed :=
        view.setOperation operation.operationId { existing with terminal := some result }
      if operation.isStart then
        completed.setJob { view.jobOrFresh operation.request with startResult := some result }
      else
        completed
  | observed _ request _ _ _ => view.setJob (view.jobOrFresh request)
  | ended _ request _ payload =>
    view.setJob { view.jobOrFresh request with terminal := some payload }

def Fresh (entry : Entry) (view : JobView) : Prop :=
  match entry with
  | accepted operation _ => view.operations operation.operationId = none
  | terminal operation _ => ∃ existing, view.operations operation.operationId = some existing
      ∧ operation.Matches existing ∧ existing.terminal = none
  | observed _ _ _ _ _ => True
  | ended _ _ _ _ => view.job.bind JobState.terminal = none

structure Allowed (entry : Entry) (view : JobView) : Prop where
  fits : view.Fits entry.request
  fresh : entry.Fresh view
  start : ∀ operation details, entry = accepted operation details → operation.isStart = true
    → view.job = none

def Done (entry : Entry) (view : JobView) : Prop :=
  match entry with
  | accepted operation _ => view.operations operation.operationId ≠ none
  | terminal operation _ => ∃ existing, view.operations operation.operationId = some existing
      ∧ existing.terminal.isSome
  | observed _ _ _ _ _ => view.job ≠ none
  | ended _ _ _ _ => ∃ job, view.job = some job ∧ job.terminal.isSome

variable {entry : Entry} {view : JobView}

theorem done_withPayload {payload : Document} :
    (entry.withPayload payload).Done view ↔ entry.Done view := by
  cases entry <;> rfl

theorem fresh_bare : entry.Fresh view.bare ↔ entry.Fresh view := by
  cases entry with
  | accepted operation details => exact JobView.bare_operations_eq_none
  | terminal operation result =>
    constructor
    . rintro ⟨_, hsome, hmatches, hnone⟩
      obtain ⟨existing, hexisting, rfl⟩ := JobView.bare_operations_eq_some.mp hsome
      exact ⟨existing, hexisting, hmatches, hnone⟩
    . rintro ⟨existing, hexisting, hmatches, hnone⟩
      exact ⟨existing.bare, JobView.bare_operations_eq_some.mpr ⟨existing, hexisting, rfl⟩, hmatches,
        hnone⟩
  | observed _ _ _ _ _ | ended _ _ _ _ => exact Iff.rfl

theorem Allowed.bare (h : entry.Allowed view) :
    entry.Allowed view.bare where
  fits := JobView.fits_bare.mpr h.fits
  fresh := fresh_bare.mpr h.fresh
  start := h.start

theorem apply_bare (entry : Entry) (view : JobView) :
    entry.apply view.bare = (entry.apply view).bare := by
  cases entry with
  | accepted operation details =>
    simp only [apply]
    split
    . rw [JobView.bare_setJob, JobView.bare_setOperation]
      rfl
    . rw [JobView.bare_setOperation]
      rfl
  | terminal operation result =>
    simp only [apply]
    cases hexisting : view.operations operation.operationId with
    | none =>
      rw [JobView.bare_operations_eq_none.mpr hexisting]
    | some existing =>
      rw [JobView.bare_operations_eq_some.mpr ⟨existing, hexisting, rfl⟩]
      dsimp only
      split
      . rw [JobView.bare_setJob, JobView.bare_setOperation]
        rfl
      . rw [JobView.bare_setOperation]
        rfl
  | observed _ _ _ _ _ | ended _ _ _ _ => rfl

theorem apply_eq_self_of_done (hfresh : entry.Fresh view) (hdone : entry.Done view) :
    entry.apply view = view := by
  cases entry with
  | accepted operation details => exact absurd hfresh hdone
  | terminal operation result =>
    obtain ⟨existing, hexisting, _, hnone⟩ := hfresh
    obtain ⟨existing', hexisting', hsome⟩ := hdone
    rw [hexisting] at hexisting'
    cases hexisting'
    rw [hnone] at hsome
    cases hsome
  | observed key request eventSeq kind payload =>
    obtain ⟨job, hjob⟩ := Option.ne_none_iff_exists'.mp hdone
    apply JobView.ext
    . simp only [apply, JobView.setJob, JobView.jobOrFresh, hjob, Option.getD_some]
    . rfl
  | ended key request eventSeq payload =>
    obtain ⟨job, hjob, hsome⟩ := hdone
    simp only [Fresh, hjob, Option.bind_some] at hfresh
    rw [hfresh] at hsome
    cases hsome

theorem done_of_le (hdone : entry.Done view) (hle : view.Le view') : entry.Done view' := by
  cases entry with
  | accepted operation details => exact hle.operation_ne_none hdone
  | terminal operation result =>
    obtain ⟨existing, hexisting, hsome⟩ := hdone
    obtain ⟨existing', hexisting', _, _, _, hterminal⟩ := hle.operation _ existing hexisting
    exact ⟨existing', hexisting', hterminal hsome⟩
  | observed key request eventSeq kind payload => exact hle.job_ne_none hdone
  | ended key request eventSeq payload =>
    obtain ⟨job, hjob, hsome⟩ := hdone
    obtain ⟨job', hjob', _, hterminal⟩ := hle.job job hjob
    exact ⟨job', hjob', hterminal hsome⟩

theorem done_apply (hfresh : entry.Fresh view) : entry.Done (entry.apply view) := by
  cases entry with
  | accepted operation details =>
    simp only [Done, apply]
    split
    . simp [JobView.setJob, JobView.setOperation]
    . simp [JobView.setOperation]
  | terminal operation result =>
    obtain ⟨existing, hexisting, _, _⟩ := hfresh
    simp only [Done, apply, hexisting]
    split
    . simp [JobView.setJob, JobView.setOperation]
    . simp [JobView.setOperation]
  | observed _ _ _ _ _ | ended _ _ _ _ => simp [Done, apply, JobView.setJob]

theorem le_apply (hfits : view.Fits entry.request) (hfresh : entry.Fresh view) :
    view.Le (entry.apply view) := by
  have hjob : ∀ job, view.job = some job → (view.jobOrFresh entry.request).request = job.request
      ∧ (job.terminal.isSome → (view.jobOrFresh entry.request).terminal.isSome) := by
    intro job hjob
    simp [JobView.jobOrFresh, hjob]
  cases entry with
  | accepted operation details =>
    have haccepted : view.Le
        (view.setOperation operation.operationId (operation.accepted true true)) := by
      apply JobView.le_setOperation
      intro existing hexisting
      rw [hfresh] at hexisting
      cases hexisting
    simp only [apply]
    split
    . exact haccepted.trans (JobView.le_setJob hjob)
    . exact haccepted
  | terminal operation result =>
    obtain ⟨existing, hexisting, _, _⟩ := hfresh
    have hcompleted : view.Le
        (view.setOperation operation.operationId { existing with terminal := some result }) := by
      apply JobView.le_setOperation
      intro existing' hexisting'
      rw [hexisting] at hexisting'
      cases hexisting'
      exact ⟨rfl, rfl, rfl, fun _ => rfl⟩
    simp only [apply, hexisting]
    split
    . exact hcompleted.trans (JobView.le_setJob hjob)
    . exact hcompleted
  | observed key request eventSeq kind payload => exact JobView.le_setJob hjob
  | ended key request eventSeq payload =>
    apply JobView.le_setJob
    intro job hsome
    exact ⟨(hjob job hsome).1, fun _ => rfl⟩

theorem fits_apply (hfits : view.Fits entry.request) (hfresh : entry.Fresh view) :
    (entry.apply view).Fits entry.request := by
  cases entry with
  | accepted operation details =>
    simp only [apply]
    split
    . exact JobView.Fits.setJob (JobView.Fits.setOperation hfits rfl) hfits.jobOrFresh
    . exact JobView.Fits.setOperation hfits rfl
  | terminal operation result =>
    obtain ⟨existing, hexisting, _, _⟩ := hfresh
    have hrequest : existing.request = operation.request := hfits.2 _ existing hexisting
    simp only [apply, hexisting]
    split
    . exact JobView.Fits.setJob (JobView.Fits.setOperation hfits hrequest) hfits.jobOrFresh
    . exact JobView.Fits.setOperation hfits hrequest
  | observed _ _ _ _ _ | ended _ _ _ _ => exact JobView.Fits.setJob hfits hfits.jobOrFresh

theorem ne_empty_of_done (h : entry.Done view) : view ≠ JobView.empty := by
  cases entry with
  | accepted operation details => exact JobView.ne_empty_of_operation h
  | terminal operation result =>
    obtain ⟨existing, hexisting, _⟩ := h
    apply JobView.ne_empty_of_operation
    rw [hexisting]
    apply Option.some_ne_none
  | observed key request eventSeq kind payload => exact JobView.ne_empty_of_job h
  | ended key request eventSeq payload =>
    obtain ⟨job, hjob, _⟩ := h
    apply JobView.ne_empty_of_job
    rw [hjob]
    apply Option.some_ne_none

theorem binds_apply (hfits : view.Fits entry.request) (hfresh : entry.Fresh view) :
    (entry.apply view).Binds (some entry.request) :=
  ⟨fits_apply hfits hfresh, ne_empty_of_done (done_apply hfresh)⟩

theorem started_apply (hstarted : view.Started) (hfresh : entry.Fresh view) :
    (entry.apply view).Started := by
  cases entry with
  | accepted operation details =>
    simp only [apply]
    split
    . apply JobView.started_setJob
    next hstart =>
      apply hstarted.setOperation
      intro hkind
      exact absurd (beq_iff_eq.mpr hkind) hstart
  | terminal operation result =>
    obtain ⟨existing, hexisting, _, _⟩ := hfresh
    simp only [apply, hexisting]
    split
    . apply JobView.started_setJob
    . apply hstarted.setOperation
      intro hkind
      exact hstarted _ existing hexisting hkind
  | observed _ _ _ _ _ | ended _ _ _ _ => apply JobView.started_setJob

end Entry

end JobRuntime
