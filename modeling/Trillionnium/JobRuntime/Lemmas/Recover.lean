import Trillionnium.JobRuntime.Lemmas.Envelope
import Trillionnium.JobRuntime.Lemmas.View

namespace JobRuntime

open EventStore Json JobRegistry Except

namespace Recovering

def view (recovering : Recovering) (key : JobKey) : JobView :=
  .ofMaps recovering.operations recovering.jobs key

theorem view_setJob (recovering : Recovering) (key key' : JobKey) (job : JobState) :
    (recovering.setJob key job).view key'
      =
    if key' = key then (recovering.view key').setJob job else recovering.view key' := by
  apply JobView.ofMaps_insertJob

theorem view_setOperation (recovering : Recovering) (key key' : JobKey) (id : String)
    (operation : OperationState) :
    (recovering.setOperation ⟨key, id⟩ operation).view key'
      =
    if key' = key then (recovering.view key').setOperation id operation
    else recovering.view key' := by
  apply JobView.ofMaps_insertOperation

def put (recovering : Recovering) : Entry → Recovering
  | .accepted operation _ =>
    let accepted := recovering.setOperation operation.operationKey (operation.accepted true true)
    if operation.isStart then
      accepted.setJob operation.key (recovering.jobOrFresh operation.key operation.request)
    else
      accepted
  | .terminal operation result =>
    match recovering.operations.lookup operation.operationKey with
    | none => recovering
    | some existing =>
      let completed :=
        recovering.setOperation operation.operationKey { existing with terminal := some result }
      if operation.isStart then
        let job := recovering.jobOrFresh operation.key operation.request
        completed.setJob operation.key { job with startResult := some result }
      else
        completed
  | .observed key request _ _ _ => recovering.setJob key (recovering.jobOrFresh key request)
  | .ended key request _ payload =>
    recovering.setJob key { recovering.jobOrFresh key request with terminal := some payload }

theorem requests_put (recovering : Recovering) (entry : Entry) :
    (recovering.put entry).requests = recovering.requests := by
  cases entry with
  | accepted operation details =>
    simp only [put]
    split <;> rfl
  | terminal operation result =>
    simp only [put]
    split
    . rfl
    . split <;> rfl
  | observed _ _ _ _ _ | ended _ _ _ _ => rfl

theorem view_put (recovering : Recovering) (entry : Entry) (key : JobKey) :
    (recovering.put entry).view key
      =
    if key = entry.key then entry.apply (recovering.view key) else recovering.view key := by
  by_cases h : key = entry.key
  . rw [if_pos h]
    subst h
    cases entry with
    | accepted operation details =>
      simp only [put, Entry.apply, Entry.key]
      split
      . rw [view_setJob, if_pos rfl, Operation.operationKey, view_setOperation, if_pos rfl]
        rfl
      . rw [Operation.operationKey, view_setOperation, if_pos rfl]
    | terminal operation result =>
      have hlookup : (recovering.view operation.key).operations operation.operationId
          = recovering.operations.lookup operation.operationKey := rfl
      simp only [put, Entry.apply, Entry.key, hlookup]
      cases recovering.operations.lookup operation.operationKey with
      | none => rfl
      | some existing =>
        dsimp only
        split
        . rw [view_setJob, if_pos rfl, Operation.operationKey, view_setOperation, if_pos rfl]
          rfl
        . rw [Operation.operationKey, view_setOperation, if_pos rfl]
    | observed _ _ _ _ _ | ended _ _ _ _ =>
      simp only [put, Entry.apply, Entry.key]
      rw [view_setJob, if_pos rfl]
      rfl
  . rw [if_neg h]
    cases entry with
    | accepted operation details =>
      change ¬ key = operation.key at h
      simp only [put]
      split
      . rw [view_setJob, if_neg h, Operation.operationKey, view_setOperation, if_neg h]
      . rw [Operation.operationKey, view_setOperation, if_neg h]
    | terminal operation result =>
      change ¬ key = operation.key at h
      simp only [put]
      split
      . rfl
      . split
        . rw [view_setJob, if_neg h, Operation.operationKey, view_setOperation, if_neg h]
        . rw [Operation.operationKey, view_setOperation, if_neg h]
    | observed key' _ _ _ _ | ended key' _ _ _ =>
      change ¬ key = key' at h
      rw [put, view_setJob, if_neg h]

variable {recovering recovering' : Recovering} {entry : Entry} {key : JobKey}

theorem dispatch_entry :
    recovering.dispatch entry.key entry.envelope = .ok recovering'
      ↔ entry.Fresh (recovering.view entry.key) ∧ recovering' = recovering.put entry := by
  cases entry with
  | accepted operation details =>
    change recovering.acceptOperation operation = _ ↔ _
    have hfresh : (Entry.accepted operation details).Fresh (recovering.view operation.key)
        ↔ recovering.operations.lookup operation.operationKey = none := Iff.rfl
    rw [Entry.key, hfresh, acceptOperation, put]
    cases recovering.operations.lookup operation.operationKey with
    | some existing => simp
    | none =>
      simp only [true_and]
      split
      . rw [Except.ok.injEq, eq_comm]
      . rw [Except.ok.injEq, eq_comm]
  | terminal operation result =>
    change recovering.completeOperation operation result = _ ↔ _
    have hfresh : (Entry.terminal operation result).Fresh (recovering.view operation.key)
        ↔ ∃ existing, recovering.operations.lookup operation.operationKey = some existing
          ∧ operation.Matches existing ∧ existing.terminal = none := Iff.rfl
    rw [Entry.key, hfresh, completeOperation, put]
    cases recovering.operations.lookup operation.operationKey with
    | none => simp
    | some existing =>
      simp only [Option.some.injEq, exists_eq_left']
      by_cases hconflict : operation.Matches existing ∧ existing.terminal = none
      . rw [if_neg (by simp [hconflict]), and_iff_right hconflict]
        split
        . rw [Except.ok.injEq, eq_comm]
        . rw [Except.ok.injEq, eq_comm]
      . rw [if_pos]
        . simp [hconflict]
        . rw [Option.isSome_iff_ne_none]
          exact not_and_or.mp hconflict
  | observed key request eventSeq kind payload =>
    change Except.ok _ = _ ↔ _
    rw [Except.ok.injEq, eq_comm]
    simp only [Entry.Fresh, true_and]
    rfl
  | ended key request eventSeq payload =>
    change (if (recovering.jobOrFresh key request).terminal.isSome then Except.error _
      else Except.ok (recovering.put (.ended key request eventSeq payload))) = _ ↔ _
    have hfresh : (Entry.ended key request eventSeq payload).Fresh (recovering.view key)
        ↔ (recovering.jobOrFresh key request).terminal = none := by
      change (recovering.jobs.lookup key).bind JobState.terminal = none ↔ _
      unfold jobOrFresh
      cases recovering.jobs.lookup key with
      | none => simp [JobState.fresh]
      | some job => rfl
    rw [Entry.key, hfresh]
    split
    next hsome =>
      rw [Option.isSome_iff_ne_none] at hsome
      simp [hsome]
    next hnone =>
      rw [Option.not_isSome_iff_eq_none] at hnone
      rw [and_iff_right hnone, Except.ok.injEq, eq_comm]

structure Enters (recovering : Recovering) (entry : Entry) (recovering' : Recovering) : Prop where
  compatible : recovering.requests.lookup entry.key = none
    ∨ recovering.requests.lookup entry.key = some entry.request
  fresh : entry.Fresh (recovering.view entry.key)
  request : recovering'.requests.lookup entry.key = some entry.request
  view : recovering'.view entry.key = entry.apply (recovering.view entry.key)
  requests : ∀ key, key ≠ entry.key
    → recovering'.requests.lookup key = recovering.requests.lookup key
  others : ∀ key, key ≠ entry.key → recovering'.view key = recovering.view key

theorem bindRequest_eq_ok {request : JobRequest}
    (h : recovering.bindRequest key request = .ok recovering') :
    (recovering.requests.lookup key = none ∨ recovering.requests.lookup key = some request)
      ∧ recovering'.requests.lookup key = some request
      ∧ (∀ key', key' ≠ key → recovering'.requests.lookup key' = recovering.requests.lookup key')
      ∧ recovering'.view = recovering.view := by
  unfold bindRequest at h
  split at h
  next existing hexisting =>
    split at h
    . cases h
    next heq =>
      cases h
      rw [not_not.mp heq] at hexisting
      exact ⟨.inr hexisting, hexisting, fun _ _ => rfl, rfl⟩
  next hnone =>
    cases h
    exact ⟨.inl hnone, AList.lookup_insert _, fun _ hne => AList.lookup_insert_ne hne, rfl⟩

theorem exists_bindRequest {request : JobRequest}
    (h : recovering.requests.lookup key = none ∨ recovering.requests.lookup key = some request) :
    ∃ recovering', recovering.bindRequest key request = .ok recovering' := by
  unfold bindRequest
  cases h with
  | inl h =>
    rw [h]
    exact ⟨_, rfl⟩
  | inr h =>
    rw [h]
    exact ⟨recovering, if_neg (not_not.mpr rfl)⟩

theorem request_envelope (entry : Entry) : entry.envelope.request = entry.request := by
  cases entry <;> rfl

theorem enters_of_enter (h : recovering.enter entry.key entry.envelope = .ok recovering') :
    recovering.Enters entry recovering' := by
  obtain ⟨bound, hbound, hdispatch⟩ := bind_eq_ok.mp h
  rw [request_envelope] at hbound
  obtain ⟨hcompatible, hrequest, hrequests, hview⟩ := bindRequest_eq_ok hbound
  obtain ⟨hfresh, rfl⟩ := dispatch_entry.mp hdispatch
  constructor
  case compatible => exact hcompatible
  case fresh =>
    rw [← hview]
    exact hfresh
  case request =>
    rw [requests_put]
    exact hrequest
  case view => rw [view_put, if_pos rfl, hview]
  case requests =>
    intro key hne
    rw [requests_put]
    exact hrequests key hne
  case others =>
    intro key hne
    rw [view_put, if_neg hne, hview]

theorem exists_enter
    (hcompatible : recovering.requests.lookup entry.key = none ∨ recovering.requests.lookup entry.key = some entry.request)
    (hfresh : entry.Fresh (recovering.view entry.key)) :
    ∃ recovering', recovering.enter entry.key entry.envelope = .ok recovering' := by
  obtain ⟨bound, hbound⟩ := exists_bindRequest hcompatible
  obtain ⟨_, _, _, hview⟩ := bindRequest_eq_ok hbound
  refine ⟨bound.put entry, ?_⟩
  unfold enter
  rw [request_envelope, hbound]
  apply dispatch_entry.mpr
  rw [hview]
  exact ⟨hfresh, rfl⟩

theorem operationOf_eq_ok {envelope : JournalEnvelope}
    (h : operationOf role key envelope = .ok operation) :
    operation.key = key ∧ operation.request = envelope.request := by
  unfold operationOf at h
  obtain ⟨operationId, _, h⟩ := bind_eq_ok.mp h
  obtain ⟨operationKind, _, h⟩ := bind_eq_ok.mp h
  obtain ⟨operationSha256, _, h⟩ := bind_eq_ok.mp h
  cases h
  exact ⟨rfl, rfl⟩

theorem exists_entry_of_enter {envelope : JournalEnvelope}
    (h : recovering.enter key envelope = .ok recovering') :
    ∃ entry : Entry, entry.key = key
      ∧ recovering.enter entry.key entry.envelope = .ok recovering' := by
  obtain ⟨bound, hbound, hdispatch⟩ := bind_eq_ok.mp h
  have henter : ∀ entry : Entry, entry.key = key → entry.request = envelope.request
      → bound.dispatch entry.key entry.envelope = .ok recovering'
      → recovering.enter entry.key entry.envelope = .ok recovering' := by
    intro entry hkey hrequest hentry
    unfold enter
    rw [request_envelope, hkey, hrequest, hbound]
    rw [hkey] at hentry
    exact hentry
  unfold dispatch at hdispatch
  split at hdispatch
  . obtain ⟨operation, hoperation, haccept⟩ := bind_eq_ok.mp hdispatch
    obtain ⟨hkey, hrequest⟩ := operationOf_eq_ok hoperation
    exact ⟨.accepted operation envelope.payload, hkey, henter _ hkey hrequest haccept⟩
  . obtain ⟨operation, hoperation, hcomplete⟩ := bind_eq_ok.mp hdispatch
    obtain ⟨hkey, hrequest⟩ := operationOf_eq_ok hoperation
    exact ⟨.terminal operation envelope.payload, hkey, henter _ hkey hrequest hcomplete⟩
  . exact ⟨.observed key envelope.request 0 "" envelope.payload, rfl, henter _ rfl rfl hdispatch⟩
  . exact ⟨.ended key envelope.request 0 envelope.payload, rfl, henter _ rfl rfl hdispatch⟩
  . cases hdispatch

theorem record_entry {event : EventInput} (hscope : event.scope = turnScope entry.key)
    (hpayload : event.payload = entry.envelope.toDocument) :
    recovering.record event = recovering.enter entry.key entry.envelope := by
  have hschema : entry.envelope.schema = jobJournalSchema := by
    cases entry <;> rfl
  have hjob : jobKeyOf (turnScope entry.key) entry.envelope.jobId = entry.key := by
    cases entry <;> rfl
  unfold record
  rw [hpayload, JournalEnvelope.ofDocument_toDocument]
  simp only [Except.mapError, ok_bind]
  rw [if_neg (not_not.mpr hschema), hscope, hjob, if_neg (not_not.mpr rfl)]

theorem exists_entry_of_record (h : recovering.record event = .ok recovering') :
    ∃ entry, recovering.Enters entry recovering' := by
  obtain ⟨envelope, _, h⟩ := bind_eq_ok.mp h
  split at h
  . cases h
  . dsimp only at h
    split at h
    . cases h
    . obtain ⟨entry, _, henter⟩ := exists_entry_of_enter h
      exact ⟨entry, enters_of_enter henter⟩

structure Bound (recovering : Recovering) : Prop where
  binds : ∀ key, (recovering.view key).Binds (recovering.requests.lookup key)
  started : ∀ key, (recovering.view key).Started
  bare : ∀ key, (recovering.view key).bare = recovering.view key

structure Le (recovering recovering' : Recovering) : Prop where
  view : ∀ key, (recovering.view key).Le (recovering'.view key)
  request : ∀ key request, recovering.requests.lookup key = some request
    → recovering'.requests.lookup key = some request

theorem bound_empty : empty.Bound where
  binds := fun _ => rfl
  started := by
    intro key id operation h
    cases h
  bare := fun _ => rfl

section

variable (h : recovering.Enters entry recovering') (hbound : recovering.Bound)
include h hbound

theorem Enters.fits : (recovering.view entry.key).Fits entry.request := by
  have hbinds := hbound.binds entry.key
  cases h.compatible with
  | inl hnone =>
    rw [hnone] at hbinds
    rw [show recovering.view entry.key = JobView.empty from hbinds]
    apply JobView.fits_empty
  | inr hsome =>
    rw [hsome] at hbinds
    exact hbinds.1

theorem Enters.bound : recovering'.Bound := by
  constructor
  . intro key
    by_cases hkey : key = entry.key
    . rw [hkey, h.request, h.view]
      exact Entry.binds_apply (h.fits hbound) h.fresh
    . rw [h.requests key hkey, h.others key hkey]
      apply hbound.binds
  . intro key
    by_cases hkey : key = entry.key
    . rw [hkey, h.view]
      exact Entry.started_apply (hbound.started _) h.fresh
    . rw [h.others key hkey]
      apply hbound.started
  . intro key
    by_cases hkey : key = entry.key
    . rw [hkey, h.view, ← Entry.apply_bare, hbound.bare]
    . rw [h.others key hkey]
      apply hbound.bare

theorem Enters.le : recovering.Le recovering' := by
  constructor
  . intro key
    by_cases hkey : key = entry.key
    . rw [hkey, h.view]
      exact Entry.le_apply (h.fits hbound) h.fresh
    . rw [h.others key hkey]
      apply JobView.Le.refl
  . intro key request hrequest
    by_cases hkey : key = entry.key
    . rw [hkey] at hrequest ⊢
      rw [h.request]
      cases h.compatible with
      | inl hnone =>
        rw [hnone] at hrequest
        cases hrequest
      | inr hsome => rw [← hsome, hrequest]
    . rw [h.requests key hkey]
      exact hrequest

end

theorem exists_record (hbound : recovering.Bound)
    (hallowed : entry.Allowed (recovering.view entry.key)) :
    ∃ recovering', recovering.record (entry.input codec) = .ok recovering'
      ∧ recovering.Enters entry recovering' := by
  have hcompatible := (hbound.binds entry.key).eq_none_or hallowed.fits
  obtain ⟨recovering', henter⟩ := exists_enter hcompatible hallowed.fresh
  refine ⟨recovering', ?_, enters_of_enter henter⟩
  rw [record_entry (entry.input_scope codec) (entry.input_payload codec)]
  exact henter

theorem foldlM_record {log : EventLog} (hbound : recovering.Bound)
    (h : log.foldlM record recovering = .ok recovering') :
    recovering'.Bound ∧ recovering.Le recovering' := by
  induction log generalizing recovering with
  | nil =>
    cases h
    exact ⟨hbound, fun _ => JobView.Le.refl _, fun _ _ h => h⟩
  | cons event log ih =>
    rw [List.foldlM_cons] at h
    obtain ⟨next, hnext, hrest⟩ := bind_eq_ok.mp h
    obtain ⟨entry, henters⟩ := exists_entry_of_record hnext
    obtain ⟨hbound', hle⟩ := ih (henters.bound hbound) hrest
    have hstep := henters.le hbound
    exact ⟨hbound', fun key => (hstep.view key).trans (hle.view key),
      fun key request hrequest => hle.request key request (hstep.request key request hrequest)⟩

end Recovering

variable {log : EventLog} {recovering : Recovering}

theorem recover_bound (h : recover log = .ok recovering) : recovering.Bound :=
  (Recovering.foldlM_record Recovering.bound_empty h).1

theorem recover_append :
    recover (log ++ rest) = .ok recovering
      ↔ ∃ first, recover log = .ok first ∧ rest.foldlM Recovering.record first = .ok recovering := by
  unfold recover
  rw [List.foldlM_append]
  exact bind_eq_ok

theorem exists_recover_of_append (h : recover (log ++ rest) = .ok recovering) :
    ∃ first, recover log = .ok first ∧ first.Le recovering := by
  obtain ⟨first, hfirst, hrest⟩ := recover_append.mp h
  exact ⟨first, hfirst, (Recovering.foldlM_record (recover_bound hfirst) hrest).2⟩

theorem exists_recover_of_isPrefix (h : recover log' = .ok recovering) (hgrows : log <+: log') :
    ∃ first, recover log = .ok first ∧ first.Le recovering := by
  obtain ⟨rest, rfl⟩ := hgrows
  exact exists_recover_of_append h

theorem done_of_mem {entry : Entry} (h : recover log = .ok recovering) (hmem : event ∈ log)
    (hscope : event.scope = turnScope entry.key)
    (hpayload : event.payload = entry.envelope.toDocument) :
    entry.Done (recovering.view entry.key) := by
  obtain ⟨front, back, rfl⟩ := List.append_of_mem hmem
  obtain ⟨first, hfirst, hrest⟩ := recover_append.mp h
  rw [List.foldlM_cons] at hrest
  obtain ⟨next, hnext, hback⟩ := bind_eq_ok.mp hrest
  rw [Recovering.record_entry hscope hpayload] at hnext
  have henters := Recovering.enters_of_enter hnext
  have hbound := henters.bound (recover_bound hfirst)
  apply Entry.done_of_le _ ((Recovering.foldlM_record hbound hback).2.view entry.key)
  rw [henters.view]
  exact Entry.done_apply henters.fresh

theorem exists_recover_append {entry : Entry} (h : recover log = .ok recovering)
    (hallowed : entry.Allowed (recovering.view entry.key)) {answer : StoreAnswer} :
    ∃ recovering', recover (log.append (entry.input codec) answer).2 = .ok recovering'
      ∧ (∀ key, key ≠ entry.key → recovering'.view key = recovering.view key)
      ∧ ((log.append (entry.input codec) answer).1 = .ok ()
        → recovering'.view entry.key = entry.apply (recovering.view entry.key)) := by
  rcases EventLog.append_cases log (entry.input codec) answer with
    ⟨event, hmem, hscope, hbeq, hlog⟩ | ⟨⟨e, herror⟩, hlog⟩ | hlog
  . refine ⟨recovering, by rw [hlog, h], fun _ _ => rfl, ?_⟩
    intro _
    rw [entry.input_scope] at hscope
    rw [entry.input_payload] at hbeq
    obtain ⟨payload, hpayload⟩ := JournalEnvelope.eq_toDocument_of_beq hbeq
    rw [← entry.envelope_withPayload] at hpayload
    rw [← entry.key_withPayload payload] at hscope
    have hdone := done_of_mem h hmem hscope hpayload
    rw [entry.key_withPayload, Entry.done_withPayload] at hdone
    exact (Entry.apply_eq_self_of_done hallowed.fresh hdone).symm
  . refine ⟨recovering, by rw [hlog, h], fun _ _ => rfl, ?_⟩
    intro hok
    rw [herror] at hok
    cases hok
  . obtain ⟨recovering', hrecord, henters⟩ :=
      Recovering.exists_record (recover_bound h) hallowed
    refine ⟨recovering', ?_, henters.others, fun _ => henters.view⟩
    rw [hlog]
    apply recover_append.mpr
    refine ⟨recovering, h, ?_⟩
    rw [List.foldlM_cons, hrecord]
    rfl

end JobRuntime
