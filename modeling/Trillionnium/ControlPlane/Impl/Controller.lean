import Trillionnium.ControlPlane.Impl.Audit
import Trillionnium.ControlPlane.Impl.Registry

/-!
The state of the controller: leases, observations, reservations and the shadow projection. A function
that changes the state before it can fail returns the state next to its result.
-/

namespace ControlPlane

open Json Text

def maxShadowObservationBytes : Nat := 64 * 1024 * 1024
def defaultMaxLeases : Nat := 4096
def defaultMaxObservations : Nat := 4096
def maxActiveAdmissionSlots : Nat := maxControllerIndexEntries

structure ControllerConfig where
  leaseTtlMs : Nat
  maxLeaseTtlMs : Nat
  defaultBudget : ResourceBudget
  deriving DecidableEq, Repr

def ControllerConfig.validate (config : ControllerConfig) : Result Unit :=
  if config.leaseTtlMs = 0
      ∨ config.maxLeaseTtlMs = 0
      ∨ config.leaseTtlMs > config.maxLeaseTtlMs then
    .error (.invalid "lease TTL configuration is invalid")
  else
    config.defaultBudget.validate

structure ControllerLimits where
  maxLeases : Nat
  maxObservations : Nat
  deriving DecidableEq, Repr

namespace ControllerLimits

def default : ControllerLimits := ⟨defaultMaxLeases, defaultMaxObservations⟩

def validate (limits : ControllerLimits) : Result Unit :=
  if limits.maxLeases = 0
      ∨ limits.maxObservations = 0
      ∨ limits.maxLeases > maxControllerIndexEntries
      ∨ limits.maxObservations > maxControllerIndexEntries then
    .error (.invalid
      s!"controller index limits must be between 1 and {maxControllerIndexEntries}")
  else
    .ok ()

end ControllerLimits

structure AdmissionDecision where
  allowed : Bool
  reason : String
  controlEpoch : Nat
  fencingToken : String
  deriving DecidableEq, Repr

structure ShadowRecommendationState where
  recommendedConcurrency : Nat
  lastChangeMs : Nat
  cooldownUntilMs : Nat
  safetyLatched : Bool
  deriving DecidableEq, Repr

structure ReservationRecord where
  leaseId : String
  controlEpoch : Nat
  slots : Nat
  deriving DecidableEq, Repr

abbrev ShadowHistory := BTreeMap ModuleInstanceKey ShadowRecommendationState

structure ControllerState where
  mode : ControlMode
  controlEpoch : Nat
  config : ControllerConfig
  shadowPolicy : ShadowPolicy
  shadowRecommendations : ShadowHistory
  nextLease : Nat
  outage : Bool
  limits : ControllerLimits
  leases : BTreeMap String Lease
  observations : BTreeMap ModuleInstanceKey ModuleObservation
  nextReservation : Nat
  reservedSlots : Nat
  reservations : BTreeMap Nat ReservationRecord
  leaseReservedSlots : BTreeMap String Nat

structure AdmissionReservation where
  reservationId : Nat
  leaseId : String
  controlEpoch : Nat
  slots : Nat
  lease : Lease
  decision : AdmissionDecision
  released : Bool
  deriving DecidableEq, Repr

namespace ControllerState

def fencingToken (state : ControllerState) : String := fencingTokenOf state.controlEpoch

def releaseReservation (state : ControllerState) (reservationId : Nat) : ControllerState :=
  match state.reservations[reservationId]? with
  | none => state
  | some record =>
    let leaseReservedSlots :=
      match state.leaseReservedSlots[record.leaseId]? with
      | none => state.leaseReservedSlots
      | some slots =>
        if slots - record.slots = 0 then
          state.leaseReservedSlots.erase record.leaseId
        else
          state.leaseReservedSlots.insert record.leaseId (slots - record.slots)
    { state with
      reservations := state.reservations.erase reservationId
      reservedSlots := state.reservedSlots - record.slots
      leaseReservedSlots }

def expiredLeases (state : ControllerState) (nowMs : Nat) : List String :=
  (state.leases.toList.filter (fun (_, lease) => lease.expiresAtMs ≤ nowMs)).map Prod.fst

def dropLeases (state : ControllerState) (expired : List String) : ControllerState :=
  let expiredIdentities := (state.observations.toList.filter
    (fun (_, observation) => observation.leaseId ∈ expired)).map
      (fun (_, observation) => observation.key)
  { state with
    leases := state.leases.filter (fun leaseId _ => leaseId ∉ expired)
    observations := state.observations.filter (fun _ observation => observation.leaseId ∉ expired)
    shadowRecommendations :=
      state.shadowRecommendations.filter (fun identity _ => identity ∉ expiredIdentities) }

def expiredReservations (state : ControllerState) (expired : List String) : List Nat :=
  (state.reservations.toList.filter (fun (_, reservation) => reservation.leaseId ∈ expired)).map
    Prod.fst

def pruneExpired (state : ControllerState) (nowMs : Nat) : ControllerState :=
  let expired := state.expiredLeases nowMs
  if expired.isEmpty then
    state
  else
    (state.expiredReservations expired).foldl releaseReservation (state.dropLeases expired)

def leaseIdOf (epoch number : Nat) : String := s!"lease-{epoch}-{number}"

def freshLease (state : ControllerState) (key : ModuleInstanceKey)
    (number nowMs expiresAtMs : Nat) : Lease where
  schema := leaseSchema
  controlEpoch := state.controlEpoch
  leaseId := leaseIdOf state.controlEpoch number
  moduleId := key.moduleId
  moduleInstanceId := key.moduleInstanceId
  partition := key.partition
  resourceBudget := state.config.defaultBudget
  maximumConcurrency := state.config.defaultBudget.maxConcurrency
  priorityClass := 0
  fencingToken := state.fencingToken
  issuedAtMs := nowMs
  expiresAtMs := expiresAtMs

def insertLease (state : ControllerState) (key : ModuleInstanceKey) (nowMs ttl : Nat) :
    Result Lease × ControllerState :=
  if state.leases.size ≥ state.limits.maxLeases then
    (.error .capacityExceeded, state)
  else
    match Checked.add state.nextLease 1 with
    | none => (.error (.invalid "lease sequence exhausted; rotate control epoch"), state)
    | some nextLease =>
      match Checked.add nowMs ttl with
      | none => (.error (.invalid "lease expiry overflows timestamp"), { state with nextLease })
      | some expiresAtMs =>
        let lease := state.freshLease key nextLease nowMs expiresAtMs
        match lease.validate nowMs state.controlEpoch state.fencingToken with
        | .error e => (.error e, { state with nextLease })
        | .ok () =>
          (.ok lease,
            { state with nextLease, leases := state.leases.insert lease.leaseId lease })

def checkLeaseRequest (state : ControllerState) (key : ModuleInstanceKey)
    (requestedTtlMs : Option Nat) : Result Nat := do
  rejectIf state.outage .authorityUnavailable
  requireNames (fun name => s!"{name} is invalid")
    [("module_id", key.moduleId), ("module_instance_id", key.moduleInstanceId),
      ("partition", key.partition)]
  let ttl := requestedTtlMs.getD state.config.leaseTtlMs
  rejectIf (ttl = 0 ∨ ttl > state.config.maxLeaseTtlMs)
    (.invalid "requested lease TTL exceeds bound")
  return ttl

def issueLease (state : ControllerState) (key : ModuleInstanceKey) (nowMs : Nat)
    (requestedTtlMs : Option Nat) : Result Lease × ControllerState :=
  match state.checkLeaseRequest key requestedTtlMs with
  | .error e => (.error e, state)
  | .ok ttl => (state.pruneExpired nowMs).insertLease key nowMs ttl

def observe (state : ControllerState) (observation : ModuleObservation)
    (registry : ModuleRegistryState) : Result ControllerState := do
  observation.validate
  match state.leases[observation.leaseId]? with
  | none => .error (.invalid "observation references unknown lease")
  | some lease =>
    rejectIf (lease.key ≠ observation.key) (.invalid "observation identity does not match lease")
    rejectIf (observation.controlEpoch ≠ state.controlEpoch) .epochMismatch
    registry.validateObservationBinding observation state.controlEpoch true
    validateObservationBudget observation lease
    rejectIf (observation.observedAtMs < lease.issuedAtMs
        ∨ observation.observedAtMs ≥ lease.expiresAtMs)
      .leaseExpired
    let inserted :=
      { state with observations := state.observations.insert observation.key observation }
    match state.observations[observation.key]? with
    | none =>
      if state.observations.size ≥ state.limits.maxObservations then
        .error .capacityExceeded
      else
        return inserted
    | some previous =>
      if observation.observedAtMs < previous.observedAtMs then
        .error (.invalid "observation timestamp regressed for module identity")
      else if observation.observedAtMs = previous.observedAtMs then
        if previous.beq observation then
          return state
        else
          .error (.invalid "observation timestamp collision for module identity")
      else
        return inserted

def rawRecommendation (policy : ShadowPolicy) (lease : Lease) (observation : ModuleObservation) :
    Nat :=
  if observation.healthScore.lt policy.healthGuardThreshold
      ∨ Double.zero.lt observation.unknownRate then
    1
  else if observation.queueDepth > lease.resourceBudget.maxQueue / 2 then
    max (min lease.maximumConcurrency lease.resourceBudget.maxConcurrency) 1
  else
    max (min lease.maximumConcurrency (min (lease.resourceBudget.maxConcurrency + 1) u32Max)) 1

def stabilise (policy : ShadowPolicy) (observation : ModuleObservation) (raw generatedAtMs : Nat) :
    Option ShadowRecommendationState → Nat × Bool
  | none =>
    (raw, observation.healthScore.lt policy.healthGuardThreshold
      || policy.rollbackUnknownRateThreshold.le observation.unknownRate)
  | some previous =>
    let safetyGuard := observation.healthScore.lt policy.healthGuardThreshold
      || policy.rollbackUnknownRateThreshold.le observation.unknownRate
    let recovered := policy.healthRecoverThreshold.le observation.healthScore
      && observation.unknownRate.lt policy.rollbackUnknownRateThreshold
    let holdUntil := max (min (previous.lastChangeMs + policy.minDwellMs) Checked.u64Max)
      previous.cooldownUntilMs
    if (safetyGuard ∧ previous.safetyLatched = false)
        ∨ (previous.safetyLatched ∧ recovered = false) then
      (1, true)
    else if generatedAtMs < previous.lastChangeMs ∨ generatedAtMs < holdUntil then
      (previous.recommendedConcurrency, previous.safetyLatched)
    else if raw > previous.recommendedConcurrency then
      (min (min (previous.recommendedConcurrency + policy.maxAdjustment) u32Max) raw, false)
    else
      (max (previous.recommendedConcurrency - policy.maxAdjustment) raw, false)

def reasonCode (policy : ShadowPolicy) (lease : Lease) (observation : ModuleObservation) : String :=
  if observation.healthScore.lt policy.healthGuardThreshold then
    "health_guard"
  else if Double.zero.lt observation.unknownRate then
    "unknown_guard"
  else if observation.queueDepth > lease.resourceBudget.maxQueue / 2 then
    "queue_pressure"
  else
    "steady_state"

def remember (policy : ShadowPolicy) (generatedAtMs recommended : Nat) (safetyLatched : Bool)
    (previous : Option ShadowRecommendationState) : ShadowRecommendationState :=
  let lastChangeMs :=
    match previous with
    | none => generatedAtMs
    | some prior =>
      if prior.recommendedConcurrency ≠ recommended ∨ prior.safetyLatched ≠ safetyLatched then
        generatedAtMs
      else
        prior.lastChangeMs
  { recommendedConcurrency := recommended
    lastChangeMs
    cooldownUntilMs := min (lastChangeMs + policy.cooldownMs) Checked.u64Max
    safetyLatched }

def project (state : ControllerState) (generatedAtMs : Nat) (registry : ModuleRegistryState)
    (history : ShadowHistory) (observation : ModuleObservation) :
    Result (BudgetRecommendation × ShadowRecommendationState) := do
  registry.validateObservationBinding observation state.controlEpoch true
  match state.leases[observation.leaseId]? with
  | none => .error (.invalid "observation references a lease that is no longer tracked")
  | some lease =>
    rejectIf (generatedAtMs < observation.observedAtMs)
      (.invalid "shadow decision timestamp precedes an observation")
    rejectIf (generatedAtMs ≥ lease.expiresAtMs) .leaseExpired
    let policy := state.shadowPolicy
    let maxConcurrency := max (min lease.maximumConcurrency lease.resourceBudget.maxConcurrency) 1
    let previous := history[observation.key]?
    let (recommended, safetyLatched) := stabilise policy observation
      (rawRecommendation policy lease observation) generatedAtMs previous
    let recommended := max (min recommended maxConcurrency) 1
    return ({
        moduleId := observation.moduleId
        moduleInstanceId := observation.moduleInstanceId
        partition := observation.partition
        recommendedConcurrency := recommended
        reasonCode := reasonCode policy lease observation
      }, remember policy generatedAtMs recommended safetyLatched previous)

def projectAll (state : ControllerState) (generatedAtMs : Nat) (registry : ModuleRegistryState)
    (updateHistory : Bool) (history : ShadowHistory) :
    List ModuleObservation → Result (List BudgetRecommendation) × ShadowHistory
  | [] => (.ok [], history)
  | observation :: rest =>
    match state.project generatedAtMs registry history observation with
    | .error e => (.error e, history)
    | .ok (recommendation, entry) =>
      let history := if updateHistory then history.insert observation.key entry else history
      let (recommendations, history) :=
        state.projectAll generatedAtMs registry updateHistory history rest
      (recommendations.map (recommendation :: ·), history)

variable (codec : FloatCodec)

def shadowDecision (state : ControllerState) (generatedAtMs : Nat) (registry : ModuleRegistryState)
    (updateHistory : Bool) : Result ShadowDecision × ControllerState :=
  let observations := state.observations.toList.map Prod.snd
  let observationBytes := write codec (.array (observations.map ModuleObservation.toValue))
  if observations.length > maxShadowRecommendations then
    (.error .capacityExceeded, state)
  else if observationBytes.length > maxShadowObservationBytes then
    (.error .capacityExceeded, state)
  else
    let (result, history) := state.projectAll generatedAtMs registry updateHistory
      state.shadowRecommendations observations
    let decision : Result ShadowDecision := do
      let recommendations ← result
      let decision : ShadowDecision := {
        schema := decisionSchema
        controlEpoch := state.controlEpoch
        generatedAtMs
        mode := state.mode
        observationsDigest := Sha256.hex observationBytes
        recommendations
        effectful := false
        semanticAuthority := "none"
        decisionDigest := ""
      }
      return { decision with decisionDigest := ← decision.computeDigest codec }
    (decision, { state with shadowRecommendations := history })

def validateAdmission (state : ControllerState) (lease : Lease) (nowMs requestedSlots : Nat)
    (newEffect : Bool) : Result AdmissionDecision := do
  lease.validate nowMs state.controlEpoch state.fencingToken
  match state.leases[lease.leaseId]? with
  | none => .error (.invalid "lease was not issued by this controller")
  | some issued =>
    rejectIf (issued ≠ lease) (.invalid "lease does not match the controller-issued record")
    rejectIf (requestedSlots = 0 ∨ requestedSlots > lease.maximumConcurrency) .capacityExceeded
    rejectIf (state.outage ∧ newEffect) .authorityUnavailable
    return {
      allowed := true
      reason :=
        if state.outage then
          "existing_lease_during_bounded_outage"
        else if state.mode = .observe then
          "observe_local_admission"
        else
          "shadow_local_admission"
      controlEpoch := state.controlEpoch
      fencingToken := lease.fencingToken
    }

def reserve (state : ControllerState) (lease : Lease) (requestedSlots : Nat)
    (decision : AdmissionDecision) : Result (AdmissionReservation × ControllerState) :=
  match Checked.add state.nextReservation 1 with
  | none => .error (.invalid "admission reservation sequence exhausted")
  | some next =>
    match Checked.add state.reservedSlots requestedSlots with
    | none => .error .capacityExceeded
    | some nextTotal =>
      if nextTotal > maxActiveAdmissionSlots then
        .error .capacityExceeded
      else
        match Checked.add (state.leaseReservedSlots[lease.leaseId]?.getD 0) requestedSlots with
        | none => .error .capacityExceeded
        | some nextLeaseReserved =>
          if nextLeaseReserved > lease.maximumConcurrency then
            .error .capacityExceeded
          else
            .ok ({
                reservationId := next
                leaseId := lease.leaseId
                controlEpoch := lease.controlEpoch
                slots := requestedSlots
                lease
                decision
                released := false
              },
              { state with
                nextReservation := next
                reservedSlots := nextTotal
                leaseReservedSlots :=
                  state.leaseReservedSlots.insert lease.leaseId nextLeaseReserved
                reservations := state.reservations.insert next
                  ⟨lease.leaseId, lease.controlEpoch, requestedSlots⟩ })

def rotateEpoch (state : ControllerState) (nextEpoch : Nat) : Result ControllerState :=
  if nextEpoch ≤ state.controlEpoch then
    .error .epochMismatch
  else
    .ok { state with
      controlEpoch := nextEpoch
      nextLease := 0
      leases := ∅
      observations := ∅
      shadowRecommendations := ∅
      reservedSlots := 0
      reservations := ∅
      leaseReservedSlots := ∅
      outage := false }

end ControllerState

end ControlPlane
