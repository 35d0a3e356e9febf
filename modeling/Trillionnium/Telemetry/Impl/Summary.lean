import Trillionnium.Data.Checked

/-! Summaries of benchmark samples, whose `f64` values are elements of a linear order. -/

namespace Telemetry

inductive TelemetryError where
  | invalid (message : String)
  deriving DecidableEq, Repr

abbrev Result := Except TelemetryError

def metricSampleSchema : String := "trillionnium.owner-open.metric-sample.v1"

def requiredWorkloads : List String :=
  ["WL-01", "WL-02", "WL-03", "WL-04", "WL-05", "WL-06", "WL-07", "WL-08", "WL-09", "WL-10",
    "WL-11", "WL-12"]

def maxWorkloadSamples : Nat := 1048576

def maxBaselineRepetitions : Nat := 1048576

def maxDroppedSamples : Nat := 1048576

def u32Max : Nat := 2 ^ 32 - 1

structure F64 (α : Type) where
  isFinite : α → Bool
  add : α → α → α
  div : α → Nat → α

structure Metrics (α : Type) where
  throughput : α
  (latencyP50 latencyP95 latencyP99 latencyMax : α)
  (queueWait lockWait lockHold cpu : α)
  (rss fdCount threadCount processCount ioBytes fsyncCount : Nat)
  (recoveryTime unknownRate : α)
  redispatchCount : Nat
  fairness : α

structure MetricSample (α : Type) extends Metrics α where
  schema : String
  workloadId : String
  repetition : Nat

structure WorkloadSummary (α : Type) extends Metrics α where
  workloadId : String
  sampleCount : Nat
  droppedSamples : Nat

variable {α : Type} [LinearOrder α] [Zero α] [One α] (f64 : F64 α)

def F64.isMeasure (value : α) : Bool := f64.isFinite value && decide (0 ≤ value)

namespace MetricSample

def floatFields (sample : MetricSample α) : List (String × α) :=
  [("throughput", sample.throughput), ("latency_p50", sample.latencyP50),
    ("latency_p95", sample.latencyP95), ("latency_p99", sample.latencyP99),
    ("latency_max", sample.latencyMax), ("queue_wait", sample.queueWait),
    ("lock_wait", sample.lockWait), ("lock_hold", sample.lockHold), ("cpu", sample.cpu),
    ("recovery_time", sample.recoveryTime), ("unknown_rate", sample.unknownRate),
    ("fairness", sample.fairness)]

def validate (sample : MetricSample α) : Result Unit :=
  if sample.schema ≠ metricSampleSchema then
    .error (.invalid "metric sample schema mismatch")
  else if sample.workloadId ∉ requiredWorkloads then
    .error (.invalid s!"unknown workload profile {sample.workloadId}")
  else if sample.workloadId.toList.any (128 ≤ ·.val) ∨ sample.workloadId.utf8ByteSize ≠ 5 then
    .error (.invalid "workload id is malformed")
  else if maxBaselineRepetitions ≤ sample.repetition then
    .error (.invalid "metric repetition exceeds hard bound")
  else
    match sample.floatFields.find? fun field => !f64.isMeasure field.2 with
    | some (name, _) => .error (.invalid s!"metric {name} must be finite and nonnegative")
    | none =>
      if 1 < sample.fairness ∨ 1 < sample.unknownRate then
        .error (.invalid "fairness and unknown_rate must be in [0,1]")
      else if sample.latencyP95 < sample.latencyP50 ∨ sample.latencyP99 < sample.latencyP95
          ∨ sample.latencyMax < sample.latencyP99 then
        .error (.invalid "latency measurements must be monotonic (p50 <= p95 <= p99 <= max)")
      else
        .ok ()

end MetricSample

def percentile (values : List α) (quantile : ℚ) : Result α :=
  if h : values = [] ∨ quantile < 0 ∨ 1 < quantile then
    .error (.invalid "percentile requires nonempty finite values and q in [0,1]")
  else if maxWorkloadSamples < values.length then
    .error (.invalid "percentile input exceeds hard bound")
  else if values.any fun value => !f64.isMeasure value then
    .error (.invalid "percentile values must be finite and nonnegative")
  else
    let ordered := values.insertionSort (· ≤ ·)
    let rank := ⌈(ordered.length : ℚ) * quantile⌉₊
    have hindex : min (rank - 1) (ordered.length - 1) < ordered.length := by
      have hpos := List.length_pos_iff.mpr (not_or.mp h).1
      rw [List.length_insertionSort]
      omega
    .ok ordered[min (rank - 1) (ordered.length - 1)]

namespace WorkloadSummary

/-- One turn of the loop over the samples, with the set of repetitions as its ascending list. -/
def account (total : Nat) (repetitions : List Nat) (sample : MetricSample α) :
    Result (List Nat) := do
  sample.validate f64
  if total ≤ sample.repetition then
    .error (.invalid "workload summary repetition is outside accounted sample set")
  else if sample.repetition ∈ repetitions then
    .error (.invalid "workload summary contains duplicate repetitions")
  else
    .ok (repetitions.orderedInsert (· ≤ ·) sample.repetition)

def mean (samples : List (MetricSample α)) (value : MetricSample α → α) : Result α := do
  let total ← samples.foldlM (fun total sample =>
    let total := f64.add total (value sample)
    if f64.isFinite total then .ok total
    else .error (.invalid "workload summary metric sum is not finite")) 0
  let mean := f64.div total samples.length
  if f64.isFinite mean then .ok mean
  else .error (.invalid "workload summary metric mean is not finite")

def maxU64 (samples : List (MetricSample α)) (value : MetricSample α → Nat) : Nat :=
  (samples.map value).max?.getD 0

def redispatches (samples : List (MetricSample α)) : Result Nat :=
  samples.foldlM (fun total sample =>
    match Checked.add total sample.redispatchCount with
    | some total => .ok total
    | none => .error (.invalid "workload redispatch count overflow")) 0

def fromSamples (workloadId : String) (samples : List (MetricSample α)) (droppedSamples : Nat) :
    Result (WorkloadSummary α) :=
  if samples.isEmpty then
    .error (.invalid s!"workload {workloadId} has no samples")
  else if maxWorkloadSamples < samples.length then
    .error (.invalid s!"workload {workloadId} has more than {maxWorkloadSamples} samples")
  else if maxDroppedSamples < droppedSamples then
    .error (.invalid "workload summary dropped sample count exceeds hard bound")
  else if samples.any fun sample => sample.workloadId != workloadId then
    .error (.invalid "workload summary received mixed profile rows")
  else if u32Max < samples.length then
    .error (.invalid "workload summary has too many samples")
  else if u32Max < droppedSamples ∨ u32Max < samples.length + droppedSamples then
    .error (.invalid "workload summary sample accounting overflows")
  else if samples.length + droppedSamples = 0
      ∨ maxBaselineRepetitions < samples.length + droppedSamples then
    .error (.invalid "workload summary sample accounting exceeds hard bound")
  else do
    let repetitions ← samples.foldlM (account f64 (samples.length + droppedSamples)) []
    if droppedSamples = 0 ∧ repetitions.zipIdx.any fun (repetition, index) => repetition != index then
      .error (.invalid "workload summary repetitions are not an exact ordinal set")
    else
      return {
        workloadId, sampleCount := samples.length, droppedSamples
        throughput := ← mean f64 samples (·.throughput)
        latencyP50 := ← percentile f64 (samples.map (·.latencyP50)) (50 / 100)
        latencyP95 := ← percentile f64 (samples.map (·.latencyP95)) (95 / 100)
        latencyP99 := ← percentile f64 (samples.map (·.latencyP99)) (99 / 100)
        latencyMax := (samples.map (·.latencyMax)).foldl max 0
        queueWait := ← mean f64 samples (·.queueWait)
        lockWait := ← mean f64 samples (·.lockWait)
        lockHold := ← mean f64 samples (·.lockHold)
        cpu := ← mean f64 samples (·.cpu)
        rss := maxU64 samples (·.rss)
        fdCount := maxU64 samples (·.fdCount)
        threadCount := maxU64 samples (·.threadCount)
        processCount := maxU64 samples (·.processCount)
        ioBytes := maxU64 samples (·.ioBytes)
        fsyncCount := maxU64 samples (·.fsyncCount)
        recoveryTime := (samples.map (·.recoveryTime)).foldl max 0
        unknownRate := ← mean f64 samples (·.unknownRate)
        redispatchCount := ← redispatches samples
        fairness := ← mean f64 samples (·.fairness) }

end WorkloadSummary

end Telemetry
