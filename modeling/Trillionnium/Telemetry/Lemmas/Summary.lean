import Trillionnium.Data.Except
import Trillionnium.Data.OrderStatistic
import Trillionnium.Telemetry.Impl.Summary

namespace Telemetry

open Except

variable {α : Type} [LinearOrder α] [Zero α] {f64 : F64 α} {samples : List (MetricSample α)}

theorem percentile_eq_ok {values : List α} (h : percentile f64 values quantile = .ok x) :
    (values.insertionSort (· ≤ ·))[min (⌈(values.length : ℚ) * quantile⌉₊ - 1)
      (values.length - 1)]? = some x := by
  unfold percentile at h
  split at h
  . cases h
  . simp only [error_ite_eq_ok] at h
    obtain ⟨_, _, h⟩ := h
    cases h
    simp

theorem percentile_le {f g : MetricSample α → α} (hle : ∀ sample ∈ samples, f sample ≤ g sample)
    (hq : q ≤ q') (ha : percentile f64 (samples.map f) q = .ok a)
    (hb : percentile f64 (samples.map g) q' = .ok b) : a ≤ b := by
  refine List.le_of_getElem?_insertionSort hle ?_ (percentile_eq_ok ha) (percentile_eq_ok hb)
  have hrank := Nat.ceil_mono (mul_le_mul_of_nonneg_left hq (Nat.cast_nonneg samples.length))
  simp only [List.length_map]
  omega

variable [One α]

theorem MetricSample.validate_eq_ok {sample : MetricSample α}
    (h : sample.validate f64 = .ok ()) :
    sample.latencyP50 ≤ sample.latencyP95 ∧ sample.latencyP95 ≤ sample.latencyP99
      ∧ sample.latencyP99 ≤ sample.latencyMax := by
  unfold validate at h
  simp only [error_ite_eq_ok] at h
  obtain ⟨_, _, _, _, h⟩ := h
  split at h
  . cases h
  . simp only [error_ite_eq_ok, not_or, not_lt] at h
    exact h.2.1

namespace WorkloadSummary

theorem validate_of_account (h : samples.foldlM (account f64 total) [] = .ok repetitions) :
    ∀ sample ∈ samples, sample.validate f64 = .ok () := by
  intro sample hmem
  by_contra hinvalid
  have hfails : ∀ repetitions, ∃ e, account f64 total repetitions sample = .error e := by
    intro repetitions
    unfold account
    cases hvalidate : sample.validate f64 with
    | error e => exact ⟨e, rfl⟩
    | ok _ => exact absurd hvalidate hinvalid
  obtain ⟨e, he⟩ := foldlM_error hmem hfails []
  rw [h] at he
  cases he

theorem latencies_ordered {summary : WorkloadSummary α}
    (h : fromSamples f64 name samples dropped = .ok summary) :
    summary.latencyP50 ≤ summary.latencyP95 ∧ summary.latencyP95 ≤ summary.latencyP99
      ∧ summary.latencyP99 ≤ summary.latencyMax := by
  unfold fromSamples at h
  simp only [error_ite_eq_ok, bind_eq_ok, pure_eq_ok, ok.injEq] at h
  obtain ⟨_, _, _, _, _, _, _, _, haccount, _, _, _, _, hp50, _, hp95, p99, hp99, h⟩ := h
  obtain ⟨_, _, _, _, _, _, _, _, _, _, _, _, _, _, rfl⟩ := h
  have hvalid : ∀ sample ∈ samples, _ := fun sample hmem =>
    MetricSample.validate_eq_ok (validate_of_account haccount sample hmem)
  refine ⟨?_, ?_, ?_⟩
  . exact percentile_le (fun sample hmem => (hvalid sample hmem).1) (by norm_num) hp50 hp95
  . exact percentile_le (fun sample hmem => (hvalid sample hmem).2.1) (by norm_num) hp95 hp99
  . have hmem := (List.mem_insertionSort _).mp (List.mem_of_getElem? (percentile_eq_ok hp99))
    obtain ⟨sample, hmem, hsample⟩ := List.mem_map.mp hmem
    calc p99
      _ = sample.latencyP99 := hsample.symm
      _ ≤ sample.latencyMax := (hvalid sample hmem).2.2
      _ ≤ (samples.map (·.latencyMax)).foldl max 0 := by
        rw [List.foldl_eq_foldr]
        exact List.le_max_of_le' 0 (List.mem_map_of_mem hmem) le_rfl

theorem latencies_ordered_sample :
    let f64 : F64 Nat := ⟨fun _ => true, (· + ·), (· / ·)⟩
    let metrics : Metrics Nat := ⟨40, 3, 7, 9, 11, 1, 0, 0, 1, 1, 1, 1, 1, 1, 1, 0, 0, 0, 1⟩
    let first : MetricSample Nat := ⟨metrics, metricSampleSchema, "WL-01", 0⟩
    let second := { first with repetition := 1, latencyP50 := 5, latencyP99 := 7 }
    ∃ summary, fromSamples f64 "WL-01" [first, second] 0 = .ok summary
      ∧ summary.latencyP50 ≤ summary.latencyP95 := by
  intro f64 metrics first second
  have hok : (fromSamples f64 "WL-01" [first, second] 0).toOption.isSome := by decide +kernel
  obtain ⟨summary, h⟩ := Option.isSome_iff_exists.mp hok
  have h := toOption_eq_some.mp h
  exact ⟨summary, h, (latencies_ordered h).1⟩

end WorkloadSummary

end Telemetry
