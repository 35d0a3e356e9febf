import Trillionnium.TurnLoop.Impl.Turn

/-!
The events that a turn retains: its acceptance, and a tail of the events that were pushed after it.
-/

namespace TurnLoop

open Concurrent

namespace Retention

variable {α : Type}

def total (retention : Retention α) (events : List α) : Nat :=
  (events.map fun event => (retention.weight event).getD 0).sum

variable {retention : Retention α} {first : α}

theorem total_le_of_suffix {kept rest : List α} (h : kept <:+ rest) :
    retention.total (first :: kept) ≤ retention.total (first :: rest) := by
  obtain ⟨evicted, rfl⟩ := h
  simp only [total, List.map_cons, List.map_append, List.sum_cons, List.sum_append]
  omega

section

variable (hweight : ∀ event, ∃ weight ≤ retention.maxBytes, retention.weight event = some weight)
  (hfirst : retention.isProtected first = true)
include hweight hfirst

theorem makeRoom_eq (incoming : Nat) (rest : List α) :
    ∃ kept, kept <:+ rest
      ∧ retention.makeRoom incoming (first :: rest) (retention.total (first :: rest))
        = (first :: kept, retention.total (first :: kept)) := by
  induction rest with
  | nil =>
    refine ⟨[], List.suffix_refl _, ?_⟩
    unfold makeRoom
    split
    . rfl
    . rfl
  | cons second rest ih =>
    obtain ⟨kept, hkept, ih⟩ := ih
    unfold makeRoom
    split
    . exact ⟨_, List.suffix_refl _, rfl⟩
    . obtain ⟨weight, _, hsecond⟩ := hweight second
      have htotal : retention.total (first :: second :: rest)
          = weight + retention.total (first :: rest) := by
        simp only [total, List.map_cons, List.sum_cons, hsecond, Option.getD_some]
        omega
      have hevict : retention.evict second (retention.total (first :: second :: rest))
          = some (retention.total (first :: rest)) := by
        unfold evict
        rw [hsecond, htotal]
        simp
      simp only [hevict]
      exact ⟨kept, hkept.trans (List.suffix_cons _ _), ih⟩

theorem retain_eq {rest : List α} (event : α)
    (hlength : (first :: rest).length ≤ retention.maxEvents)
    (hbytes : retention.total (first :: rest) ≤ retention.maxBytes) :
    ∃ kept added, kept <:+ rest ∧ (added = [] ∨ added = [event])
      ∧ retention.retain ⟨first :: rest, retention.total (first :: rest)⟩ event
        = ⟨first :: kept ++ added, retention.total (first :: kept ++ added)⟩
      ∧ (first :: kept ++ added).length ≤ retention.maxEvents
      ∧ retention.total (first :: kept ++ added) ≤ retention.maxBytes := by
  obtain ⟨incoming, hincoming, hevent⟩ := hweight event
  obtain ⟨kept, hkept, hroom⟩ := makeRoom_eq hweight hfirst incoming rest
  refine ⟨kept, ?_⟩
  unfold retain
  simp only [hevent, hroom]
  rw [if_neg (by omega)]
  split
  next hfits =>
    have htotal : retention.total (first :: kept ++ [event])
        = retention.total (first :: kept) + incoming := by
      simp only [total, List.map_append, List.sum_append, List.map_singleton, hevent]
      rfl
    refine ⟨[event], hkept, .inr rfl, ?_, ?_, ?_⟩
    . rw [htotal]
    . rw [List.length_append]
      exact hfits.1
    . obtain ⟨_, hsum⟩ := hfits
      unfold fits at hsum
      rw [htotal]
      cases hadd : Checked.add (retention.total (first :: kept)) incoming with
      | none => simp [hadd] at hsum
      | some sum =>
        rw [hadd, (Checked.add_eq_some.mp hadd).1] at hsum
        simpa using hsum
  . refine ⟨[], hkept, .inl rfl, ?_, ?_, ?_⟩
    . rw [List.append_nil]
    . rw [List.append_nil]
      exact (Nat.succ_le_succ hkept.length_le).trans hlength
    . rw [List.append_nil]
      exact (total_le_of_suffix hkept).trans hbytes

end

end Retention

inductive Pushed (weights : Weights) : TurnState → Prop where
  | accepted {trace : Prog.Trace Act Act.Res}
      (h : (pushEvent weights .turnAccepted .start).Runs trace (result, state)) :
    Pushed weights state
  | pushed {trace : Prog.Trace Act Act.Res} (hpushed : Pushed weights state)
      (h : (pushEvent weights kind state).Runs trace (result, state')) : Pushed weights state'

def acceptance : TurnEvent := ⟨0, .turnAccepted⟩

structure Holds (weights : Weights) (state : TurnState) (tail : List TurnEvent) : Prop where
  retained : state.retained = ⟨acceptance :: tail, weights.turnEvents.total (acceptance :: tail)⟩
  bytes : weights.turnEvents.total (acceptance :: tail) ≤ maxRetainedTurnEventBytes
  length : (acceptance :: tail).length ≤ maxRetainedTurnEvents
  seqs : ((acceptance :: tail).map TurnEvent.seq).Pairwise (· < ·)
  fresh : ∀ event ∈ acceptance :: tail, event.seq < state.nextSeq

variable {weights : Weights} {state : TurnState} {trace : Prog.Trace Act Act.Res}

theorem pushEvent_runs (h : (pushEvent weights kind state).Runs trace (result, state')) :
    (state.nextSeq ≠ 0 ∧ state' = state)
      ∨ state' = ⟨weights.turnEvents.retain state.retained ⟨state.nextSeq, kind⟩,
        state.nextSeq + 1⟩ := by
  have hkeeps : Monitor.free.Keeps () (pushEvent weights kind state) (fun pushed _ =>
      (state.nextSeq ≠ 0 ∧ pushed.2 = state) ∨ pushed.2
        = ⟨weights.turnEvents.retain state.retained ⟨state.nextSeq, kind⟩, state.nextSeq + 1⟩) := by
    unfold pushEvent
    split
    next hnext =>
      refine .inl ⟨?_, rfl⟩
      intro hzero
      rw [hzero] at hnext
      cases hnext
    next nextSeq hnext =>
      rw [Monitor.keeps_perform_bind, (Checked.add_eq_some.mp hnext).1]
      refine ⟨trivial, ?_⟩
      intro r
      cases r with
      | ok _ | error _ => exact .inr rfl
  exact hkeeps.runs h

section

variable (hweights : ∀ event, ∃ weight ≤ maxRetainedTurnEventBytes, weights.turn event = some weight)
include hweights

theorem Holds.push (h : Holds weights state tail)
    (hruns : (pushEvent weights kind state).Runs trace (result, state')) :
    ∃ kept added, kept <:+ tail ∧ (added = [] ∨ added = [⟨state.nextSeq, kind⟩])
      ∧ Holds weights state' (kept ++ added) := by
  obtain ⟨_, rfl⟩ | rfl := pushEvent_runs hruns
  . exact ⟨tail, [], List.suffix_refl _, .inl rfl, by rwa [List.append_nil]⟩
  . obtain ⟨kept, added, hkept, hadded, hretain, hlength, hbytes⟩ :=
      Retention.retain_eq hweights (show weights.turnEvents.isProtected acceptance = true from rfl)
        ⟨state.nextSeq, kind⟩ h.length h.bytes
    have hsublist := hkept.sublist.cons_cons acceptance
    have hfresh : ∀ event ∈ acceptance :: kept, event.seq < state.nextSeq :=
      fun event hmem => h.fresh event (hsublist.subset hmem)
    have hseq : ∀ event ∈ added, event.seq = state.nextSeq := by
      obtain rfl | rfl := hadded <;> simp
    have hseqs : (added.map TurnEvent.seq).Pairwise (· < ·) := by
      obtain rfl | rfl := hadded <;> simp
    refine ⟨kept, added, hkept, hadded, ?_, hbytes, hlength, ?_, ?_⟩
    . rw [h.retained]
      exact hretain
    . rw [← List.cons_append, List.map_append, List.pairwise_append]
      refine ⟨h.seqs.sublist (hsublist.map _), hseqs, ?_⟩
      intro seq hmem seq' hmem'
      obtain ⟨event, hevent, rfl⟩ := List.mem_map.mp hmem
      obtain ⟨event', hevent', rfl⟩ := List.mem_map.mp hmem'
      rw [hseq event' hevent']
      exact hfresh event hevent
    . intro event hmem
      rw [← List.cons_append] at hmem
      apply Nat.lt_succ_of_le
      cases List.mem_append.mp hmem with
      | inl hmem => exact (hfresh event hmem).le
      | inr hmem => exact (hseq event hmem).le

theorem Pushed.holds (h : Pushed weights state) : ∃ tail, Holds weights state tail := by
  induction h with
  | accepted h =>
    obtain ⟨hne, _⟩ | rfl := pushEvent_runs h
    . exact absurd rfl hne
    . obtain ⟨weight, hle, hweight⟩ := hweights acceptance
      have htotal : weights.turnEvents.total [acceptance] = weight := by
        simp [Retention.total, Weights.turnEvents, hweight]
      have hadd : Checked.add 0 weight = some weight := by
        rw [Checked.add_eq_some]
        unfold maxRetainedTurnEventBytes at hle
        unfold Checked.u64Max
        omega
      refine ⟨[], ?_, by rwa [htotal], by decide, by simp, by simp [acceptance]⟩
      rw [htotal]
      change weights.turnEvents.retain ⟨[], 0⟩ acceptance = _
      simp [Retention.retain, Retention.makeRoom, Retention.fits, Weights.turnEvents, hweight, hadd,
        not_lt.mpr hle, hle, maxRetainedTurnEvents]
  | pushed _ h ih =>
    obtain ⟨tail, hheld⟩ := ih
    obtain ⟨kept, added, _, _, hheld'⟩ := hheld.push hweights h
    exact ⟨_, hheld'⟩

end

end TurnLoop
