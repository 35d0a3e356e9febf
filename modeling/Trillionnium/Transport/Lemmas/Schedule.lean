import Trillionnium.Transport.Impl.Schedule

namespace Transport

open Machine List

theorem isCoreMessage_eq : isCoreMessage message = !isClientMessage message := by
  cases message <;> rfl

def ofSide (core : Bool) (messages : List TransportMessage) : List TransportMessage :=
  messages.filter (isCoreMessage · == core)

theorem ofSide_append : ofSide core (xs ++ ys) = ofSide core xs ++ ofSide core ys := by
  apply filter_append

def IsFirst (pending : List TransportMessage) (message : TransportMessage)
    (rest : List TransportMessage) : Prop :=
  ∃ xs ys, pending = xs ++ message :: ys ∧ rest = xs ++ ys
    ∧ ∀ x ∈ xs, isCoreMessage x ≠ isCoreMessage message

theorem IsFirst.ofSide_eq (h : IsFirst pending message rest) (core : Bool) :
    ofSide core pending = ofSide core [message] ++ ofSide core rest := by
  obtain ⟨xs, ys, rfl, rfl, hxs⟩ := h
  rw [← singleton_append, ofSide_append, ofSide_append, ofSide_append]
  by_cases hcore : isCoreMessage message = core
  . have hnone : ofSide core xs = [] := by
      apply filter_eq_nil_iff.mpr
      intro x hx
      simpa [← hcore] using hxs x hx
    rw [hnone]
    rfl
  . have hnone : ofSide core [message] = [] := by
      simp [ofSide, hcore]
    rw [hnone]
    rfl

theorem IsFirst.length_eq (h : IsFirst pending message rest) :
    pending.length = rest.length + 1 := by
  obtain ⟨xs, ys, rfl, rfl, _⟩ := h
  simp
  omega

theorem findIdx?_of_terminalIndex (h : terminalIndex pending = some index) :
    pending.findIdx? isCoreMessage = some index := by
  induction pending generalizing index with
  | nil => exact absurd h (by simp [terminalIndex])
  | cons message pending ih =>
    rw [findIdx?_cons]
    unfold terminalIndex at h
    split at h
    next heq => cases heq
    next => cases h
    next heq =>
      injection heq with hmessage hpending
      subst hmessage hpending
      split at h
      next hcore =>
        rw [if_pos hcore]
        exact h
      next hcore =>
        rw [if_neg hcore]
        obtain ⟨rest, hrest, rfl⟩ := Option.map_eq_some_iff.mp h
        rw [ih hrest]
        rfl

namespace Scheduler

variable {s : Scheduler}

def waiting (s : Scheduler) : List TransportMessage := s.pending ++ s.channel

structure Bounded (s : Scheduler) : Prop where
  pending : s.pending.length ≤ transportQueueDepth
  streak : s.clientPriorityStreak ≤ maxClientPriorityBurst

structure Selected (s : Scheduler) (prioritizeClient : Bool) (message : TransportMessage)
    (t : Scheduler) : Prop where
  first : IsFirst s.pending message t.pending
  channel : t.channel = s.channel
  streak_le : s.clientPriorityStreak ≤ maxClientPriorityBurst
    → t.clientPriorityStreak ≤ maxClientPriorityBurst
  streak_eq : isClientMessage message → t.pending.any isCoreMessage
    → t.clientPriorityStreak = s.clientPriorityStreak + prioritizeClient.toNat

theorem remove_of_findIdx? {p : TransportMessage → Bool}
    (hp : ∀ x y, p x ≠ p y → isCoreMessage x ≠ isCoreMessage y)
    (h : s.pending.findIdx? p = some index) (streak : Nat) :
    ∃ message t, s.remove index streak = some (message, t) ∧ p message
      ∧ IsFirst s.pending message t.pending ∧ t.channel = s.channel
      ∧ t.clientPriorityStreak = streak := by
  obtain ⟨hlt, hfound, hbefore⟩ := findIdx?_eq_some_iff_getElem.mp h
  unfold remove
  rw [getElem?_eq_getElem hlt]
  refine ⟨_, _, rfl, hfound, ?_, rfl, rfl⟩
  refine ⟨s.pending.take index, s.pending.drop (index + 1), ?_,
    eraseIdx_eq_take_drop_succ .., ?_⟩
  . rw [getElem_cons_drop, take_append_drop]
  . intro x hx
    obtain ⟨j, hj, rfl⟩ := mem_take_iff_getElem.mp hx
    apply hp
    have := hbefore j (by omega)
    simp_all

theorem popFront_selected (s : Scheduler) (h : s.pending ≠ []) :
    ∃ message t, s.popFront = some (message, t) ∧ s.Selected false message t := by
  unfold popFront
  cases hpending : s.pending with
  | nil => exact absurd hpending h
  | cons message pending =>
    refine ⟨_, _, rfl, ⟨[], pending, by simp [hpending], rfl, by simp⟩, rfl, ?_, ?_⟩
    . intro hs
      dsimp only
      split
      next => exact Nat.zero_le _
      next => exact hs
    . intro hclient _
      simp [isCoreMessage_eq, hclient]

theorem select_core (hindex : s.pending.findIdx? isCoreMessage = some index) :
    ∃ message t, s.remove index 0 = some (message, t) ∧ s.Selected b message t := by
  obtain ⟨message, t, hremove, hcore, hfirst, hchannel, hstreak⟩ :=
    remove_of_findIdx? (fun _ _ h => h) hindex 0
  refine ⟨message, t, hremove, hfirst, hchannel, ?_, ?_⟩
  . intro _
    rw [hstreak]
    exact Nat.zero_le _
  . intro hclient _
    rw [isCoreMessage_eq, hclient] at hcore
    cases hcore

theorem select_client (hindex : s.pending.findIdx? isClientMessage = some index)
    (hle : s.clientPriorityStreak ≤ maxClientPriorityBurst → streak ≤ maxClientPriorityBurst)
    (hstreak : s.pending.any isCoreMessage → streak = s.clientPriorityStreak + 1) :
    ∃ message t, s.remove index streak = some (message, t) ∧ s.Selected true message t := by
  obtain ⟨message, t, hremove, hclient, hfirst, hchannel, rfl⟩ :=
    remove_of_findIdx? (by simp [isCoreMessage_eq]) hindex streak
  refine ⟨message, t, hremove, hfirst, hchannel, hle, ?_⟩
  intro _ hcore
  apply hstreak
  obtain ⟨xs, ys, hpending, hrest, _⟩ := hfirst
  rw [hrest, any_append] at hcore
  rw [hpending, any_append, any_cons]
  grind

theorem select_selected (s : Scheduler) (prioritizeClient : Bool) (h : s.pending ≠ []) :
    ∃ message t, s.select prioritizeClient = some (message, t)
      ∧ s.Selected prioritizeClient message t := by
  unfold select
  split
  next index hterminal =>
    apply select_core (findIdx?_of_terminalIndex hterminal)
  next =>
    cases prioritizeClient with
    | false => exact popFront_selected s h
    | true =>
      rw [if_pos rfl]
      split
      next index hclient hcore =>
        apply select_client hclient (fun _ => Nat.zero_le _)
        intro hany
        obtain ⟨message, hmessage, hany⟩ := any_eq_true.mp hany
        rw [findIdx?_eq_none_iff.mp hcore message hmessage] at hany
        cases hany
      next index coreIndex hclient hcore =>
        split
        next hlt => exact select_client hclient (fun _ => hlt) (fun _ => rfl)
        next => exact select_core hcore
      next coreIndex hclient hcore => exact select_core hcore
      next hclient hcore =>
        -- Every message is of one of the two sides.
        obtain ⟨message, hmessage⟩ := exists_mem_of_ne_nil _ h
        rw [findIdx?_eq_none_iff] at hclient hcore
        have hother := hcore message hmessage
        rw [isCoreMessage_eq, hclient message hmessage] at hother
        cases hother

theorem collect_spec (s : Scheduler) (channel : List TransportMessage) :
    (s.collect channel).waiting = s.pending ++ channel
      ∧ (s.collect channel).clientPriorityStreak = s.clientPriorityStreak
      ∧ s.pending.length ≤ (s.collect channel).pending.length
      ∧ (s.pending.length ≤ transportQueueDepth
        → (s.collect channel).pending.length ≤ transportQueueDepth) := by
  induction channel generalizing s with
  | nil => exact ⟨rfl, rfl, Nat.le_refl _, id⟩
  | cons message channel ih =>
    unfold collect
    split
    next hlt =>
      obtain ⟨hwaiting, hstreak, hlength, hdepth⟩ :=
        ih { s with pending := s.pending ++ [message] }
      rw [length_append] at hlength hdepth
      refine ⟨?_, hstreak, Nat.le_of_add_right_le hlength, fun _ => hdepth hlt⟩
      rw [hwaiting, append_assoc]
      rfl
    next => exact ⟨rfl, rfl, Nat.le_refl _, id⟩

theorem receive_spec (s : Scheduler) :
    (s.receive = none ∧ s.waiting = [])
      ∨ ∃ t, s.receive = some t ∧ t.waiting = s.waiting ∧ t.pending ≠ []
        ∧ t.clientPriorityStreak = s.clientPriorityStreak ∧ (s.Bounded → t.Bounded) := by
  have hcollect {s' : Scheduler} {channel} (hstreak : s'.clientPriorityStreak
      = s.clientPriorityStreak) (hwaiting : s'.pending ++ channel = s.waiting)
      (hpending : 0 < s'.pending.length)
      (hdepth : s.Bounded → s'.pending.length ≤ transportQueueDepth) :
      (s'.collect channel).waiting = s.waiting ∧ (s'.collect channel).pending ≠ []
        ∧ (s'.collect channel).clientPriorityStreak = s.clientPriorityStreak
        ∧ (s.Bounded → (s'.collect channel).Bounded) := by
    obtain ⟨h, hkept, hlength, hbound⟩ := collect_spec s' channel
    refine ⟨h.trans hwaiting, ne_nil_of_length_pos (by omega), hkept.trans hstreak, ?_⟩
    intro hs
    exact ⟨hbound (hdepth hs), by rw [hkept, hstreak]; exact hs.streak⟩
  unfold receive
  split
  next hpending hchannel => exact .inl ⟨rfl, by rw [waiting, hpending, hchannel]; rfl⟩
  next message channel hpending hchannel =>
    refine .inr ⟨_, rfl, hcollect rfl ?_ Nat.one_pos (fun _ => by simp [transportQueueDepth])⟩
    rw [waiting, hpending, hchannel]
    rfl
  next hnil hcons =>
    refine .inr ⟨_, rfl, hcollect rfl rfl ?_ Bounded.pending⟩
    apply length_pos_of_ne_nil
    intro hpending
    cases hchannel : s.channel with
    | nil => exact hnil hpending hchannel
    | cons message channel => exact hcons message channel hpending hchannel

structure Answered (s : Scheduler) (prioritizeClient : Bool) (message : TransportMessage)
    (t : Scheduler) : Prop where
  waiting : IsFirst s.waiting message t.waiting
  bounded : s.Bounded → t.Bounded
  streak : isClientMessage message → t.pending.any isCoreMessage
    → t.clientPriorityStreak = s.clientPriorityStreak + prioritizeClient.toNat

theorem step_next {s : Scheduler} {prioritizeClient : Bool} :
    (step s (.next prioritizeClient) = (s, none) ∧ s.waiting = [])
      ∨ ∃ message t, step s (.next prioritizeClient) = (t, some message)
        ∧ s.Answered prioritizeClient message t := by
  simp only [step, nextTransportMessage]
  obtain ⟨hnone, hwaiting⟩ | ⟨r, hr, hwaiting, hpending, hstreak, hbounded⟩ := receive_spec s
  . rw [hnone]
    exact .inl ⟨rfl, hwaiting⟩
  . rw [hr]
    obtain ⟨message, t, hselect, h⟩ := select_selected r prioritizeClient hpending
    refine .inr ⟨message, t, by simp [hselect], ?_, ?_, ?_⟩
    . obtain ⟨xs, ys, hxs, hys, hfirst⟩ := h.first
      rw [← hwaiting]
      refine ⟨xs, ys ++ r.channel, ?_, ?_, hfirst⟩
      . simp [Scheduler.waiting, hxs]
      . simp [Scheduler.waiting, hys, h.channel]
    . intro hs
      have hr := hbounded hs
      have hlength := h.first.length_eq
      exact ⟨Nat.le_trans (by omega) hr.pending, h.streak_le hr.streak⟩
    . rw [← hstreak]
      exact h.streak_eq

def arrival : Op → Option TransportMessage
  | .arrive message => some message
  | .next _ => none

def arrived (ops : List Op) : List TransportMessage := ops.filterMap arrival

def returned (ops : List Op) : List TransportMessage := (trace step start ops).filterMap Prod.snd

theorem step_ofSide {s : Scheduler} :
    ofSide core (step s op).2.toList ++ ofSide core (step s op).1.waiting
      = ofSide core s.waiting ++ ofSide core (arrival op).toList := by
  cases op with
  | arrive message =>
    rw [← ofSide_append, ← ofSide_append]
    simp [step, waiting, arrival]
  | next prioritizeClient =>
    obtain ⟨hnone, _⟩ | ⟨message, t, hsome, h⟩ := step_next
    . rw [hnone]
      simp [ofSide, arrival]
    . rw [hsome, h.waiting.ofSide_eq]
      simp [ofSide, arrival]

theorem trace_ofSide (s : Scheduler) (ops : List Op) (core : Bool) :
    ofSide core ((trace step s ops).filterMap Prod.snd) ++ ofSide core (run step s ops).waiting
      = ofSide core s.waiting ++ ofSide core (arrived ops) := by
  induction ops generalizing s with
  | nil => simp [trace, run, arrived, ofSide]
  | cons op ops ih =>
    have hhead : ∀ {α β : Type} (f : α → Option β) x xs,
        filterMap f (x :: xs) = (f x).toList ++ xs.filterMap f := by
      intro α β f x xs
      cases h : f x with
      | none => rw [filterMap_cons_none h]; rfl
      | some y => rw [filterMap_cons_some h]; rfl
    unfold trace arrived
    rw [hhead, hhead, ofSide_append, ofSide_append, append_assoc]
    have hrest := ih (step s op).1
    calc
      _ = ofSide core (step s op).2.toList ++ (ofSide core (step s op).1.waiting
          ++ ofSide core (arrived ops)) := by rw [← hrest]; rfl
      _ = _ := by rw [← append_assoc, step_ofSide, append_assoc]; rfl

theorem step_bounded (s : Scheduler) (op : Op) (hs : s.Bounded) : (step s op).1.Bounded := by
  cases op with
  | arrive message => exact ⟨hs.pending, hs.streak⟩
  | next prioritizeClient =>
    obtain ⟨hnone, _⟩ | ⟨message, t, hsome, h⟩ := step_next
    . rw [hnone]
      exact hs
    . rw [hsome]
      exact h.bounded hs

theorem before_bounded (ops : List Op) (i : Nat) : (before step start ops i).Bounded := by
  apply before_invariant _ step_bounded
  exact ⟨Nat.zero_le _, Nat.zero_le _⟩

theorem length_waiting_next {s : Scheduler} :
    (step s (.next prioritizeClient)).1.waiting.length = s.waiting.length - 1 := by
  obtain ⟨hnone, hwaiting⟩ | ⟨message, t, hsome, h⟩ := step_next
  . rw [hnone, hwaiting]
    rfl
  . rw [hsome, h.waiting.length_eq]
    rfl

theorem waiting_drained (s : Scheduler) (flags : List Bool)
    (h : s.waiting.length ≤ flags.length) : (run step s (flags.map .next)).waiting = [] := by
  induction flags generalizing s with
  | nil => exact length_eq_zero_iff.mp (Nat.le_zero.mp h)
  | cons flag flags ih =>
    apply ih
    rw [length_waiting_next]
    exact Nat.sub_le_of_le_add h

def prioritizes : Op → Bool
  | .next prioritizeClient => prioritizeClient
  | .arrive _ => false

-- The core message that waits is still in the queue when the call has returned.
def BypassesCore (ops : List Op) (k : Nat) : Prop :=
  ∀ prioritizeClient, ops[k]? = some (.next prioritizeClient)
    → ∃ message, At step start ops k (.next prioritizeClient) (some message)
      ∧ isClientMessage message ∧ (before step start ops (k + 1)).pending.any isCoreMessage

theorem streak_bypass (hij : i ≤ j) (h : ∀ k, i ≤ k → k < j → BypassesCore ops k) :
    (before step start ops j).clientPriorityStreak + (ops.take i).countP prioritizes
      = (before step start ops i).clientPriorityStreak + (ops.take j).countP prioritizes := by
  induction hij with
  | refl => rfl
  | @step j hij ih =>
    have hprev := ih (fun k hik hkj => h k hik (Nat.lt_succ_of_lt hkj))
    rw [take_add_one, countP_append]
    cases hop : ops[j]? with
    | none =>
      rw [before_succ_of_none hop]
      exact hprev
    | some op =>
      cases op with
      | arrive message =>
        rw [before_succ hop]
        exact hprev
      | next prioritizeClient =>
        obtain ⟨message, ⟨_, hout⟩, hclient, hcore⟩ :=
          h j hij (Nat.lt_succ_self j) prioritizeClient hop
        rw [before_succ hop] at hcore ⊢
        obtain ⟨hnone, _⟩ | ⟨message', t, hsome, hspec⟩ :=
          step_next
        . rw [hnone] at hout
          cases hout
        . rw [hsome] at hout hcore ⊢
          cases hout
          have hstreak := hspec.streak hclient hcore
          cases prioritizeClient with
          | false | true =>
            simp [prioritizes] at hstreak ⊢
            omega

theorem nextTransportMessage_fair (ops : List Op) :
    (∀ core, ofSide core (returned ops) ++ ofSide core (run step start ops).waiting
      = ofSide core (arrived ops))
    ∧ (∀ flags : List Bool, (run step start ops).waiting.length ≤ flags.length
      → ∀ core, ofSide core (returned (ops ++ flags.map .next)) = ofSide core (arrived ops))
    ∧ (∀ i, (before step start ops i).pending.length ≤ transportQueueDepth)
    ∧ ∀ i j, i ≤ j → (∀ k, i ≤ k → k < j → BypassesCore ops k)
      → (ops.take j).countP prioritizes
        ≤ (ops.take i).countP prioritizes + maxClientPriorityBurst := by
  refine ⟨fun core => trace_ofSide start ops core, ?_, fun i => (before_bounded ops i).pending, ?_⟩
  . intro flags hflags core
    have h := trace_ofSide start (ops ++ flags.map .next) core
    have hrun : run step start (ops ++ flags.map .next)
        = run step (run step start ops) (flags.map .next) := foldl_append
    have harrived : arrived (ops ++ flags.map .next) = arrived ops := by
      unfold arrived
      rw [filterMap_append, filterMap_map]
      simp [Function.comp_def, arrival]
    rw [hrun, waiting_drained _ flags hflags, harrived] at h
    exact (append_nil _).symm.trans h
  . intro i j hij h
    have hstreak := streak_bypass hij h
    have hbound := (before_bounded ops j).streak
    omega

end Scheduler

end Transport
