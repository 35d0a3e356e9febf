import Trillionnium.Data.List
import Trillionnium.ControlPlane.Lemmas.Accounting
import Trillionnium.Json.Lemmas.Text

/-!
No call takes an epoch or a number of the system back, and the live reservation of a token belongs to
the current epoch.
-/

namespace ControlPlane

open Json Machine

namespace ControllerState

structure Follows (state state' : ControllerState) : Prop where
  epoch : state'.controlEpoch = state.controlEpoch
  nextLease : state.nextLease ≤ state'.nextLease
  nextReservation : state.nextReservation ≤ state'.nextReservation
  reservations : ∀ (id : Nat) (record : ReservationRecord), id ≤ state.nextReservation
    → state'.reservations[id]? = some record → state.reservations[id]? = some record

theorem Follows.refl (state : ControllerState) : state.Follows state := by
  refine ⟨rfl, Nat.le_refl _, Nat.le_refl _, ?_⟩
  intro id record _ h
  exact h

theorem Follows.trans {a : ControllerState} (h : a.Follows b) (h' : b.Follows c) : a.Follows c := by
  refine ⟨h'.epoch.trans h.epoch, h.nextLease.trans h'.nextLease,
    h.nextReservation.trans h'.nextReservation, ?_⟩
  intro id record hle hget
  apply h.reservations id record hle
  exact h'.reservations id record (hle.trans h.nextReservation) hget

variable {state : ControllerState}

theorem follows_releaseReservation (state : ControllerState) (id : Nat) :
    state.Follows (state.releaseReservation id) := by
  have hreservations := state.reservations_releaseReservation id
  obtain ⟨_, _, _, heq⟩ := state.releaseReservation_frame id
  rw [heq] at hreservations ⊢
  refine ⟨rfl, Nat.le_refl _, Nat.le_refl _, ?_⟩
  intro id' record _ hget
  rw [hreservations, Std.ExtTreeMap.getElem?_erase] at hget
  split at hget
  . cases hget
  . exact hget

theorem follows_pruneExpired (state : ControllerState) (nowMs : Nat) :
    state.Follows (state.pruneExpired nowMs) := by
  unfold pruneExpired
  dsimp only
  split
  . apply Follows.refl
  . generalize state.expiredReservations (state.expiredLeases nowMs) = ids
    have hdrop : state.Follows (state.dropLeases (state.expiredLeases nowMs)) := by
      refine ⟨rfl, Nat.le_refl _, Nat.le_refl _, ?_⟩
      intro id record _ hget
      exact hget
    apply hdrop.trans
    generalize state.dropLeases (state.expiredLeases nowMs) = dropped
    induction ids generalizing dropped with
    | nil => apply Follows.refl
    | cons id ids ih =>
      apply (dropped.follows_releaseReservation id).trans
      apply ih

theorem follows_reserved {state : ControllerState} {slots : Nat} :
    state.Follows (state.reserved lease slots) := by
  refine ⟨rfl, Nat.le_refl _, Nat.le_succ _, ?_⟩
  intro id record hle hget
  unfold reserved at hget
  rw [BTreeMap.getElem?_insert_of_ne _ _ (by omega)] at hget
  exact hget

theorem Move.follows (h : state.Move state') : state.Follows state' := by
  cases h with
  | bookkeeping _ _ _ =>
    exact ⟨rfl, Nat.le_refl _, Nat.le_refl _, fun _ _ _ hget => hget⟩
  | pruned nowMs => apply follows_pruneExpired
  | numbered | issued _ _ _ => exact ⟨rfl, Nat.le_succ _, Nat.le_refl _, fun _ _ _ hget => hget⟩
  | reserved _ _ _ => apply follows_reserved
  | released reservationId => apply follows_releaseReservation

theorem Moves.follows (h : state.Moves state') : state.Follows state' := by
  induction h with
  | refl => apply Follows.refl
  | tail _ hmove ih => exact ih.trans hmove.follows

end ControllerState

namespace System

open ControllerState

def TokensKept (tokens tokens' : List AdmissionReservation) : Prop :=
  ∀ (index : Nat) (token : AdmissionReservation), tokens[index]? = some token
    → ∃ token', tokens'[index]? = some token'
      ∧ token'.reservationId = token.reservationId ∧ token'.controlEpoch = token.controlEpoch

theorem TokensKept.refl (tokens : List AdmissionReservation) : TokensKept tokens tokens := by
  intro index token hget
  exact ⟨token, hget, rfl, rfl⟩

theorem tokensKept_set {tokens : List AdmissionReservation} {index : Nat}
    {token : AdmissionReservation} (hget : tokens[index]? = some token) :
    TokensKept tokens (tokens.set index { token with released := true }) := by
  intro index' token' hget'
  rw [List.getElem?_set]
  split
  next heq =>
    subst heq
    rw [hget] at hget'
    cases hget'
    rw [if_pos (List.getElem?_eq_some_iff.mp hget).1]
    exact ⟨_, rfl, rfl, rfl⟩
  . exact ⟨token', hget', rfl, rfl⟩

theorem tokensKept_append (tokens more : List AdmissionReservation) :
    TokensKept tokens (tokens ++ more) := by
  intro index token hget
  refine ⟨token, ?_, rfl, rfl⟩
  rw [List.getElem?_append_left (List.getElem?_eq_some_iff.mp hget).1]
  exact hget

structure Grows (system system' : System) : Prop where
  control : system.state.controlEpoch ≤ system'.state.controlEpoch
  registry : system.registry.currentEpoch ≤ system'.registry.currentEpoch
  audit : system.audit.currentEpoch ≤ system'.audit.currentEpoch
  nextLease : system'.state.controlEpoch = system.state.controlEpoch
    → system.state.nextLease ≤ system'.state.nextLease
  nextReservation : system.state.nextReservation ≤ system'.state.nextReservation
  tokens : TokensKept system.tokens system'.tokens

theorem Grows.refl (system : System) : system.Grows system := by
  exact ⟨Nat.le_refl _, Nat.le_refl _, Nat.le_refl _, fun _ => Nat.le_refl _, Nat.le_refl _,
    TokensKept.refl _⟩

theorem Grows.trans {a : System} (h : a.Grows b) (h' : b.Grows c) : a.Grows c := by
  refine ⟨h.control.trans h'.control, h.registry.trans h'.registry, h.audit.trans h'.audit, ?_,
    h.nextReservation.trans h'.nextReservation, ?_⟩
  . intro heq
    have hcontrol := h.control
    have hcontrol' := h'.control
    have hnext := h.nextLease (by omega)
    have hnext' := h'.nextLease (by omega)
    omega
  . intro index token hget
    obtain ⟨token', hget', hid, hepoch⟩ := h.tokens index token hget
    obtain ⟨token'', hget'', hid', hepoch'⟩ := h'.tokens index token' hget'
    exact ⟨token'', hget'', hid'.trans hid, hepoch'.trans hepoch⟩

variable {system system' : System} {op : Op} {out : Answer}

theorem grows_of_follows {state : ControllerState} {registry : ModuleRegistryState}
    {audit : DecisionAuditState} {tokens : List AdmissionReservation}
    (h : system.state.Follows state)
    (hregistry : system.registry.Keeps registry)
    (haudit : audit.currentEpoch = system.audit.currentEpoch)
    (htokens : TokensKept system.tokens tokens) :
    system.Grows ⟨state, registry, audit, tokens⟩ := by
  exact ⟨h.epoch.ge, hregistry.epoch.ge, haudit.ge, fun _ => h.nextLease, h.nextReservation, htokens⟩

theorem Transition.grows (h : system.Transition codec op out system') : system.Grows system' := by
  cases h with
  | kept hmoves hregistry haudit =>
    exact grows_of_follows hmoves.follows hregistry haudit.currentEpoch (.refl _)
  | released _ hget =>
    exact grows_of_follows (follows_releaseReservation _ _) (.refl _) rfl (tokensKept_set hget)
  | @reserved lease nowMs _ _ _ _ hmove _ _ =>
    exact grows_of_follows ((follows_pruneExpired _ nowMs).trans hmove.follows) (.refl _) rfl
      (tokensKept_append _ _)
  | rotatedRegistry _ _ hlt =>
    exact ⟨Nat.le_refl _, Nat.le_of_lt hlt, Nat.le_refl _, fun _ => Nat.le_refl _, Nat.le_refl _,
      .refl _⟩
  | rotatedAudit _ _ hlt =>
    exact ⟨Nat.le_refl _, Nat.le_refl _, Nat.le_of_lt hlt, fun _ => Nat.le_refl _, Nat.le_refl _,
      .refl _⟩
  | rotated _ _ hlt hregistry haudit =>
    refine ⟨Nat.le_of_lt hlt, ?_, ?_, ?_, Nat.le_refl _, .refl _⟩
    . rw [hregistry]
      exact Nat.le_of_lt hlt
    . rw [haudit]
      exact Nat.le_of_lt hlt
    . intro heq
      exact absurd heq (Nat.ne_of_gt hlt)

structure Knows (state : ControllerState) (token : AdmissionReservation) : Prop where
  number : token.reservationId ≤ state.nextReservation
  epoch : token.controlEpoch ≤ state.controlEpoch
  live : ∀ record, state.reservations[token.reservationId]? = some record
    → token.controlEpoch = state.controlEpoch

theorem Knows.follows {state : ControllerState} (h : Knows state token)
    (hfollows : state.Follows state') : Knows state' token := by
  refine ⟨h.number.trans hfollows.nextReservation, ?_, ?_⟩
  . rw [hfollows.epoch]
    exact h.epoch
  . intro record hget
    rw [hfollows.epoch]
    exact h.live record (hfollows.reservations _ record h.number hget)

def Fenced (system : System) : Prop := ∀ token ∈ system.tokens, Knows system.state token

theorem Transition.fenced (h : system.Transition codec op out system') (hfenced : system.Fenced) :
    system'.Fenced := by
  cases h with
  | kept hmoves _ _ =>
    intro token hmem
    exact (hfenced token hmem).follows hmoves.follows
  | @released index token' _ hget =>
    intro token hmem
    have hfollows := follows_releaseReservation system.state token'.reservationId
    cases List.mem_or_eq_of_mem_set hmem with
    | inl hmem => exact (hfenced token hmem).follows hfollows
    | inr heq =>
      obtain ⟨hnumber, hepoch, hlive⟩ :=
        (hfenced token' (List.mem_of_getElem? hget)).follows hfollows
      rw [heq]
      exact ⟨hnumber, hepoch, hlive⟩
  | @reserved lease nowMs slots token' _ hepoch hmove hid htoken =>
    have hpruned := follows_pruneExpired system.state nowMs
    have hcurrent : token'.controlEpoch = (system.state.pruneExpired nowMs).controlEpoch := by
      rw [htoken, hepoch, hpruned.epoch]
    apply List.forall_mem_concat
    . intro token hmem
      exact (hfenced token hmem).follows (hpruned.trans hmove.follows)
    . exact ⟨hid.le, hcurrent.le, fun _ _ => hcurrent⟩
  | rotatedRegistry _ _ _ | rotatedAudit _ _ _ => exact hfenced
  | rotated _ _ hlt _ _ =>
    intro token hmem
    refine ⟨(hfenced token hmem).number, (hfenced token hmem).epoch.trans (Nat.le_of_lt hlt), ?_⟩
    intro record hget
    simp [ControllerState.rotated] at hget

theorem Transition.bound (h : system.Transition codec op out system') (hbound : system.registry.Bound) :
    system'.registry.Bound := by
  cases h with
  | kept _ hregistry _ => exact hregistry.bound hbound
  | released _ _ | reserved _ _ _ _ _ | rotatedAudit _ _ _ => exact hbound
  | rotatedRegistry _ _ _ | rotated _ _ _ _ _ =>
    intro key inst hget
    simp at hget

end System

end ControlPlane
