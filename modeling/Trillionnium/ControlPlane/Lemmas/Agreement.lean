import Trillionnium.ControlPlane.Lemmas.Epoch

/-!
The controller, its registry and its audit have one epoch as long as they are rotated together. The
handles of the registry and of the audit can be rotated on their own, after that the controller
refuses to rotate.
-/

namespace ControlPlane

open Json Machine

namespace System

def RotatesHandle (op : Op) (out : Answer) : Prop :=
  (∃ nextEpoch, op = .rotateRegistry nextEpoch ∨ op = .rotateAudit nextEpoch)
    ∧ out = .done (.ok ())

def Agree (system : System) : Prop :=
  system.registry.currentEpoch = system.state.controlEpoch
    ∧ system.audit.currentEpoch = system.state.controlEpoch

instance (system : System) : Decidable system.Agree := by
  unfold Agree
  infer_instance

variable {system system' : System} {op : Op} {out : Answer}

theorem Agree.follows {state : ControllerState} {registry : ModuleRegistryState}
    {audit : DecisionAuditState} {tokens : List AdmissionReservation} (h : system.Agree)
    (hfollows : system.state.Follows state) (hregistry : system.registry.Keeps registry)
    (haudit : audit.currentEpoch = system.audit.currentEpoch) :
    Agree ⟨state, registry, audit, tokens⟩ := by
  constructor
  . exact hregistry.epoch.trans (h.1.trans hfollows.epoch.symm)
  . exact haudit.trans (h.2.trans hfollows.epoch.symm)

theorem Transition.agree (h : system.Transition codec op out system') (hagree : system.Agree)
    (hop : ¬ RotatesHandle op out) : system'.Agree := by
  cases h with
  | kept hmoves hregistry haudit => exact hagree.follows hmoves.follows hregistry haudit.currentEpoch
  | released _ _ => exact hagree.follows (ControllerState.follows_releaseReservation _ _) (.refl _) rfl
  | @reserved _ nowMs _ _ _ _ hmove _ _ =>
    exact hagree.follows ((ControllerState.follows_pruneExpired _ nowMs).trans hmove.follows)
      (.refl _) rfl
  | rotatedRegistry hrotate hout _ => exact absurd ⟨⟨_, .inl hrotate⟩, hout⟩ hop
  | rotatedAudit hrotate hout _ => exact absurd ⟨⟨_, .inr hrotate⟩, hout⟩ hop
  | rotated _ _ _ _ _ => exact ⟨rfl, rfl⟩

theorem run_agree (hagree : system.Agree)
    (hops : ∀ i, ¬ Happens (step codec) system ops RotatesHandle i) :
    (run (step codec) system ops).Agree := by
  rw [← ops.take_length]
  apply before_of_le (Nat.zero_le ops.length) hagree
  intro k op _ _ hop hbefore
  apply (step_transition codec _ op).agree hbefore
  intro hrotates
  exact hops k ⟨op, _, ⟨hop, rfl⟩, hrotates⟩

theorem rotateEpoch_of_lt (h : system.state.controlEpoch < nextEpoch) :
    system.rotateEpoch nextEpoch
      = if system.Agree then
          .ok { system with
            state := system.state.rotated nextEpoch
            registry := { system.registry with currentEpoch := nextEpoch, instances := ∅ }
            audit := { system.audit with currentEpoch := nextEpoch, activeDigest := none } }
        else
          .error (.invalid "controller epoch state is inconsistent") := by
  unfold rotateEpoch
  rw [if_neg (Nat.not_le_of_gt h)]
  by_cases hagree : system.Agree
  . have hagree' := hagree
    obtain ⟨hregistry, haudit⟩ := hagree'
    rw [if_pos hagree, if_neg (by simp [hregistry, haudit])]
    simp only [ControllerState.rotateEpoch, ModuleRegistryState.rotateEpoch,
      DecisionAuditState.rotateEpoch, hregistry, haudit, if_neg (Nat.not_le_of_gt h)]
    rfl
  . rw [if_neg hagree, if_pos (not_and_or.mp hagree)]

theorem epoch_agreement (codec : FloatCodec) {mode : ControlMode} {controlEpoch : Nat}
    {config : ControllerConfig} {limits : ControllerLimits} {policy : ShadowPolicy}
    (hnew : System.new mode controlEpoch config limits policy = .ok system) (ops : List Op) :
    ((∀ i, ¬ Happens (step codec) system ops RotatesHandle i)
      → (run (step codec) system ops).Agree)
    ∧ ∀ (system' : System) (nextEpoch : Nat), system' = run (step codec) system ops
      → system'.state.controlEpoch < nextEpoch
      → (system'.Agree
          ∧ (system'.step codec (.rotateEpoch nextEpoch)).2 = .done (.ok ())
          ∧ (system'.step codec (.rotateEpoch nextEpoch)).1.state.controlEpoch = nextEpoch
          ∧ (system'.step codec (.rotateEpoch nextEpoch)).1.registry.currentEpoch = nextEpoch
          ∧ (system'.step codec (.rotateEpoch nextEpoch)).1.audit.currentEpoch = nextEpoch)
        ∨ (¬ system'.Agree
          ∧ (system'.step codec (.rotateEpoch nextEpoch)).2
            = .done (.error (.invalid "controller epoch state is inconsistent"))
          ∧ (system'.step codec (.rotateEpoch nextEpoch)).1 = system') := by
  obtain ⟨hstate, hregistry, haudit, _⟩ := new_eq_ok hnew
  constructor
  . apply run_agree
    unfold Agree
    rw [hstate, hregistry, haudit]
    exact ⟨rfl, rfl⟩
  . intro system' nextEpoch _ hlt
    rw [step, rotateEpoch_of_lt hlt]
    by_cases hagree : system'.Agree
    . rw [if_pos hagree]
      exact .inl ⟨hagree, rfl, rfl, rfl, rfl⟩
    . rw [if_neg hagree]
      exact .inr ⟨hagree, rfl, rfl⟩

set_option maxRecDepth 10000

theorem epoch_agreement_sample :
    (run (step sampleCodec) sampleSystem [.rotateEpoch 2, .rotateEpoch 3]).Agree := by
  apply (epoch_agreement sampleCodec new_sampleSystem [.rotateEpoch 2, .rotateEpoch 3]).1
  rintro i ⟨op, out, ⟨hop, _⟩, ⟨nextEpoch, hrotates⟩, _⟩
  have hmem := List.mem_of_getElem? hop
  simp only [List.mem_cons, List.not_mem_nil, or_false] at hmem
  rcases hmem with rfl | rfl
  . rcases hrotates with h | h <;> cases h
  . rcases hrotates with h | h <;> cases h

theorem handle_rotation_disagrees :
    System.new .shadow 1 sampleConfig .default .default = .ok sampleSystem
      ∧ ¬ (run (step sampleCodec) sampleSystem [.rotateRegistry 2]).Agree
      ∧ ((run (step sampleCodec) sampleSystem [.rotateRegistry 2]).step sampleCodec
          (.rotateEpoch 3)).2
        = .done (.error (.invalid "controller epoch state is inconsistent")) := by
  refine ⟨new_sampleSystem, ?_, rfl⟩
  decide

end System

end ControlPlane
