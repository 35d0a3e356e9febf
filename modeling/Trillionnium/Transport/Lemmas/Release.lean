import Trillionnium.Transport.Lemmas.Binding
import Trillionnium.Transport.Lemmas.Gates

/-!
The release of the queue. While a turn is pending, the queue is searched for the frame that decides
about it.
-/

namespace Transport

open Host (Externals TurnContext frameHostError)
open Json Protocol Stateful TransportHandshake Triple

variable {codec : FloatCodec} {options : Options} {p : RunTurnFrame → Prop} {q r : Prop}
  {log : List Event} {rest : List DeferredHandshakeAction} {G : TransportHandshake → Prop}

theorem decodeDeferred_eq_ok {frame : RunTurnFrame} (h : decodeDeferred codec frame = .ok frame') :
    frame' = frame := by
  unfold decodeDeferred at h
  split at h
  . cases h
  . cases h
    rfl

def Scan.actions (scan : Scan) : List DeferredHandshakeAction :=
  scan.stale ++ (scan.resolver.toList.map .core ++ (scan.before ++ scan.after))

variable {actions : List DeferredHandshakeAction} {scan : Scan} {s : Loop}
  {handshake : TransportHandshake} {resolver : RunTurnFrame}

theorem perm_scanResolver (h : scanResolver codec active actions = .ok scan) :
    actions.Perm scan.actions ∧ ∀ action ∈ scan.stale, action.isLocal = false := by
  -- An action that is kept comes before the others of the search.
  have hkept : ∀ {action : DeferredHandshakeAction} {actions : List DeferredHandshakeAction}
      {scan : Scan}, actions.Perm scan.actions →
        (action :: actions).Perm (Scan.actions { scan with before := action :: scan.before }) := by
    intro action actions scan hperm
    apply (hperm.cons action).trans
    apply List.perm_middle.symm.trans
    exact List.perm_middle.symm.append_left scan.stale
  induction actions generalizing scan with
  | nil =>
    cases h
    exact ⟨.refl _, by simp⟩
  | cons action actions ih =>
    cases action with
    | core frame =>
      rw [scanResolver] at h
      obtain ⟨decoded, hdecode, h⟩ := Except.bind_eq_ok.mp h
      rw [decodeDeferred_eq_ok hdecode] at h
      split at h
      . split at h
        . cases h
          exact ⟨.refl _, by simp⟩
        . obtain ⟨found, hfound, h⟩ := Except.bind_eq_ok.mp h
          cases h
          obtain ⟨hperm, hstale⟩ := ih hfound
          refine ⟨hperm.cons _, ?_⟩
          rw [List.forall_mem_cons]
          exact ⟨rfl, hstale⟩
      . obtain ⟨found, hfound, h⟩ := Except.bind_eq_ok.mp h
        cases h
        obtain ⟨hperm, hstale⟩ := ih hfound
        exact ⟨hkept hperm, hstale⟩
    | localError _ | localFrame _ =>
      obtain ⟨found, hfound, h⟩ := Except.bind_eq_ok.mp h
      cases h
      obtain ⟨hperm, hstale⟩ := ih hfound
      exact ⟨hkept hperm, hstale⟩

theorem Account.perm (h : Account p q r log rest G s) (hperm : rest.Perm rest') :
    Account p q r log rest' G s :=
  { h with balance := h.balance.trans ((hperm.append_right _).append_left _) }

theorem resolveTurnFailure_account (hq : q) :
    Triple (Account p q r log rest (· = handshake)) (resolveTurnFailure resolver turn)
      (fun deferred => Account p q r log (deferred ++ rest) IsShut) := by
  unfold resolveTurnFailure
  refine get_bind fun s hs => ?_
  rintro _ _ ⟨⟩
  refine hs.take [.rejected resolver turn] rfl rfl rfl ?_ rfl (hs.wrote.single rfl rfl rfl) rfl
  exact List.forall_mem_singleton.mpr hq

theorem resolveTurnFailure_taken (hq : q) :
    Triple (Account p q r log rest (· = handshake)) (resolveTurnFailure resolver turn)
      (fun deferred s => deferred = handshake.deferred
        ∧ Account p q r log (deferred ++ rest) IsShut s) := by
  intro s hs x s' hrun
  refine ⟨?_, resolveTurnFailure_account hq s hs x s' hrun⟩
  cases hrun
  rw [← hs.gates]

theorem rewriteCore_account (frame : RunTurnFrame) :
    Triple (Account p q r log rest G) (rewriteCore frame) (fun rewritten s =>
      (∃ (output : TransportOutput) (active : Option TurnContext),
          rewritten = (output.rewriteCoreWithContext frame active).1)
        ∧ Account p q r log rest G s) := by
  refine modifyGet fun s hs => ?_
  exact ⟨⟨s.output, s.active, rfl⟩, hs.silently (.refl _) rfl hs.closed (fun h => h.congr rfl rfl) hs.gates⟩

theorem releaseRejected_account (hpending : handshake.IsTurnPending) (hq : q)
    (hdrops : ∀ error, ClientDelivery.bindFrame handshake.turnBinding resolver = .error error → ∀ action ∈ scan.before ++ scan.after, action.isLocal = true → r) :
    Triple (Account p q r log (scan.before ++ scan.after ++ rest) (· = handshake))
      (releaseRejected codec options scan resolver) (fun _ => Account p q r log rest IsShut) := by
  unfold releaseRejected
  refine bind (rewriteCore_account resolver) fun rewritten => ?_
  refine get_bind fun s hs => ?_
  obtain ⟨⟨output, active, rfl⟩, hs⟩ := hs
  refine get_bind (P := Account p q r log (scan.before ++ scan.after ++ rest) (· = handshake))
    (fun s' hs' x s'' hrun => ?_) s hs
  cases hbind : ClientDelivery.bindFrame s'.handshake.turnBinding
      (output.rewriteCoreWithContext resolver active).1 with
  | error error =>
    rw [hbind] at hrun
    rw [hs'.gates] at hbind
    obtain ⟨error', hconflict⟩ := bindFrame_rewriteCore hbind
    refine bind (R := fun _ => Account p q r log rest IsShut)
      (resolveTurnFailure_account hq) (fun deferred => ?_) s' hs' x s'' hrun
    refine bind (Q := fun _ => Account p q r log (deferred ++ rest) IsShut) ?_ fun _ => ?_
    . -- What was scanned is dropped, and only what is still in the queue is answered.
      refine (discard_account _ (hdrops error' hconflict)).mono ?_ fun _ _ h => h
      intro s hs
      apply hs.perm
      rw [← List.append_assoc, ← List.append_assoc (scan.before ++ scan.after)]
      exact List.perm_append_comm.append_right rest
    refine bind isQuiet_closeTurn.onlyIf.account fun _ => ?_
    refine bind isQuiet_writeLocalError.account fun _ => ?_
    refine bind rejectDeferredActions_account fun _ => ?_
    exact isQuiet_discardBrokerBinding.account
  | ok bound =>
    rw [hbind] at hrun
    refine bind (R := fun _ => Account p q r log rest IsShut)
      (body_account_pending hpending) (fun _ => ?_) s' hs' x s'' hrun
    refine get_bind fun s hs => ?_
    refine bind (resolveTurnFailure_account hq) (fun deferred => ?_) s hs
    refine bind isQuiet_discardBrokerBinding.account fun _ => ?_
    refine bind isQuiet_closeTurn.onlyIf.account fun _ => ?_
    refine rejectDeferredActions_account.mono ?_ fun _ _ h => h
    intro s hs
    apply hs.perm
    rw [← List.append_assoc]
    exact List.perm_append_comm.append_right rest

theorem releaseAccepted_account
    (hp : ∀ frame, .core frame ∈ scan.before ++ scan.after ++ handshake.deferred → p frame) :
    Triple (Account p q r log (scan.before ++ scan.after ++ rest) (· = handshake))
      (releaseAccepted codec options scan resolver) (fun _ => Account p q r log rest IsShut) := by
  unfold releaseAccepted
  refine get_bind fun s hs => ?_
  refine bind isQuiet_rewriteCore.account (fun accepted => ?_) s hs
  refine bind (isQuiet_deliverTurnAccepted _ _).account fun _ => ?_
  refine get_bind fun s hs => ?_
  have hhandshake := hs.gates
  subst hhandshake
  have htake : Triple (Account p q r log (scan.before ++ scan.after ++ rest) (· = s.handshake))
      (setHandshake s.handshake.releaseAfterTurnAccept.2) (fun _ => Account p q r log
        (s.handshake.deferred ++ (scan.before ++ scan.after ++ rest)) IsShut) :=
    setHandshake_take rfl rfl
  refine bind htake (fun _ => ?_) s hs
  refine (releaseActions_account hp).mono ?_ fun _ _ h => h
  intro s' hs'
  apply hs'.perm
  rw [← List.append_assoc]
  exact List.perm_append_comm.append_right rest

def Rejects (codec : FloatCodec) (active : Option TurnContext)
    (actions : List DeferredHandshakeAction) (scan : Scan) (resolver : RunTurnFrame) : Prop :=
  scanResolver codec active actions = .ok scan ∧ scan.resolver = some resolver
    ∧ resolver.kind ≠ frameTurnAccepted

theorem discardStale_account (h : scanResolver codec active actions = .ok scan) :
    Triple (Account p q r log (actions ++ rest) G) (discard scan.stale)
      (fun _ => Account p q r log
        (scan.resolver.toList.map .core ++ (scan.before ++ scan.after) ++ rest) G) := by
  obtain ⟨hperm, hstale⟩ := perm_scanResolver h
  refine (discard_account scan.stale ?_).mono ?_ fun _ _ h => h
  . intro action hmem hlocal
    rw [hstale action hmem] at hlocal
    cases hlocal
  . intro s hs
    apply hs.perm
    rw [← List.append_assoc]
    exact hperm.append_right rest

theorem emit_decided_account {frame : RunTurnFrame} :
    Triple (Account p q r log ([.core frame] ++ rest) G) (emit (.decided frame))
      (fun _ => Account p q r log rest G) := by
  refine modify fun s hs => ?_
  exact hs.dispose [.decided frame] rfl rfl rfl rfl (List.forall_mem_singleton.mpr trivial)
    (hs.wrote.single rfl rfl rfl)

theorem release_rejecting (hq : q) (h : Account p q r log (actions ++ rest) IsGreeted s)
    (hpending : s.handshake.turnPending = true)
    (hrejects : Rejects codec s.active actions scan resolver)
    (hdrops : ∀ error, ClientDelivery.bindFrame s.handshake.turnBinding resolver = .error error → ∀ action ∈ scan.before ++ scan.after, action.isLocal = true → r) :
    Triple (· = s) (releaseHandshakeQueues codec options actions)
      (fun _ => Account p q r log rest IsShut) := by
  obtain ⟨hscan, hresolver, hkind⟩ := hrejects
  unfold releaseHandshakeQueues
  refine get_bind ?_
  rintro s rfl
  rw [if_pos hpending]
  refine get_bind (P := (· = s)) ?_ s rfl
  rintro s rfl
  have hs : Account p q r log (actions ++ rest) (· = s.handshake) s := h.mono fun _ => rfl
  refine bind (lift fun found hfound _ hs => And.intro hfound hs) (fun found => ?_) s hs
  rintro s' ⟨hfound, hs'⟩
  cases hfound.symm.trans hscan
  refine bind (discardStale_account hscan) (fun _ => ?_) s' hs'
  rw [hresolver]
  refine bind (Q := fun _ => Account p q r log (scan.before ++ scan.after ++ rest)
    (· = s.handshake)) emit_decided_account fun _ => ?_
  rw [if_neg hkind]
  exact releaseRejected_account ⟨h.gates, hpending⟩ hq hdrops

theorem restoreDeferred_account (hpending : handshake.IsTurnPending)
    (actions : List DeferredHandshakeAction) :
    Triple (Account p q r log (actions ++ rest) (· = handshake))
      (do
        let restored ← (← get).handshake.restoreDeferred codec actions
        setHandshake restored : Action Unit)
      (fun _ => Account p q r log rest IsGreeted) := by
  refine get_bind fun s hs => ?_
  refine bind (lift fun restored hrestored _ hs => And.intro hrestored hs)
    (fun restored => ?_) s hs
  refine modify ?_
  rintro s' ⟨hrestored, hs'⟩
  rw [hs.gates] at hrestored
  obtain ⟨total, rfl⟩ := restoreDeferred_eq_ok hrestored
  refine hs'.step [] (List.append_nil s'.log).symm (by simp) ?_ ?_ (hs'.wrote.congr rfl rfl) hpending.1
  . rw [hs'.gates]
    change (actions ++ rest ++ handshake.deferred).Perm (rest ++ (handshake.deferred ++ actions))
    rw [← List.append_assoc rest, List.append_assoc actions]
    exact List.perm_append_comm
  . intro hshut
    exact absurd hshut hpending.not_isShut

theorem release_shut (h : Account p q r log (actions ++ rest) IsShut s)
    (hp : ∀ frame, .core frame ∈ actions → p frame) :
    Triple (· = s) (releaseHandshakeQueues codec options actions)
      (fun _ => Account p q r log rest IsShut) := by
  unfold releaseHandshakeQueues
  refine get_bind ?_
  rintro s rfl
  rw [if_neg (Bool.eq_false_iff.mp (isShut_iff.mp h.gates).2)]
  exact releaseActions_account hp s h

theorem release_plain (h : ∀ p, Account p q r log (actions ++ rest) IsGreeted s)
    (hplain : s.handshake.turnPending = true → ∀ scan resolver, ¬ Rejects codec s.active actions scan resolver) :
    Triple (· = s) (releaseHandshakeQueues codec options actions)
      (fun _ s' => Account (fun _ => False) q r log rest IsGreeted s'
        ∨ Account (fun _ => True) q r log rest IsShut s') := by
  cases hpending : s.handshake.turnPending with
  | false =>
    have hs : Account (fun _ => True) q r log (actions ++ rest) IsShut s :=
      (h _).mono fun hgreeted => isShut_iff.mpr ⟨hgreeted, hpending⟩
    exact (release_shut hs fun _ _ => trivial).mono (fun _ h => h) fun _ _ h => .inr h
  | true =>
    unfold releaseHandshakeQueues
    refine get_bind ?_
    rintro s rfl
    rw [if_pos hpending]
    refine get_bind (P := (· = s)) ?_ s rfl
    rintro s rfl
    have hs : ∀ p, Account p q r log (actions ++ rest) (· = s.handshake) s :=
      fun p => (h p).mono fun _ => rfl
    have hpend : s.handshake.IsTurnPending := ⟨(h fun _ => True).gates, hpending⟩
    refine bind (P := (· = s)) (lift fun found hfound _ hs => And.intro hfound hs)
      (fun scan => ?_) s rfl
    rintro s ⟨hscan, rfl⟩
    cases hresolver : scan.resolver with
    | none =>
      refine (bind (discardStale_account hscan) (fun _ => ?_)) s (hs fun _ => False)
      rw [hresolver]
      exact (restoreDeferred_account hpend _).mono (fun _ h => h) fun _ _ h => .inl h
    | some resolver =>
      refine (bind (discardStale_account hscan) (fun _ => ?_)) s (hs fun _ => True)
      rw [hresolver]
      refine bind (Q := fun _ => Account (fun _ => True) q r log
        (scan.before ++ scan.after ++ rest) (· = s.handshake)) emit_decided_account
        fun _ => ?_
      have hkind : resolver.kind = frameTurnAccepted := by
        apply Decidable.byContradiction
        intro hkind
        exact hplain hpending scan resolver ⟨hscan, hresolver, hkind⟩
      rw [if_pos hkind]
      exact (releaseAccepted_account fun _ _ => trivial).mono (fun _ h => h) fun _ _ h => .inr h

end Transport
