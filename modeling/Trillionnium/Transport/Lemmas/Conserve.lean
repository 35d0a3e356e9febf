import Trillionnium.Transport.Lemmas.Release

namespace Transport

open Host (Externals TurnContext frameHostError)
open Json Protocol Stateful TransportHandshake

variable {binding : Option BrokerRequestBinding} {handshake : TransportHandshake}
  {frame : RunTurnFrame}

variable {ext : Externals} {options : Options}

def IsKept {α : Type} (m : Action α) : Prop :=
  ∀ p q r log, Triple (Account p q r log [] fun _ => True) m
    (fun _ => Account p q r log [] fun _ => True)

theorem IsQuiet.kept {α : Type} {m : Action α} (h : IsQuiet m) : IsKept m :=
  fun _ _ _ _ => h.account

namespace IsKept

variable {α β : Type}

theorem pure (x : α) : IsKept (Pure.pure x : Action α) := (IsQuiet.pure x).kept

theorem bind {m : Action α} {f : α → Action β} (hm : IsKept m) (hf : ∀ x, IsKept (f x)) :
    IsKept (m >>= f) :=
  fun p q r log => Triple.bind (hm p q r log) fun x => hf x p q r log

theorem get_bind {f : Loop → Action β} (hf : ∀ s, IsKept (f s)) :
    IsKept (MonadState.get >>= f) :=
  fun p q r log => Triple.get_bind fun s hs => hf s p q r log s hs

theorem ite {c : Prop} [Decidable c] {m n : Action α} (hm : IsKept m) (hn : IsKept n) :
    IsKept (if c then m else n) :=
  fun p q r log => Triple.ite (fun _ => hm p q r log) (fun _ => hn p q r log)

theorem onlyIf {c : Bool} {m : Action Unit} (h : IsKept m) : IsKept (Transport.onlyIf c m) := by
  unfold Transport.onlyIf
  exact ite h (pure _)

end IsKept

theorem isKept_writeLocalErrorOrDefer {code : String} :
    IsKept (writeLocalErrorOrDefer ext.float context code message binding) :=
  fun _ _ _ _ => writeLocalErrorOrDefer_account

theorem isKept_failPendingHandshake :
    IsKept (failPendingHandshake ext.float helloError turnError) := by
  intro p q r log
  refine failPendingHandshake_account.mono (fun _ h => h) ?_
  intro _ s hs
  exact hs.mono fun _ => trivial

theorem isKept_modifyHandshake {f : TransportHandshake → TransportHandshake}
    (hdeferred : ∀ handshake, (f handshake).deferred = handshake.deferred)
    (hholds : ∀ handshake, (f handshake).holdsLocalDelivery = handshake.holdsLocalDelivery) :
    IsKept (modifyHandshake f) := by
  intro p q r log
  refine Triple.modify fun s hs => ?_
  refine hs.silently (.refl s.log) (hdeferred s.handshake) ?_ (fun h => h.congr rfl rfl) trivial
  intro hshut
  rw [hdeferred]
  exact hs.closed ((hholds s.handshake).symm.trans hshut)

theorem isKept_consumePreface : IsKept (modifyHandshake TransportHandshake.consumePreface) :=
  isKept_modifyHandshake (fun _ => rfl) (fun _ => rfl)

theorem openGate_account {α : Type} {p : RunTurnFrame → Prop} {q r : Prop} {log : List Event}
    {s : Loop} {f : Unit → Action α} (hs : Account p q r log [] (fun _ => True) s)
    (hdeferred : handshake.deferred = s.handshake.deferred)
    (hholds : handshake.holdsLocalDelivery = true) (hf : ∀ x, IsKept (f x)) :
    ∀ x s', (setHandshake handshake >>= f) s = .ok (x, s') →
      Account p q r log [] (fun _ => True) s' := by
  have hset : Triple (· = s) (setHandshake handshake)
      (fun _ => Account p q r log [] fun _ => True) := by
    refine Triple.modify ?_
    rintro s rfl
    refine hs.silently (.refl s.log) hdeferred ?_ (fun h => h.congr rfl rfl) trivial
    intro hshut
    rw [hholds] at hshut
    cases hshut
  exact Triple.bind hset (fun x => hf x p q r log) s rfl

section Client

theorem isKept_handleFlowControl : IsKept (handleFlowControl ext frame context binding) := by
  unfold handleFlowControl
  refine IsKept.get_bind fun s => ?_
  split
  . exact isKept_writeLocalErrorOrDefer
  next parsed _ =>
    refine IsKept.get_bind fun s => ?_
    refine IsKept.bind isQuiet_setFlow.kept fun _ => ?_
    split
    . exact isKept_writeLocalErrorOrDefer
    . intro p q r log
      refine Triple.get_bind fun s hs => ?_
      split
      next hholding => exact deferLocal_account s (hs.mono fun _ => hholding)
      next =>
        refine Triple.bind isQuiet_localFrame.account (fun ack => ?_) s hs
        refine Triple.bind (isQuiet_sendWithBinding rfl).account fun _ => ?_
        exact isQuiet_drainFlow.account

theorem isKept_forwardToCore : IsKept (forwardToCore ext forwardError binding) := by
  cases forwardError with
  | none =>
    unfold forwardToCore
    exact (isQuiet_modifyRouter _).kept
  | some error =>
    unfold forwardToCore
    refine IsKept.bind isKept_failPendingHandshake fun _ => ?_
    exact IsKept.bind isQuiet_closeCoreInput.kept fun _ => isQuiet_noteTerminalError.kept

theorem isKept_failRegistration (error : String) (binding : Option BrokerRequestBinding) :
    IsKept (failRegistration ext error binding) :=
  IsKept.bind isKept_failPendingHandshake fun _ => isQuiet_discardBrokerBinding.kept

theorem beginHello_eq_ok {handshake' : TransportHandshake}
    (h : handshake.beginHello = .ok handshake') :
    handshake'.deferred = handshake.deferred ∧ handshake'.holdsLocalDelivery = true := by
  unfold beginHello at h
  repeat' split at h
  all_goals cases h
  exact ⟨rfl, rfl⟩

theorem beginTurn_eq_ok {handshake' : TransportHandshake} (h : handshake.beginTurn = .ok handshake') :
    handshake'.deferred = handshake.deferred ∧ handshake'.holdsLocalDelivery = true := by
  unfold beginTurn at h
  repeat' split at h
  all_goals cases h
  exact ⟨rfl, Bool.or_true _⟩

theorem isKept_handleHello : IsKept (handleHello ext frame binding forwardError) := by
  unfold handleHello
  refine IsKept.get_bind fun s => ?_
  split
  . exact IsKept.bind isKept_consumePreface fun _ => isKept_writeLocalErrorOrDefer
  . intro p q r log
    refine Triple.get_bind fun s hs x s' hrun => ?_
    cases hbegin : s.handshake.beginHello with
    | error error =>
      rw [hbegin] at hrun
      exact isKept_writeLocalErrorOrDefer p q r log s hs x s' hrun
    | ok handshake =>
      rw [hbegin] at hrun
      obtain ⟨hdeferred, hholds⟩ := beginHello_eq_ok hbegin
      refine openGate_account hs ?_ ?_ ?_ x s' hrun
      . exact hdeferred
      . exact hholds
      intro _
      refine IsKept.get_bind fun s => ?_
      split
      . exact IsKept.bind (isKept_failRegistration _ _) fun _ => isQuiet_closeCoreInput.kept
      . exact IsKept.bind (isQuiet_modifyRouter _).kept fun _ => isKept_forwardToCore

theorem isKept_admitTurn (frame : RunTurnFrame) (binding : Option BrokerRequestBinding) :
    IsKept (admitTurn ext frame binding) := by
  have hrefuse : ∀ context code message, IsKept (do
      writeLocalErrorOrDefer ext.float context code message binding
      return false) := fun context code message =>
    IsKept.bind isKept_writeLocalErrorOrDefer fun _ => .pure _
  unfold admitTurn
  refine IsKept.get_bind fun s => ?_
  refine IsKept.ite (hrefuse _ _ _) ?_
  split
  . exact hrefuse _ _ _
  . refine IsKept.get_bind fun s => ?_
    split
    . exact hrefuse _ _ _
    . intro p q r log
      refine Triple.get_bind fun s hs x s' hrun => ?_
      cases hbegin : s.handshake.beginTurn with
      | error error =>
        rw [hbegin] at hrun
        exact hrefuse _ _ _ p q r log s hs x s' hrun
      | ok handshake =>
        rw [hbegin] at hrun
        obtain ⟨hdeferred, hholds⟩ := beginTurn_eq_ok hbegin
        refine openGate_account hs ?_ ?_ ?_ x s' hrun
        . exact hdeferred
        . exact hholds
        intro _
        refine IsKept.get_bind fun s => ?_
        refine IsKept.bind isQuiet_setFlow.kept fun _ => ?_
        refine IsKept.get_bind fun s => ?_
        split
        . refine IsKept.bind (isKept_failRegistration _ _) fun _ => ?_
          refine IsKept.get_bind fun s => ?_
          refine IsKept.bind isQuiet_setFlow.kept fun _ => ?_
          exact IsKept.bind isQuiet_closeCoreInput.kept fun _ => .pure _
        . refine IsKept.bind (isQuiet_modifyRouter _).kept fun _ => ?_
          exact IsKept.bind isQuiet_setActive.kept fun _ => .pure _

theorem isKept_registerRequest (frame : RunTurnFrame) (binding : Option BrokerRequestBinding) :
    IsKept (registerRequest ext frame binding) := by
  unfold registerRequest
  refine IsKept.get_bind fun s => ?_
  split
  . refine IsKept.bind isQuiet_discardBrokerBinding.kept fun _ => ?_
    refine IsKept.get_bind fun s => ?_
    exact IsKept.bind isKept_writeLocalErrorOrDefer fun _ => .pure _
  . exact IsKept.bind (isQuiet_modifyRouter _).kept fun _ => .pure _

theorem isKept_handleRequest : IsKept (handleRequest ext options frame binding forwardError) := by
  unfold handleRequest
  refine IsKept.bind isKept_consumePreface fun _ => ?_
  apply IsKept.ite
  . refine IsKept.get_bind fun s => ?_
    split
    . exact isKept_writeLocalErrorOrDefer
    . refine IsKept.get_bind fun s => ?_
      exact IsKept.ite isKept_writeLocalErrorOrDefer isKept_handleFlowControl
  . apply IsKept.ite
    . exact IsKept.bind (isKept_admitTurn _ _) fun _ => isKept_forwardToCore.onlyIf
    . exact IsKept.bind (isKept_registerRequest _ _) fun _ => isKept_forwardToCore.onlyIf

theorem isKept_handleClientFrame : IsKept (handleClientFrame ext options frame forwardError) := by
  have hinvalid : ∀ error binding, IsKept (do
      modifyHandshake TransportHandshake.consumePreface
      writeLocalErrorOrDefer ext.float (← get).active "invalid_frame" error binding) :=
    fun error binding => IsKept.bind isKept_consumePreface fun _ =>
      IsKept.get_bind fun _ => isKept_writeLocalErrorOrDefer
  unfold handleClientFrame
  split
  . exact hinvalid _ _
  . split
    . exact hinvalid _ _
    . exact IsKept.ite isKept_handleHello isKept_handleRequest

theorem isKept_handleClientGarbage (error : ProtocolError)
    (binding : Option BrokerRequestBinding) : IsKept (handleClientGarbage ext error binding) :=
  IsKept.bind isKept_consumePreface fun _ =>
    IsKept.get_bind fun _ => isKept_writeLocalErrorOrDefer

end Client

section Core

def KeepsActive {α : Type} (m : Action α) : Prop := Moves (fun s s' => s'.active = s.active) m

theorem KeepsActive.bind {α β : Type} {m : Action α} {f : α → Action β} (hm : KeepsActive m)
    (hf : ∀ x, KeepsActive (f x)) : KeepsActive (m >>= f) :=
  Moves.bind (R := fun s s' : Loop => s'.active = s.active)
    (fun _ _ _ hab hbc => hbc.trans hab) hm hf

theorem keepsActive_updateDurableReady (frame : RunTurnFrame) :
    KeepsActive (updateDurableReady frame) := by
  apply Moves.modify
  intro s
  split
  . rfl
  . split <;> rfl

theorem keepsActive_augmentFrame (frame : RunTurnFrame) :
    KeepsActive (augmentFrame options frame) := by
  rintro s _ _ ⟨⟩
  rfl

theorem keepsActive_settleSend (frame : RunTurnFrame) (note : Note)
    (result : Except String (Outcome × ClientDelivery)) :
    KeepsActive (settleSend frame note result) :=
  KeepsActive.bind (Moves.lift (R := fun s s' : Loop => s'.active = s.active) (fun _ => rfl) result)
    fun _ => Moves.modify fun _ => rfl

theorem keepsActive_sendBound {note : Note} :
    KeepsActive (sendBound ext.float frame binding note) := by
  cases binding with
  | none | some _ => exact Moves.get_bind fun s => keepsActive_settleSend _ _ _ s

variable {r : Prop} {s₀ : Loop} {handshake : TransportHandshake}

def Begun (r : Prop) (s₀ : Loop) (handshake : TransportHandshake) (s : Loop) : Prop :=
  (∀ p q, Account p q r s₀.log [] (· = handshake) s) ∧ s.active = s₀.active

theorem IsQuiet.begun {α : Type} {m : Action α} (hquiet : IsQuiet m) (hactive : KeepsActive m) :
    Triple (Begun r s₀ handshake) m (fun _ => Begun r s₀ handshake) := by
  rintro s ⟨haccount, hs⟩ x s' hrun
  exact ⟨fun p q => hquiet.account s (haccount p q) x s' hrun, (hactive s x s' hrun).trans hs⟩

theorem kind_rewriteCore {output : TransportOutput} :
    (output.rewriteCoreWithContext frame active).1.kind = frame.kind := by
  have hnumbers : (TransportOutput.keepCoreNumbers frame).kind = frame.kind := by
    unfold TransportOutput.keepCoreNumbers
    cases frame.hostSeq <;> cases frame.connectionId <;> rfl
  have hrenumber : ∀ seq, (output.renumber (TransportOutput.keepCoreNumbers frame) seq
      active).1.kind = frame.kind := by
    intro seq
    unfold TransportOutput.renumber
    split
    . exact hnumbers
    . split <;> exact hnumbers
  unfold TransportOutput.rewriteCoreWithContext
  dsimp only
  split <;> exact hrenumber _

theorem rewriteCore_begun :
    Triple (Begun r s₀ handshake) (rewriteCore frame)
      (fun rewritten s => rewritten.kind = frame.kind ∧ Begun r s₀ handshake s) := by
  refine Triple.modifyGet ?_
  rintro s ⟨haccount, hactive⟩
  refine ⟨kind_rewriteCore, fun p q => ?_, hactive⟩
  exact (haccount p q).silently (.refl s.log) rfl (haccount p q).closed (fun h => h.congr rfl rfl)
    (haccount p q).gates

theorem observeCore_begun :
    Triple (Begun r s₀ handshake) (observeCore frame)
      (fun observed s => observed.kind = frame.kind ∧ Begun r s₀ handshake s) := by
  refine Triple.modifyGet ?_
  rintro s ⟨haccount, hactive⟩
  refine ⟨rfl, fun p q => ?_, hactive⟩
  exact (haccount p q).silently (.refl s.log) rfl (haccount p q).closed (fun h => h.congr rfl rfl)
    (haccount p q).gates

theorem numberCore_begun :
    Triple (Begun r s₀ handshake) (numberCore gatePending frame)
      (fun numbered s => numbered.kind = frame.kind ∧ Begun r s₀ handshake s) := by
  unfold numberCore
  apply Triple.ite
  . intro _
    exact observeCore_begun
  . intro _
    refine Triple.bind rewriteCore_begun fun rewritten => ?_
    rintro s ⟨hkind, hs⟩
    rw [← hkind]
    exact observeCore_begun s hs

inductive Steps (r : Prop) (s s' : Loop) : Prop where
  /-- Nothing is released. -/
  | held (h : Account (fun _ => False) False r s.log [] (fun _ => True) s')
  /-- The gates are open, and what waited behind them is released. -/
  | opened (h : Account (fun _ => True) False r s.log [] IsShut s')
  /-- The turn is rejected. What was in the queue is released, but nothing if the frame that rejects
  the turn was in the queue itself. -/
  | rejected (h : Account (fun frame => s.handshake.awaitingAck = false
      ∧ .core frame ∈ s.handshake.deferred) True r s.log [] IsShut s')

def acknowledged (handshake : TransportHandshake) : TransportHandshake :=
  { handshake with helloBinding := none, state := .open, deferred := [], deferredBytes := 0 }

variable {frame : RunTurnFrame} {s : Loop}

theorem handleHelloAck_begun {Q : Loop → Prop}
    (h : ∀ s, (∀ p q, Account p q r s₀.log (handshake.deferred ++ []) (· = acknowledged handshake) s) → s.active = s₀.active → Triple (· = s) (releaseHandshakeQueues ext.float options handshake.deferred) (fun _ => Q)) :
    Triple (Begun r s₀ handshake) (handleHelloAck ext options frame) (fun _ => Q) := by
  unfold handleHelloAck
  refine Triple.bind (isQuiet_updateDurableReady.begun
    (keepsActive_updateDurableReady frame)) fun _ => ?_
  refine Triple.bind (isQuiet_augmentFrame.begun (keepsActive_augmentFrame frame))
    fun frame => ?_
  refine Triple.get_bind fun s hs => ?_
  refine Triple.bind ((isQuiet_sendBound rfl).begun keepsActive_sendBound)
    (fun _ => ?_) s hs
  refine Triple.get_bind ?_
  rintro s ⟨haccount, hactive⟩
  have hhandshake : s.handshake = handshake := (haccount (fun _ => True) True).gates
  -- Both ways through the acknowledgement take the whole queue.
  have hrelease : ∀ x s', releaseHandshakeQueues ext.float options handshake.deferred
      { s with handshake := acknowledged handshake } = .ok (x, s') → Q s' := by
    refine h { s with handshake := acknowledged handshake } ?_ hactive _ rfl
    intro p q
    rw [← hhandshake]
    exact (haccount p q).take [] (List.append_nil s.log).symm rfl rfl (by simp) rfl
      ((haccount p q).wrote.congr rfl rfl) rfl
  rw [hhandshake]
  intro x s' hrun
  cases hpending : handshake.turnPending with
  | true | false =>
    simp only [acknowledge, hpending, takeDeferred] at hrun
    exact hrelease x s' (by rw [← hrun]; simp [acknowledged, hpending]; rfl)

def FindsRejection (codec : FloatCodec) (handshake : TransportHandshake)
    (active : Option TurnContext) (scan : Scan) (resolver : RunTurnFrame) : Prop :=
  handshake.turnPending = true ∧ Rejects codec active handshake.deferred scan resolver

def Orphans (codec : FloatCodec) (handshake : TransportHandshake) (active : Option TurnContext) :
    Prop :=
  ∃ scan resolver error, FindsRejection codec handshake active scan resolver
    ∧ ClientDelivery.bindFrame handshake.turnBinding resolver = .error error
    ∧ ∃ action ∈ scan.before ++ scan.after, action.isLocal = true

theorem handleHelloAck_step (hdrops : Orphans ext.float handshake s₀.active → r) :
    Triple (Begun r s₀ handshake) (handleHelloAck ext options frame)
      (fun _ => Steps r s₀) := by
  apply handleHelloAck_begun
  intro s haccount hactive
  have hgates : s.handshake = acknowledged handshake := (haccount (fun _ => True) True).gates
  have hgreeted : ∀ p q, Account p q r s₀.log (handshake.deferred ++ []) IsGreeted s := by
    intro p q
    refine (haccount p q).mono ?_
    intro heq
    rw [heq]
    rfl
  by_cases hfinds : ∃ scan resolver,
      FindsRejection ext.float handshake s₀.active scan resolver
  . obtain ⟨scan, resolver, hpending, hrejects⟩ := hfinds
    rw [← hactive] at hrejects
    refine (release_rejecting trivial (hgreeted _ True) ?_ hrejects ?_).mono (fun _ h => h)
      fun _ _ h => .rejected h
    . rw [hgates]
      exact hpending
    . intro error hconflict action hmem hlocal
      rw [hgates] at hconflict
      rw [hactive] at hrejects
      exact hdrops ⟨scan, resolver, error, ⟨hpending, hrejects⟩, hconflict, action, hmem, hlocal⟩
  . refine (release_plain (fun p => hgreeted p False) ?_).mono (fun _ h => h) ?_
    . intro hpending scan resolver hrejects
      rw [hgates] at hpending
      rw [hactive] at hrejects
      exact hfinds ⟨scan, resolver, hpending, hrejects⟩
    . intro _ s' hs'
      cases hs' with
      | inl hheld => exact .held (hheld.mono fun _ => trivial)
      | inr hopened => exact .opened hopened

theorem handleTurnAccepted_step :
    Triple (Begun r s₀ handshake) (handleTurnAccepted ext options frame) (fun _ => Steps r s₀) := by
  refine Triple.mono (P := Account (fun _ => True) False r s₀.log [] (· = handshake)) ?_
    (fun _ h => h.1 _ _) fun _ _ h => .opened h
  unfold handleTurnAccepted
  refine Triple.bind isQuiet_updateDurableReady.account fun _ => ?_
  refine Triple.bind isQuiet_augmentFrame.account fun frame => ?_
  refine Triple.get_bind fun s hs => ?_
  refine Triple.bind (isQuiet_sendBound rfl).account (fun _ => ?_) s hs
  refine Triple.get_bind fun s hs => ?_
  have hhandshake := hs.gates
  subst hhandshake
  have htake : Triple (Account (fun _ => True) False r s₀.log [] (· = s.handshake))
      (setHandshake s.handshake.releaseAfterTurnAccept.2) (fun _ => Account (fun _ => True) False
        r s₀.log (s.handshake.deferred ++ []) IsShut) :=
    setHandshake_take rfl rfl
  refine Triple.bind htake (fun _ => ?_) s hs
  intro s' hs'
  exact release_shut hs' (fun _ _ => trivial) s' rfl

theorem handleRejection_step (hpending : handshake.IsTurnPending)
    (hawaiting : s₀.handshake.awaitingAck = false)
    (hdeferred : handshake.deferred = s₀.handshake.deferred) :
    Triple (Begun r s₀ handshake) (handleRejection ext options frame) (fun _ => Steps r s₀) := by
  refine Triple.mono (P := Account (fun frame => s₀.handshake.awaitingAck = false
      ∧ .core frame ∈ s₀.handshake.deferred) True r s₀.log [] (· = handshake)) ?_
    (fun _ h => h.1 _ _) fun _ _ h => .rejected h
  unfold handleRejection
  refine Triple.get_bind fun s₁ hs₁ => ?_
  refine Triple.get_bind (P := Account _ True r s₀.log [] (· = handshake))
    (fun s hs x s' hrun => ?_) s₁ hs₁
  cases hbind : ClientDelivery.bindFrame s₁.handshake.turnBinding frame with
  | error error =>
    rw [hbind] at hrun
    refine Triple.bind (R := fun _ => Account _ True r s₀.log [] IsShut)
      (resolveTurnFailure_account trivial) (fun deferred => ?_) s hs x s' hrun
    refine Triple.bind isQuiet_writeLocalError.account fun _ => ?_
    refine Triple.bind rejectDeferredActions_account fun _ => ?_
    refine Triple.bind isQuiet_discardBrokerBinding.account fun _ => ?_
    exact isQuiet_closeTurn.account
  | ok bound =>
    rw [hbind] at hrun
    refine Triple.bind (R := fun _ => Account _ True r s₀.log [] IsShut)
      (body_account_pending hpending) (fun _ => ?_) s hs x s' hrun
    refine Triple.bind isQuiet_discardBrokerBinding.account fun _ => ?_
    refine Triple.bind (resolveTurnFailure_taken trivial) fun deferred => ?_
    rintro s ⟨rfl, hs⟩
    refine Triple.bind isQuiet_closeTurn.onlyIf.account (fun _ => ?_) s hs
    intro s' hs'
    refine release_shut hs' ?_ s' rfl
    intro frame hmem
    rw [hdeferred] at hmem
    exact ⟨hawaiting, hmem⟩

theorem holdsLocalDelivery_of_holds (h : handshake.holds frame = true) : handshake.IsHolding := by
  unfold IsHolding holdsLocalDelivery
  unfold TransportHandshake.holds at h
  cases hawaiting : handshake.awaitingAck with
  | true => rfl
  | false =>
    cases hpending : handshake.turnPending with
    | true => rfl
    | false =>
      rw [hawaiting, hpending] at h
      cases h

theorem kind_of_awaiting (h : ¬ handshake.holds frame = true)
    (hawaiting : handshake.awaitingAck = true) : frame.kind = frameHelloAck := by
  apply Decidable.byContradiction
  intro hkind
  apply h
  unfold TransportHandshake.holds
  rw [hawaiting, decide_eq_true hkind]
  rfl

theorem crossGates_step (hawaiting : handshake.awaitingAck = s₀.handshake.awaitingAck)
    (hdeferred : handshake.deferred = s₀.handshake.deferred)
    (hheld : ¬ handshake.holds frame = true)
    (hdrops : frame.kind = frameHelloAck → handshake.awaitingAck = true → Orphans ext.float handshake s₀.active → r) :
    Triple (Begun r s₀ handshake) (crossGates ext options handshake frame)
      (fun _ => Steps r s₀) := by
  unfold crossGates
  apply Triple.ite
  . intro hack
    obtain ⟨hkind, hack⟩ := Bool.and_eq_true_iff.mp hack
    exact handleHelloAck_step (hdrops (of_decide_eq_true hkind) hack)
  intro hack
  have hgreeted : handshake.awaitingAck = false := by
    apply Bool.eq_false_iff.mpr
    intro h
    apply hack
    rw [kind_of_awaiting hheld h, h]
    rfl
  apply Triple.ite
  . intro _
    exact handleTurnAccepted_step
  intro _
  apply Triple.ite
  . intro hrejected
    obtain ⟨hpending, _⟩ := Bool.and_eq_true_iff.mp hrejected
    exact handleRejection_step ⟨hgreeted, hpending⟩ (hawaiting.symm.trans hgreeted) hdeferred
  . intro _ s hs x s' hrun
    have hbody : Account (fun _ => False) False r s₀.log [] IsGreeted s := by
      refine (hs.1 _ _).mono ?_
      intro heq
      rw [heq]
      exact hgreeted
    exact .held ((body_account_isGreeted frame s hbody x s' hrun).mono fun _ => trivial)

theorem Begun.handshake_eq (h : Begun r s₀ handshake s) : s.handshake = handshake :=
  (h.1 (fun _ => True) True).gates

def seen (handshake : TransportHandshake) (frame : RunTurnFrame) : TransportHandshake :=
  if frame.kind = frameHelloAck then { handshake with helloAckSeen := true } else handshake

theorem observeHelloAck_begun (hs : ∀ p q, Account p q r s.log [] (fun _ => True) s)
    (frame : RunTurnFrame) :
    Triple (· = s) (observeHelloAck frame) (fun _ => Begun r s (seen s.handshake frame)) := by
  unfold observeHelloAck seen
  split
  . refine Triple.modify ?_
    rintro s rfl
    refine ⟨fun p q => ?_, rfl⟩
    exact (hs p q).silently (.refl s.log) rfl (hs p q).closed (fun h => h.congr rfl rfl) rfl
  . refine Triple.pure ?_
    rintro s rfl
    exact ⟨fun p q => (hs p q).mono fun _ => rfl, rfl⟩

theorem handleFreshCore_step (hs : ∀ p q, Account p q r s.log [] (fun _ => True) s)
    (hdrops : frame.kind = frameHelloAck → s.handshake.awaitingAck = true → Orphans ext.float s.handshake s.active → r) :
    Triple (· = s) (handleFreshCore ext options frame)
      (fun _ => Steps r s) := by
  have hawaiting : (seen s.handshake frame).awaitingAck = s.handshake.awaitingAck := by
    unfold seen
    split <;> rfl
  have hdeferred : (seen s.handshake frame).deferred = s.handshake.deferred := by
    unfold seen
    split <;> rfl
  have horphans : Orphans ext.float (seen s.handshake frame) s.active
      → Orphans ext.float s.handshake s.active := by
    unfold seen
    split <;> exact fun h => h
  unfold handleFreshCore
  refine Triple.bind (observeHelloAck_begun hs frame) fun _ => ?_
  refine Triple.get_bind fun s₁ hs₁ => ?_
  rw [hs₁.handshake_eq]
  refine Triple.bind numberCore_begun (fun numbered => ?_) s₁ hs₁
  rintro s₂ ⟨hkind, hs₂⟩
  split
  next hheld =>
    intro x s' hrun
    have hholding : Account (fun _ => False) False r s.log [] IsHolding s₂ := by
      refine (hs₂.1 _ _).mono ?_
      intro heq
      rw [heq]
      exact holdsLocalDelivery_of_holds hheld
    exact .held (deferCore_account numbered s₂ hholding x s' hrun)
  next hheld =>
    have hcross : ∀ crossing : RunTurnFrame, crossing.kind = numbered.kind →
        Triple (Begun r s (seen s.handshake frame))
          (crossGates ext options (seen s.handshake frame) crossing)
          (fun _ => Steps r s) := by
      intro crossing hcrossing
      refine crossGates_step hawaiting hdeferred ?_ ?_
      . unfold TransportHandshake.holds turnGateResolution at hheld ⊢
        rw [hcrossing]
        exact hheld
      . intro hack hpending hlost
        rw [hcrossing, hkind] at hack
        rw [hawaiting] at hpending
        exact hdrops hack hpending (horphans hlost)
    split
    . refine Triple.bind rewriteCore_begun (fun crossing => ?_) s₂ hs₂
      rintro s₃ ⟨hcrossing, hs₃⟩
      exact hcross crossing hcrossing s₃ hs₃
    . exact hcross numbered rfl s₂ hs₂

theorem IsKept.held {m : Action Unit} (h : IsKept m)
    (hs : ∀ p q, Account p q r s.log [] (fun _ => True) s) :
    Triple (· = s) m (fun _ => Steps r s) := by
  rintro s rfl x s' hrun
  exact .held (h _ _ r s.log s (hs _ _) x s' hrun)

theorem isKept_handleAmbiguousStream (frame : RunTurnFrame) (error : String) :
    IsKept (handleAmbiguousStream ext frame error) := by
  unfold handleAmbiguousStream
  refine IsKept.get_bind fun s => ?_
  apply IsKept.ite
  . exact isKept_failPendingHandshake
  . refine IsKept.bind isQuiet_writeLocalError.kept fun _ => ?_
    exact isQuiet_discardBrokerBinding.kept

theorem handleCoreFrame_step (hs : ∀ p q, Account p q r s.log [] (fun _ => True) s)
    (hdrops : frame.kind = frameHelloAck → s.handshake.awaitingAck = true → Orphans ext.float s.handshake s.active → r) :
    Triple (· = s) (handleCoreFrame ext options frame)
      (fun _ => Steps r s) := by
  unfold handleCoreFrame
  refine Triple.get_bind ?_
  rintro s rfl
  split
  . exact (IsKept.pure ()).held hs s rfl
  . cases correlatedStreamId frame with
    | error error => exact (isKept_handleAmbiguousStream _ _).held hs s rfl
    | ok _ =>
      dsimp only
      split
      . exact (IsKept.pure ()).held hs s rfl
      . exact handleFreshCore_step hs hdrops s rfl

theorem isKept_handleCoreGarbage (error : ProtocolError) :
    IsKept (handleCoreGarbage ext error) := by
  unfold handleCoreGarbage
  refine IsKept.get_bind fun s => ?_
  apply IsKept.ite
  . exact IsKept.pure _
  . apply IsKept.ite
    . exact isKept_failPendingHandshake
    . intro p q r log
      exact Triple.throw

theorem isKept_abandonCore : IsKept (abandonCore ext message) := by
  unfold abandonCore rejectPendingHandshake
  refine IsKept.bind isQuiet_closeCoreInput.kept fun _ => ?_
  refine IsKept.bind isKept_failPendingHandshake fun _ => ?_
  exact isQuiet_rejectAllBrokerRequests.kept

end Core

section Loop

theorem isKept_closeClient {error : Option String} : IsKept (closeClient error) := by
  refine (IsQuiet.modify ?_ ?_ ?_).kept
  all_goals
    intro s
    split <;> rfl

theorem isKept_noteExit (result : Except String ExitStatus) : IsKept (noteExit result) := by
  cases result with
  | ok status => exact (IsQuiet.modify).kept
  | error error => exact isQuiet_noteTerminalError.kept

theorem isKept_expire : IsKept (expire ext) := by
  unfold expire
  refine IsKept.bind isKept_abandonCore fun _ => ?_
  refine IsKept.bind isQuiet_noteTerminalError.kept fun _ => ?_
  exact (IsQuiet.modify).kept

variable {r : Prop}

def Forgets (ext : Externals) (s : Loop) (message : Message) : Prop :=
  ∃ frame, message = .coreFrame frame ∧ frame.frame.kind = frameHelloAck
    ∧ s.handshake.awaitingAck = true ∧ Orphans ext.float s.handshake s.active

variable {s s' : Loop} {p : RunTurnFrame → Prop} {q : Prop} {messages : List Message}

theorem handle_step (hs : ∀ p q, Account p q r s.log [] (fun _ => True) s) {message : Message}
    (hdrops : Forgets ext s message → r) :
    Triple (· = s) (handle ext options message)
      (fun _ => Steps r s) := by
  cases message with
  | clientFrame frame forwardError =>
    apply IsKept.held _ hs
    exact IsKept.get_bind fun _ => IsKept.ite (.pure _) isKept_handleClientFrame
  | clientGarbage error binding =>
    apply IsKept.held _ hs
    exact IsKept.get_bind fun _ => IsKept.ite (.pure _) (isKept_handleClientGarbage _ _)
  | clientEof => exact isKept_closeClient.held hs
  | clientError error => exact isKept_closeClient.held hs
  | coreFrame frame =>
    unfold handle
    refine Triple.get_bind ?_
    rintro s rfl
    split
    . exact (IsKept.pure ()).held hs s rfl
    . refine handleCoreFrame_step hs ?_ s rfl
      intro hkind hawaiting horphans
      exact hdrops ⟨frame, rfl, hkind, hawaiting, horphans⟩
  | coreGarbage error =>
    apply IsKept.held _ hs
    exact IsKept.get_bind fun _ => IsKept.ite (.pure _) (isKept_handleCoreGarbage _)
  | coreEof =>
    apply IsKept.held _ hs
    refine IsKept.bind isKept_abandonCore fun _ => ?_
    exact (IsQuiet.modify).kept
  | coreError _ | disconnected =>
    apply IsKept.held _ hs
    refine IsKept.bind isKept_abandonCore fun _ => ?_
    refine IsKept.bind isQuiet_noteTerminalError.kept fun _ => ?_
    exact (IsQuiet.modify).kept
  | coreExited result =>
    apply IsKept.held _ hs
    refine IsKept.bind isQuiet_closeCoreInput.kept fun _ => ?_
    refine IsKept.bind (IsQuiet.modify).kept fun _ => ?_
    refine IsKept.bind (isKept_noteExit _) fun _ => ?_
    refine IsKept.get_bind fun _ => ?_
    apply IsKept.ite
    . exact (IsQuiet.modify).kept
    . exact isKept_abandonCore
  | timeout expired =>
    apply IsKept.held _ hs
    exact IsKept.get_bind fun _ => isKept_expire.onlyIf

abbrev Balanced (r : Prop) (s : Loop) : Prop :=
  Account (fun _ => True) True r [] [] (fun _ => True) s

theorem balanced_start {journal : TransportJournal} (outcomes : Nat → Option String) :
    Balanced r (Loop.start options connectionId journal outcomes) where
  balance := .refl _
  closed := fun _ => rfl
  events := ⟨[], rfl, by simp⟩
  wrote := by
    intro _ event hmem
    cases hmem
  gates := trivial

theorem Account.restart {p' : RunTurnFrame → Prop} {q' r' : Prop} {log : List Event}
    {G : TransportHandshake → Prop} (h : Account p q r log [] G s) :
    Account p' q' r' s.log [] (fun _ => True) s :=
  { h with
    events := ⟨[], (List.append_nil s.log).symm, by simp⟩
    gates := trivial }

theorem Event.Within.widen {event : Event} (h : event.Within p q r) :
    event.Within (fun _ => True) True r := by
  cases event with
  | sent _ | discarded _ => exact h
  | _ => trivial

theorem Account.extend {G : TransportHandshake → Prop} (h : Balanced r s)
    (h' : Account p q r s.log [] G s') : Balanced r s' := by
  refine { h' with events := ⟨s'.log, rfl, ?_⟩, gates := trivial }
  obtain ⟨before, hbefore, hwithin⟩ := h.events
  obtain ⟨events, hlog, hevents⟩ := h'.events
  rw [hlog, hbefore]
  exact List.forall_mem_append.mpr ⟨hwithin, fun event hmem => (hevents event hmem).widen⟩

theorem balanced_step {x : Unit} (h : Balanced r s) {message : Message}
    (hdrops : Forgets ext s message → r) (hrun : handle ext options message s = .ok (x, s')) :
    Balanced r s' := by
  cases handle_step (fun _ _ => h.restart) hdrops s rfl x s' hrun with
  | held h' | opened h' | rejected h' => exact h.extend h'

def Avoids (ext : Externals) (options : Options) (C : Loop → Message → Prop) :
    List Message → Loop → Prop
  | [], _ => True
  | message :: messages, s => s.isDone = true ∨ (¬ C s message
    ∧ ∀ s', handle ext options message s = .ok ((), s') → Avoids ext options C messages s')

theorem Avoids.mono {C C' : Loop → Message → Prop} (h : Avoids ext options C messages s)
    (himp : ∀ s message, C' s message → C s message) : Avoids ext options C' messages s := by
  induction messages generalizing s with
  | nil => trivial
  | cons message messages ih =>
    cases h with
    | inl hdone => exact .inl hdone
    | inr h => exact .inr ⟨fun hc => h.1 (himp s message hc), fun s' hs' => ih (h.2 s' hs')⟩

theorem avoids_of_forall {C : Loop → Message → Prop} (h : ∀ message ∈ messages, ∀ s, ¬ C s message)
    (s : Loop) : Avoids ext options C messages s := by
  induction messages generalizing s with
  | nil => trivial
  | cons message messages ih =>
    obtain ⟨hmessage, hmessages⟩ := List.forall_mem_cons.mp h
    exact .inr ⟨hmessage s, fun s' _ => ih hmessages s'⟩

theorem balanced_runLoop (h : Balanced r s)
    (havoids : Avoids ext options (fun s message => Forgets ext s message ∧ ¬ r) messages s)
    (hrun : runLoop ext options messages s = .ok s') : Balanced r s' := by
  induction messages generalizing s with
  | nil =>
    cases hrun
    exact h
  | cons message messages ih =>
    unfold runLoop at hrun
    split at hrun
    next =>
      cases hrun
      exact h
    next hdone =>
      cases hstep : handle ext options message s with
      | error error =>
        rw [hstep] at hrun
        cases hrun
      | ok result =>
        rw [hstep] at hrun
        cases havoids with
        | inl hfinished => exact absurd hfinished hdone
        | inr havoids =>
          obtain ⟨hcond, havoids⟩ := havoids
          refine ih (balanced_step h ?_ hstep) (havoids result.2 hstep) hrun
          intro hforgets
          exact Classical.byContradiction fun hr => hcond ⟨hforgets, hr⟩

end Loop

end Transport
