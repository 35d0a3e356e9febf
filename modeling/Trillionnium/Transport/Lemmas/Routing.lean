import Trillionnium.Transport.Lemmas.Deferred

/-!
Which request a frame of the core is attributed to, over histories of registrations, forwardings and
frames. A frame may be routed later than it arrives.
-/

namespace Transport

open Host (Externals frameHostError saturatingSucc)
open Json Protocol BrokerRequestBinding

namespace BrokerBindingIntent

structure Answers (frame : RunTurnFrame) (intent : BrokerBindingIntent) : Prop where
  forwarded : intent.forwarded = true
  lineage : intent.lineageMatches frame = true
  after : intent.coreSeqAfter frame = true
  digest : intent.digestMatches frame = true

def identity (intent : BrokerBindingIntent) : BrokerBindingIntent :=
  { intent with forwarded := false, established := false }

end BrokerBindingIntent

section Apply

variable {binding : BrokerRequestBinding} {frame bound : RunTurnFrame}

theorem apply_eq (h : binding.apply frame = .ok bound) :
    bound = binding.fields.foldl (fun frame field => setExtension frame field.1 field.2) frame := by
  unfold apply fields at h
  split at h
  . obtain ⟨first, hfirst, h⟩ := Except.bind_eq_ok.mp h
    obtain ⟨second, hsecond, h⟩ := Except.bind_eq_ok.mp h
    obtain ⟨third, hthird, h⟩ := Except.bind_eq_ok.mp h
    obtain ⟨_, rfl⟩ := applyField_eq_ok_iff.mp hfirst
    obtain ⟨_, rfl⟩ := applyField_eq_ok_iff.mp hsecond
    obtain ⟨_, rfl⟩ := applyField_eq_ok_iff.mp hthird
    cases h
    rfl
  . cases h

theorem answers_of_apply (h : binding.apply frame = .ok bound) {intent : BrokerBindingIntent}
    (hanswers : intent.Answers bound) : intent.Answers frame := by
  have hafter : intent.coreSeqAfter bound = intent.coreSeqAfter frame := by
    rw [apply_eq h]
    unfold BrokerBindingIntent.coreSeqAfter fields
    simp only [List.foldl_cons, List.foldl_nil]
    rw [extension?_setExtension_ne (by decide), extension?_setExtension_ne (by decide),
      extension?_setExtension_ne (by decide)]
  obtain ⟨hforwarded, hlineage, hseq, hdigest⟩ := hanswers
  rw [hafter] at hseq
  rw [apply_eq h] at hlineage hdigest
  exact ⟨hforwarded, hlineage, hseq, hdigest⟩

end Apply

namespace BrokerBindingRouter

variable {router : BrokerBindingRouter} {frame : RunTurnFrame}

def route (router : BrokerBindingRouter) (frame : RunTurnFrame) :
    Option BrokerRequestBinding × BrokerBindingRouter :=
  match router.peek frame with
  | none => (none, router)
  | some candidate =>
    match candidate.apply frame with
    | .error _ => (none, router)
    | .ok validated => router.select validated

theorem errorRoute_eq_some {pending active : Nat} {r : BrokerResponseRoute}
    (h : router.errorRoute frame pending active = some r) :
    r = .pending pending ∨ r = .active active := by
  unfold errorRoute at h
  split at h
  . split_ifs at h <;> cases h <;> simp
  . cases h

theorem responseRoute_eq_some (h : router.responseRoute frame = some r) :
    (∃ index, r = .pending index ∧ router.matchingPendingIndex frame = some index)
    ∨ ∃ index, r = .active index ∧ router.matchingActiveIndex frame = some index := by
  unfold responseRoute at h
  split at h
  next pending active hpending hactive =>
    have hr : r = .pending pending ∨ r = .active active := by
      rcases Option.or_eq_some_iff.mp h with h | ⟨_, h⟩
      . split_ifs at h
        exact errorRoute_eq_some h
      . exact .inl (Option.some.inj h).symm
    rcases hr with rfl | rfl
    . exact .inl ⟨pending, rfl, hpending⟩
    . exact .inr ⟨active, rfl, hactive⟩
  next pending hpending _ =>
    cases h
    exact .inl ⟨pending, rfl, hpending⟩
  next active _ hactive =>
    cases h
    exact .inr ⟨active, rfl, hactive⟩
  . cases h

def queue (router : BrokerBindingRouter) (starts : Bool) : List BrokerBindingIntent :=
  if starts then router.active else router.pending

inductive Routes (router : BrokerBindingRouter) (frame : RunTurnFrame) :
    Option BrokerRequestBinding × BrokerBindingRouter → Prop where
  | unbound : Routes router frame (none, router)
  | taken (starts : Bool) {i : Nat} {intent : BrokerBindingIntent} {router' : BrokerBindingRouter}
      (hget : (router.queue starts)[i]? = some intent) (h : intent.Answers frame)
      (hqueue : router'.queue starts = (router.queue starts).eraseIdx i)
      (hother : router'.queue (!starts) = router.queue !starts)
      (hordinals : router'.nextCoreOrdinal = router.nextCoreOrdinal
        ∧ router'.lastCoreOrdinal = router.lastCoreOrdinal) :
    Routes router frame (some intent.binding, router')
  | established {i : Nat} {intent : BrokerBindingIntent} (hget : router.active[i]? = some intent)
      (h : intent.Answers frame) (hterminal : intent.activeTerminal frame = false) :
    Routes router frame
      (some intent.binding, { router with active := router.active.set i (establish intent) })

theorem routes_select (router : BrokerBindingRouter) (frame : RunTurnFrame) :
    router.Routes frame (router.select frame) := by
  unfold select
  split
  next i hroute =>
    obtain ⟨_, heq, hindex⟩ | ⟨_, heq, _⟩ := responseRoute_eq_some hroute
    . cases heq
      obtain ⟨hlt, h, _⟩ := List.findIdx?_eq_some_iff_getElem.mp hindex
      simp only [BrokerBindingIntent.matchesPending, Bool.and_eq_true] at h
      have hget := List.getElem?_eq_getElem hlt
      rw [hget]
      exact .taken false hget ⟨h.1.1.1.1.1, h.1.1.1.1.2, h.1.1.1.2, h.2⟩ rfl rfl ⟨rfl, rfl⟩
    . cases heq
  next i hroute =>
    obtain ⟨_, heq, _⟩ | ⟨_, heq, hindex⟩ := responseRoute_eq_some hroute
    . cases heq
    . cases heq
      obtain ⟨hlt, h, _⟩ := List.findIdx?_eq_some_iff_getElem.mp hindex
      simp only [BrokerBindingIntent.matchesActive, Bool.and_eq_true] at h
      have hget := List.getElem?_eq_getElem hlt
      have hanswers : router.active[i].Answers frame :=
        ⟨h.1.1.1.1.1, h.1.1.1.1.2, h.1.1.1.2, h.1.2⟩
      rw [hget]
      simp only [selectActive, h.2, if_true]
      split
      . exact .taken true hget hanswers rfl rfl ⟨rfl, rfl⟩
      next hterminal => exact .established hget hanswers (Bool.eq_false_iff.mpr hterminal)
  . exact .unbound

theorem routes_route (router : BrokerBindingRouter) (frame : RunTurnFrame) :
    router.Routes frame (router.route frame) := by
  unfold route
  split
  . exact .unbound
  next candidate _ =>
    cases happly : candidate.apply frame with
    | error e => exact .unbound
    | ok validated =>
      have hroutes := router.routes_select validated
      dsimp only
      generalize router.select validated = result at hroutes
      cases hroutes with
      | unbound => exact .unbound
      | taken starts hget h hqueue hother hordinals =>
        exact .taken starts hget (answers_of_apply happly h) hqueue hother hordinals
      | established hget h hterminal =>
        rw [apply_eq happly] at hterminal
        exact .established hget (answers_of_apply happly h) hterminal

theorem register_eq_ok {request : RunTurnFrame} {binding : BrokerRequestBinding}
    (h : router.register ext request (some binding) = .ok router') :
    ∃ intent : BrokerBindingIntent, intent.binding = binding ∧ intent.requestKind = request.kind
      ∧ BrokerLineage.fromFrame request = .ok intent.lineage
      ∧ intent.requestDigest = requestDigest ext request
      ∧ intent.coreFloor = router.lastCoreOrdinal ∧ intent.forwarded = false
      ∧ router'.queue (isStart request.kind) = router.queue (isStart request.kind) ++ [intent]
      ∧ router'.queue (!isStart request.kind) = router.queue !isStart request.kind
      ∧ router'.nextCoreOrdinal = router.nextCoreOrdinal
      ∧ router'.lastCoreOrdinal = router.lastCoreOrdinal := by
  unfold register at h
  obtain ⟨lineage, hlineage, h⟩ := Except.bind_eq_ok.mp h
  obtain ⟨_, _, h⟩ := Except.bind_eq_ok.mp h
  refine ⟨{
    binding
    requestKind := request.kind
    lineage
    requestDigest := requestDigest ext request
    operationId := text? request.payload "operation_id"
    coreFloor := router.lastCoreOrdinal
    forwarded := false
    established := false }, rfl, rfl, hlineage, rfl, rfl, rfl, ?_⟩
  generalize isStart request.kind = starts at h ⊢
  cases starts <;> cases h <;> exact ⟨rfl, rfl, rfl, rfl⟩

structure Keeps (forwarded : Option BrokerRequestBinding) (q q' : List BrokerBindingIntent) :
    Prop where
  identity : (q'.map BrokerBindingIntent.identity).Sublist (q.map BrokerBindingIntent.identity)
  forwarded : ∀ intent' ∈ q', intent'.forwarded = true →
    (∃ intent ∈ q, intent.identity = intent'.identity ∧ intent.forwarded = true)
      ∨ forwarded = some intent'.binding

section Keeps

variable {forwarded : Option BrokerRequestBinding} {q q' : List BrokerBindingIntent}

theorem Keeps.of_sublist (h : q'.Sublist q) : Keeps forwarded q q' where
  identity := h.map _
  forwarded intent' hmem hforwarded := .inl ⟨intent', h.mem hmem, rfl, hforwarded⟩

theorem Keeps.bindings (h : Keeps forwarded q q') :
    (q'.map BrokerBindingIntent.binding).Sublist (q.map BrokerBindingIntent.binding) := by
  have hsub := h.identity.map BrokerBindingIntent.binding
  rw [List.map_map, List.map_map] at hsub
  exact hsub

theorem keeps_establish {i : Nat} (hget : q[i]? = some intent) :
    Keeps forwarded q (q.set i (establish intent)) := by
  obtain ⟨hlt, rfl⟩ := List.getElem?_eq_some_iff.mp hget
  constructor
  . have hlt' : i < (q.map BrokerBindingIntent.identity).length := by simpa using hlt
    have hsame : (establish q[i]).identity = (q.map BrokerBindingIntent.identity)[i] := by
      rw [List.getElem_map]
      rfl
    rw [List.map_set, hsame, List.set_getElem_self]
  . intro intent' hmem hforwarded
    rcases List.mem_or_eq_of_mem_set hmem with hmem | rfl
    . exact .inl ⟨intent', hmem, rfl, hforwarded⟩
    . exact .inl ⟨q[i], List.getElem_mem hlt, rfl, hforwarded⟩

theorem keeps_forward {binding : BrokerRequestBinding} :
    Keeps (some binding) q
      (modifyFirst (fun intent => { intent with forwarded := true }) binding q) := by
  induction q with
  | nil => exact .of_sublist (.refl _)
  | cons intent q ih =>
    unfold modifyFirst
    split
    next heq =>
      refine ⟨.refl _, ?_⟩
      intro intent' hmem hforwarded
      rcases List.mem_cons.mp hmem with rfl | hmem
      . exact .inr (congrArg some heq.symm)
      . exact .inl ⟨intent', List.mem_cons_of_mem _ hmem, rfl, hforwarded⟩
    next =>
      refine ⟨ih.identity.cons_cons _, ?_⟩
      intro intent' hmem hforwarded
      rcases List.mem_cons.mp hmem with rfl | hmem
      . exact .inl ⟨intent', List.mem_cons_self, rfl, hforwarded⟩
      . rcases ih.forwarded intent' hmem hforwarded with ⟨intent, hmem, h⟩ | h
        . exact .inl ⟨intent, List.mem_cons_of_mem _ hmem, h⟩
        . exact .inr h

theorem Routes.keeps {result : Option BrokerRequestBinding × BrokerBindingRouter}
    (h : router.Routes frame result) (starts : Bool) :
    Keeps none (router.queue starts) (result.2.queue starts) := by
  cases h with
  | unbound => exact .of_sublist (.refl _)
  | taken starts' hget h hqueue hother =>
    apply Keeps.of_sublist
    by_cases heq : starts = starts'
    . rw [heq, hqueue]
      apply List.eraseIdx_sublist
    . rw [Bool.eq_not_of_ne heq, hother]
  | established hget h =>
    cases starts with
    | false => exact .of_sublist (.refl _)
    | true => exact keeps_establish hget

end Keeps

end BrokerBindingRouter

structure Routing where
  router : BrokerBindingRouter
  arrived : List RunTurnFrame

namespace Routing

open BrokerBindingRouter (Keeps isStart)
open Machine

inductive Op where
  | register (request : RunTurnFrame) (binding : Option BrokerRequestBinding)
  | forward (binding : Option BrokerRequestBinding)
  | arrive (frame : RunTurnFrame)
  | route (index : Nat)

inductive Answer where
  | registered (accepted : Bool)
  | done
  | attached (binding : Option BrokerRequestBinding)

def step (ext : Externals) (s : Routing) : Op → Routing × Answer
  | .register request binding =>
    match s.router.register ext request binding with
    | .ok router => ({ s with router }, .registered true)
    | .error _ => (s, .registered false)
  | .forward binding => ({ s with router := s.router.markForwarded binding }, .done)
  | .arrive frame =>
    (⟨(s.router.observeCore frame).2, s.arrived ++ [(s.router.observeCore frame).1]⟩, .done)
  | .route index =>
    match s.arrived[index]? with
    | some frame =>
      ({ s with router := (s.router.route frame).2 }, .attached (s.router.route frame).1)
    | none => (s, .attached none)

def start : Routing := ⟨.default, []⟩

section History

variable (ext : Externals) (ops : List Op)

abbrev stateAt (k : Nat) : Routing := before (step ext) start ops k

def Registers (j : Nat) (request : RunTurnFrame) (binding : BrokerRequestBinding) : Prop :=
  At (step ext) start ops j (.register request (some binding)) (.registered true)

def Attaches (r index : Nat) (binding : BrokerRequestBinding) : Prop :=
  At (step ext) start ops r (.route index) (.attached (some binding))

def DistinctBindings : Prop :=
  ∀ {i j request request' binding}, Registers ext ops i request binding →
    Registers ext ops j request' binding → i = j

def Arrives (k i a : Nat) (frame : RunTurnFrame) : Prop :=
  a < k ∧ ops[a]? = some (.arrive frame) ∧ (stateAt ext ops a).arrived.length = i

structure Origin (k : Nat) (intent : BrokerBindingIntent) (j : Nat) (request : RunTurnFrame) :
    Prop where
  lt : j < k
  registers : Registers ext ops j request intent.binding
  kind : intent.requestKind = request.kind
  lineage : BrokerLineage.fromFrame request = .ok intent.lineage
  digest : intent.requestDigest = requestDigest ext request
  floor : intent.coreFloor = (stateAt ext ops j).router.lastCoreOrdinal
  forwarded : intent.forwarded = true →
    ∃ f, j < f ∧ f < k ∧ ops[f]? = some (.forward (some intent.binding))

structure Traced (k : Nat) (starts : Bool) (q : List BrokerBindingIntent) : Prop where
  nodup : (q.map BrokerBindingIntent.binding).Nodup
  origin : ∀ intent ∈ q, ∃ j request, Origin ext ops k intent j request
    ∧ isStart request.kind = starts

structure Echoes (request frame : RunTurnFrame) : Prop where
  lineage : ∃ expected actual, BrokerLineage.fromFrame request = .ok expected
    ∧ BrokerLineage.fromFrame frame = .ok actual
    ∧ if request.kind = frameHello then
        { actual with turnStreamId := none } = BrokerLineage.empty
      else
        ∀ (i : Nat) (member : String), expected.members[i]? = some (some member) →
          actual.members[i]? = some (some member)
  digest : ∀ digest, requestDigest ext request = some digest → responseDigest frame = some digest

variable {ext ops} {k j index a : Nat} {intent intent' : BrokerBindingIntent}
  {request frame : RunTurnFrame} {binding : BrokerRequestBinding}

inductive Changes (ext : Externals) (s : Routing) (op : Op) (starts : Bool) : Prop where
  | kept {forwarded : Option BrokerRequestBinding}
      (hforward : ∀ binding, forwarded = some binding → op = .forward (some binding))
      (h : Keeps forwarded (s.router.queue starts) ((step ext s op).1.router.queue starts))
  | added {request : RunTurnFrame} {intent : BrokerBindingIntent}
      (hop : op = .register request (some intent.binding))
      (hout : (step ext s op).2 = .registered true) (hstarts : isStart request.kind = starts)
      (h : intent.requestKind = request.kind
        ∧ BrokerLineage.fromFrame request = .ok intent.lineage
        ∧ intent.requestDigest = requestDigest ext request
        ∧ intent.coreFloor = s.router.lastCoreOrdinal ∧ intent.forwarded = false)
      (hqueue : (step ext s op).1.router.queue starts = s.router.queue starts ++ [intent])

theorem changes_step (s : Routing) (op : Op) (starts : Bool) : Changes ext s op starts := by
  have hsame : Keeps none (s.router.queue starts) (s.router.queue starts) := .of_sublist (.refl _)
  have hnone : ∀ binding, (none : Option BrokerRequestBinding) = some binding →
      op = .forward (some binding) := by
    intro binding heq
    cases heq
  cases op with
  | register request binding =>
    cases hregister : s.router.register ext request binding with
    | error e =>
      apply Changes.kept hnone
      simp only [step, hregister]
      exact hsame
    | ok router =>
      cases binding with
      | none =>
        cases hregister
        exact .kept hnone hsame
      | some binding =>
        obtain ⟨intent, rfl, hkind, hlineage, hdigest, hfloor, hforwarded, hqueue, hother, _⟩ :=
          BrokerBindingRouter.register_eq_ok hregister
        by_cases hstarts : isStart request.kind = starts
        . subst hstarts
          refine .added rfl ?_ rfl ⟨hkind, hlineage, hdigest, hfloor, hforwarded⟩ ?_
          . simp only [step, hregister]
          . simp only [step, hregister]
            exact hqueue
        . apply Changes.kept hnone
          simp only [step, hregister]
          rw [Bool.eq_not_of_ne (Ne.symm hstarts), hother]
          exact .of_sublist (.refl _)
  | forward binding =>
    cases binding with
    | none => exact .kept hnone hsame
    | some binding =>
      have hforward : Keeps (some binding) (s.router.queue starts) _ :=
        BrokerBindingRouter.keeps_forward
      refine .kept (fun binding' (heq : some binding = some binding') => by rw [heq]) ?_
      cases starts <;> exact hforward
  | arrive frame => exact .kept hnone hsame
  | route index =>
    apply Changes.kept hnone
    simp only [step]
    split
    next frame _ => exact (s.router.routes_route frame).keeps starts
    next => exact hsame

theorem stateAt_succ (h : ops[k]? = some op) :
    stateAt ext ops (k + 1) = (step ext (stateAt ext ops k) op).1 :=
  before_succ h

theorem stateAt_succ_of_none (h : ops[k]? = none) :
    stateAt ext ops (k + 1) = stateAt ext ops k :=
  before_succ_of_none h

theorem Origin.of_identity (h : Origin ext ops k intent j request)
    (hidentity : intent.identity = intent'.identity)
    (hforwarded : intent'.forwarded = true → intent.forwarded = true
      ∨ ops[k]? = some (.forward (some intent'.binding))) :
    Origin ext ops (k + 1) intent' j request := by
  have hbinding : intent.binding = intent'.binding := congrArg (·.binding) hidentity
  constructor
  . exact Nat.lt_succ_of_lt h.lt
  . rw [← hbinding]
    exact h.registers
  . exact (congrArg (·.requestKind) hidentity).symm.trans h.kind
  . exact h.lineage.trans (congrArg (Except.ok ·.lineage) hidentity)
  . exact (congrArg (·.requestDigest) hidentity).symm.trans h.digest
  . exact (congrArg (·.coreFloor) hidentity).symm.trans h.floor
  . intro hset
    rcases hforwarded hset with hset | hop
    . obtain ⟨f, hjf, hfk, hop⟩ := h.forwarded hset
      rw [hbinding] at hop
      exact ⟨f, hjf, Nat.lt_succ_of_lt hfk, hop⟩
    . exact ⟨k, h.lt, Nat.lt_succ_self k, hop⟩

theorem traced_before (hdistinct : DistinctBindings ext ops) (k : Nat) (starts : Bool) :
    Traced ext ops k starts ((stateAt ext ops k).router.queue starts) := by
  induction k with
  | zero => cases starts <;> exact ⟨List.nodup_nil, fun _ hmem => by cases hmem⟩
  | succ k ih =>
    have hold : ∀ {intent intent'}, intent ∈ (stateAt ext ops k).router.queue starts →
        intent.identity = intent'.identity → (intent'.forwarded = true → intent.forwarded = true
          ∨ ops[k]? = some (.forward (some intent'.binding))) →
        ∃ j request, Origin ext ops (k + 1) intent' j request ∧ isStart request.kind = starts := by
      intro intent intent' hmem hidentity hforwarded
      obtain ⟨j, request, horigin, hstarts⟩ := ih.origin intent hmem
      exact ⟨j, request, horigin.of_identity hidentity hforwarded, hstarts⟩
    cases hop : ops[k]? with
    | none =>
      rw [stateAt_succ_of_none hop]
      exact ⟨ih.nodup, fun intent hmem => hold hmem rfl .inl⟩
    | some op =>
      rw [stateAt_succ hop]
      cases @changes_step ext (stateAt ext ops k) op starts with
      | @added request intent hregister hout hstarts h hqueue =>
        rw [hregister] at hop hout
        have hregisters : Registers ext ops k request intent.binding := ⟨hop, hout⟩
        rw [hqueue]
        constructor
        . rw [List.map_append, List.nodup_append]
          refine ⟨ih.nodup, List.nodup_singleton _, ?_⟩
          intro b hb b' hb' heq
          obtain ⟨intent', hmem, rfl⟩ := List.mem_map.mp hb
          obtain ⟨j, request', horigin, _⟩ := ih.origin intent' hmem
          rw [List.mem_singleton.mp hb'] at heq
          rw [← heq] at hregisters
          exact absurd (hdistinct horigin.registers hregisters) (Nat.ne_of_lt horigin.lt)
        . intro intent' hmem
          rcases List.mem_append.mp hmem with hmem | hmem
          . exact hold hmem rfl .inl
          . rw [List.mem_singleton.mp hmem]
            obtain ⟨hkind, hlineage, hdigest, hfloor, hforwarded⟩ := h
            refine ⟨k, request, ⟨Nat.lt_succ_self k, hregisters, hkind, hlineage, hdigest, hfloor, ?_⟩,
              hstarts⟩
            simp [hforwarded]
      | kept hforward h =>
        refine ⟨ih.nodup.sublist h.bindings, ?_⟩
        intro intent' hmem
        by_cases hset : intent'.forwarded = true ∧ ∃ intent ∈ (stateAt ext ops k).router.queue starts,
            intent.identity = intent'.identity ∧ intent.forwarded = true
        . obtain ⟨_, intent, hintent, hidentity, hwas⟩ := hset
          exact hold hintent hidentity fun _ => .inl hwas
        . obtain ⟨intent, hintent, hidentity⟩ :=
            List.mem_map.mp (h.identity.mem (List.mem_map_of_mem hmem))
          apply hold hintent hidentity
          intro hnow
          have hfrom := (h.forwarded intent' hmem hnow).resolve_left fun hwas => hset ⟨hnow, hwas⟩
          exact .inr (hop.trans (congrArg some (hforward _ hfrom)))

structure Counted (s : Routing) : Prop where
  next : s.router.nextCoreOrdinal.val = min s.arrived.length (2 ^ 64 - 1)
  last : ∀ n, (∀ floor ∈ s.router.lastCoreOrdinal, floor.val < min n (2 ^ 64 - 1)) →
    s.arrived.length ≤ n

theorem step_unnumbered (s : Routing) (op : Op) :
    (∃ frame, op = .arrive frame)
    ∨ ((step ext s op).1.arrived = s.arrived
      ∧ (step ext s op).1.router.nextCoreOrdinal = s.router.nextCoreOrdinal
      ∧ (step ext s op).1.router.lastCoreOrdinal = s.router.lastCoreOrdinal) := by
  cases op with
  | register request binding =>
    right
    simp only [step]
    cases hregister : s.router.register ext request binding with
    | error e => exact ⟨rfl, rfl, rfl⟩
    | ok router =>
      cases binding with
      | none =>
        cases hregister
        exact ⟨rfl, rfl, rfl⟩
      | some binding =>
        obtain ⟨_, _, _, _, _, _, _, _, _, hordinals⟩ :=
          BrokerBindingRouter.register_eq_ok hregister
        exact ⟨rfl, hordinals⟩
  | forward binding => cases binding <;> exact .inr ⟨rfl, rfl, rfl⟩
  | arrive frame => exact .inl ⟨frame, rfl⟩
  | route index =>
    right
    simp only [step]
    split
    next frame _ =>
      have hroutes := s.router.routes_route frame
      generalize s.router.route frame = result at hroutes
      cases hroutes with
      | taken starts hget h hqueue hother hordinals => exact ⟨rfl, hordinals⟩
      | _ => exact ⟨rfl, rfl, rfl⟩
    next => exact ⟨rfl, rfl, rfl⟩

theorem counted_before (ext : Externals) (ops : List Op) (k : Nat) :
    Counted (stateAt ext ops k) := by
  apply before_invariant
  . exact ⟨rfl, fun _ _ => Nat.zero_le _⟩
  . intro s op h
    rcases @step_unnumbered ext s op with ⟨frame, rfl⟩ | ⟨harrived, hnext, hlast⟩
    . have hnext := h.next
      constructor
      . simp only [step, BrokerBindingRouter.observeCore, saturatingSucc, List.length_append,
          List.length_singleton]
        omega
      . intro n hn
        have hlt := hn s.router.nextCoreOrdinal rfl
        simp only [step, List.length_append, List.length_singleton]
        omega
    . constructor
      . rw [harrived, hnext]
        exact h.next
      . rw [harrived, hlast]
        exact h.last

theorem arrived_before (h : (stateAt ext ops k).arrived[index]? = some stamped) :
    ∃ a frame, Arrives ext ops k index a frame
      ∧ stamped = ((stateAt ext ops a).router.observeCore frame).1 := by
  induction k with
  | zero => cases h
  | succ k ih =>
    have hold : ∀ a frame, Arrives ext ops k index a frame → Arrives ext ops (k + 1) index a frame :=
      fun a frame harrives => ⟨Nat.lt_succ_of_lt harrives.1, harrives.2⟩
    have hearlier := fun h => (ih h).imp fun a => Exists.imp fun frame => And.imp_left (hold a frame)
    cases hop : ops[k]? with
    | none =>
      rw [stateAt_succ_of_none hop] at h
      exact hearlier h
    | some op =>
      rw [stateAt_succ hop] at h
      rcases @step_unnumbered ext (stateAt ext ops k) op with ⟨frame, rfl⟩ | ⟨harrived, _⟩
      . simp only [step, List.getElem?_append] at h
        split at h
        . exact hearlier h
        . rw [List.getElem?_singleton] at h
          split at h
          . cases h
            exact ⟨k, frame, ⟨Nat.lt_succ_self k, hop, by omega⟩, rfl⟩
          . cases h
      . rw [harrived] at h
        exact hearlier h

theorem find?_insertExtension_self {name : String} {x : Document} :
    (insertExtension name x extensions).find? (·.1 == name) = some (name, x) := by
  induction extensions with
  | nil => simp [insertExtension]
  | cons entry extensions ih =>
    unfold insertExtension
    split_ifs with hlt heq
    . simp
    . simp
    . rw [List.find?_cons_of_neg, ih]
      simpa using Ne.symm heq

theorem lt_of_coreSeqAfter (harrives : Arrives ext ops k index a frame)
    (horigin : Origin ext ops k intent j request)
    (h : intent.coreSeqAfter ((stateAt ext ops a).router.observeCore frame).1 = true) : j < a := by
  obtain ⟨_, hop, hindex⟩ := harrives
  have hnext := (counted_before ext ops a).next
  have hordinal : (extension? ((stateAt ext ops a).router.observeCore frame).1
      "transport_core_ordinal").bind (·.asNat.toOption)
        = some (stateAt ext ops a).router.nextCoreOrdinal.val := by
    unfold extension? BrokerBindingRouter.observeCore setExtension
    dsimp only
    rw [find?_insertExtension_self]
    rfl
  have hlength : (stateAt ext ops j).arrived.length ≤ index := by
    apply (counted_before ext ops j).last
    intro floor hfloor
    unfold BrokerBindingIntent.coreSeqAfter at h
    rw [horigin.floor, hordinal, Option.mem_def.mp hfloor] at h
    have hgt := of_decide_eq_true h
    omega
  by_contra hle
  have hne : a ≠ j := by
    rintro rfl
    cases hop.symm.trans horigin.registers.1
  have hgrows : ∀ s op, s.arrived.length ≤ (step ext s op).1.arrived.length := by
    intro s op
    rcases @step_unnumbered ext s op with ⟨frame, rfl⟩ | ⟨harrived, _⟩
    . simp [step]
    . rw [harrived]
  have hmono : (stateAt ext ops (a + 1)).arrived.length ≤ (stateAt ext ops j).arrived.length :=
    before_mono start ops hgrows (by omega)
  rw [stateAt_succ hop] at hmono
  simp only [step, List.length_append, List.length_singleton] at hmono
  omega

def Gone (s : Routing) (binding : BrokerRequestBinding) : Prop :=
  ∀ starts, binding ∉ (s.router.queue starts).map BrokerBindingIntent.binding

theorem gone_before (hdistinct : DistinctBindings ext ops)
    (hregisters : Registers ext ops j request binding) (hjk : j < k)
    (h : Gone (stateAt ext ops k) binding) (hk : k ≤ k') : Gone (stateAt ext ops k') binding := by
  apply before_of_le hk (P := (Gone · binding)) h
  intro i op hki _ hop ih starts hmem
  cases @changes_step ext (stateAt ext ops i) op starts with
  | @added request' intent hregister hout hstarts _ hqueue =>
    rw [hqueue, List.map_append, List.mem_append, List.map_singleton, List.mem_singleton] at hmem
    rcases hmem with hmem | rfl
    . exact ih starts hmem
    . rw [hregister] at hop hout
      have heq := hdistinct hregisters ⟨hop, hout⟩
      omega
  | kept _ hkeeps => exact ih starts (hkeeps.bindings.mem hmem)

theorem echoes_of_answers (horigin : Origin ext ops k intent j request)
    {s : Routing} (hanswers : intent.Answers (s.router.observeCore frame).1) :
    Echoes ext request frame := by
  constructor
  . have hlineage := hanswers.lineage
    unfold BrokerBindingIntent.lineageMatches at hlineage
    split at hlineage
    . cases hlineage
    next actual hactual =>
      refine ⟨_, actual, horigin.lineage, hactual, ?_⟩
      rw [horigin.kind] at hlineage
      split at hlineage
      next hhello => simpa [hhello, BrokerLineage.isEmpty] using hlineage
      next hhello =>
        rw [if_neg hhello]
        intro i member hmember
        unfold BrokerLineage.matchesLineage at hlineage
        rw [Bool.and_eq_true, List.all_eq_true] at hlineage
        have hlt : i < actual.members.length := (List.getElem?_eq_some_iff.mp hmember).1
        have hget := List.getElem?_eq_getElem hlt
        have hpair := hlineage.2 (some member, actual.members[i])
          (List.mem_of_getElem? (List.getElem?_zip_eq_some.mpr ⟨hmember, hget⟩))
        have heq : some member = actual.members[i] := by simpa using hpair
        rw [hget, heq]
  . intro digest hrequest
    have hdigest := hanswers.digest
    unfold BrokerBindingIntent.digestMatches at hdigest
    rw [horigin.digest, hrequest] at hdigest
    split at hdigest
    next expected actual heq hactual =>
      cases heq
      rw [of_decide_eq_true hdigest]
      exact hactual
    . cases hdigest
    next heq => cases heq

theorem not_mem_eraseIdx {q : List BrokerBindingIntent} {i : Nat}
    (hnodup : (q.map BrokerBindingIntent.binding).Nodup) (hget : q[i]? = some intent) :
    intent.binding ∉ (q.eraseIdx i).map BrokerBindingIntent.binding := by
  rw [← List.eraseIdx_map]
  intro hmem
  obtain ⟨i', hne, hget'⟩ := List.mem_eraseIdx_iff_getElem?.mp hmem
  have hlt := (List.getElem?_eq_some_iff.mp hget').1
  apply hne
  apply (List.getElem?_inj hlt hnodup).mp
  rw [hget', List.getElem?_map, hget]
  rfl

theorem Origin.request_eq (hdistinct : DistinctBindings ext ops)
    (h : Origin ext ops k intent j request) (h' : Origin ext ops k' intent' j' request')
    (hbinding : intent'.binding = intent.binding) :
    j' = j ∧ request' = request := by
  have hregisters := h'.registers
  rw [hbinding] at hregisters
  cases hdistinct hregisters h.registers
  cases hregisters.1.symm.trans h.registers.1
  exact ⟨rfl, rfl⟩

structure Owns (ext : Externals) (ops : List Op) (r index : Nat) (stamped : RunTurnFrame)
    (j : Nat) (request : RunTurnFrame) (intent : BrokerBindingIntent) : Prop where
  arrived : (stateAt ext ops r).arrived[index]? = some stamped
  origin : Origin ext ops r intent j request
  answers : intent.Answers stamped
  gone : isStart request.kind = false ∨ intent.activeTerminal stamped = true →
    Gone (stateAt ext ops (r + 1)) intent.binding

theorem owns_of_attaches (hdistinct : DistinctBindings ext ops)
    (hattaches : Attaches ext ops r index binding) :
    (∃ starts, binding ∈ ((stateAt ext ops r).router.queue starts).map BrokerBindingIntent.binding)
    ∧ ∃ stamped j request intent, intent.binding = binding
      ∧ Owns ext ops r index stamped j request intent := by
  obtain ⟨hop, hout⟩ := hattaches
  have hafter := @stateAt_succ ext ops r _ hop
  simp only [step] at hout hafter
  split at hout
  next stamped harrived =>
    rw [harrived] at hafter
    dsimp only at hout hafter
    have hroutes := (stateAt ext ops r).router.routes_route stamped
    generalize (stateAt ext ops r).router.route stamped = result at hroutes hout hafter
    have htraced := traced_before hdistinct r
    cases hroutes with
    | unbound => cases hout
    | @taken starts i intent router' hget hanswers hqueue hother =>
      cases hout
      have hmem := List.mem_of_getElem? hget
      obtain ⟨j, request, horigin, hstarts⟩ := (htraced starts).origin intent hmem
      refine ⟨⟨starts, List.mem_map_of_mem hmem⟩, stamped, j, request, intent, rfl, harrived,
        horigin, hanswers, ?_⟩
      -- The other queue does not have the binding, because it has requests of the other kind.
      intro _ starts' hmem'
      rw [hafter] at hmem'
      by_cases heq : starts' = starts
      . rw [heq, hqueue] at hmem'
        exact not_mem_eraseIdx (htraced starts).nodup hget hmem'
      . rw [Bool.eq_not_of_ne heq, hother] at hmem'
        obtain ⟨intent', hmem', hbinding⟩ := List.mem_map.mp hmem'
        obtain ⟨j', request', horigin', hstarts'⟩ := (htraced _).origin intent' hmem'
        rw [(horigin.request_eq hdistinct horigin' hbinding).2, hstarts] at hstarts'
        simp at hstarts'
    | @established i intent hget hanswers hterminal =>
      cases hout
      have hmem := List.mem_of_getElem? hget
      obtain ⟨j, request, horigin, hstarts⟩ := (htraced true).origin intent hmem
      refine ⟨⟨true, List.mem_map_of_mem hmem⟩, stamped, j, request, intent, rfl, harrived,
        horigin, hanswers, ?_⟩
      simp [hstarts, hterminal]
  next => cases hout

def IsTerminalFor (request frame : RunTurnFrame) : Prop :=
  (request.kind = frameTurnStart ∧ frame.kind ∈ [frameTurnEnd, frameHostError])
    ∨ (request.kind = "job.start" ∧ frame.kind ∈ ["job.result", "job.error"])

theorem activeTerminal_of_isTerminalFor (hkind : intent.requestKind = request.kind)
    (h : IsTerminalFor request frame) : intent.activeTerminal frame = true := by
  unfold BrokerBindingIntent.activeTerminal
  rw [hkind]
  rcases h with ⟨hkind, hframe⟩ | ⟨hkind, hframe⟩
  . simp only [List.mem_cons, List.not_mem_nil, or_false] at hframe
    simp [hkind, hframe]
  . simp only [List.mem_cons, List.not_mem_nil, or_false] at hframe
    simp [hkind, hframe]

theorem attached_to_its_request (hdistinct : DistinctBindings ext ops) {r : Nat}
    (hattaches : Attaches ext ops r index binding) :
    ∃ j request a frame f, Registers ext ops j request binding ∧ Arrives ext ops r index a frame
      ∧ j < a ∧ j < f ∧ f < r ∧ ops[f]? = some (.forward (some binding))
      ∧ Echoes ext request frame
      ∧ (isStart request.kind = false →
        ∀ r' index', Attaches ext ops r' index' binding → r' = r)
      ∧ (IsTerminalFor request frame →
        ∀ r' index', r < r' → ¬Attaches ext ops r' index' binding) := by
  obtain ⟨_, stamped, j, request, intent, rfl, howns⟩ := owns_of_attaches hdistinct hattaches
  have horigin := howns.origin
  obtain ⟨a, frame, harrives, rfl⟩ := arrived_before howns.arrived
  obtain ⟨f, hjf, hfr, hforward⟩ := horigin.forwarded howns.answers.forwarded
  have hlater : ∀ {r}, j < r → Gone (stateAt ext ops (r + 1)) intent.binding →
      ∀ r' index', r < r' → ¬Attaches ext ops r' index' intent.binding := by
    intro r hjr hgone r' index' hlt hattaches'
    obtain ⟨starts', hmem⟩ := (owns_of_attaches hdistinct hattaches').1
    exact gone_before hdistinct horigin.registers (by omega) hgone hlt starts' hmem
  refine ⟨j, request, a, frame, f, horigin.registers, harrives,
    lt_of_coreSeqAfter harrives horigin howns.answers.after, hjf, hfr, hforward,
    echoes_of_answers horigin howns.answers, ?_, ?_⟩
  . intro honce r' index' hattaches'
    obtain ⟨_, _, j', request', intent', hbinding, howns'⟩ := owns_of_attaches hdistinct hattaches'
    obtain ⟨rfl, rfl⟩ := horigin.request_eq hdistinct howns'.origin hbinding
    have hgone' := howns'.gone (.inl honce)
    rw [hbinding] at hgone'
    rcases Nat.lt_trichotomy r' r with hlt | heq | hlt
    . exact absurd hattaches (hlater howns'.origin.lt hgone' r index hlt)
    . exact heq
    . exact absurd hattaches' (hlater horigin.lt (howns.gone (.inl honce)) r' index' hlt)
  . intro hterminal
    apply hlater horigin.lt
    apply howns.gone
    exact .inr (activeTerminal_of_isTerminalFor horigin.kind hterminal)

def sampleOps : List Op := [
  .register sampleGreeting.frame (some (sampleBinding "request-1")),
  .forward (some (sampleBinding "request-1")),
  .arrive sampleAck.frame,
  .route 0]

theorem attached_to_its_request_hello :
    ∃ j request f, Registers .reference sampleOps j request (sampleBinding "request-1")
      ∧ j < f ∧ f < 3 := by
  have hattaches : Attaches .reference sampleOps 3 0 (sampleBinding "request-1") := ⟨rfl, rfl⟩
  have hdistinct : DistinctBindings .reference sampleOps := by
    have hfirst : ∀ {i request binding},
        Registers .reference sampleOps i request binding → i = 0 := by
      rintro (_ | _ | _ | _ | i) request binding ⟨hop, _⟩
      . rfl
      all_goals cases hop
    intro i j request request' binding hi hj
    rw [hfirst hi, hfirst hj]
  obtain ⟨j, request, _, _, f, hregisters, _, _, hjf, hfr, _⟩ :=
    attached_to_its_request hdistinct hattaches
  exact ⟨j, request, f, hregisters, hjf, hfr⟩

end History

end Routing

end Transport
