import Trillionnium.CallRegistry.Lemmas.Step

namespace CallRegistry

variable {entry : Entry}

def EffectiveState.isNotStarted : EffectiveState → Bool
  | .cancelledBeforeSpawn | .provenNotStartedAfterDisconnect => true
  | _ => false

inductive DispatchState.Moves : DispatchState → DispatchState → Prop where
  | same : Moves dispatch dispatch
  | inhibit : Moves (.accepted inhibited) (.accepted true)
  | pid : Moves (.started generation none) (.started generation (some pid))
  | complete {terminal : TerminalRecord} :
    Moves (.started generation pid) (.terminal generation terminal)

namespace Entry

section pushEvent

variable (entry : Entry) (kind : CallEventKind) (maxHistory : Nat)

@[simp]
theorem dispatch_pushEvent : (entry.pushEvent kind maxHistory).dispatch = entry.dispatch := rfl

@[simp]
theorem cancellation_pushEvent :
    (entry.pushEvent kind maxHistory).cancellation = entry.cancellation := rfl

@[simp]
theorem connectionLost_pushEvent :
    (entry.pushEvent kind maxHistory).connectionLost = entry.connectionLost := rfl

end pushEvent

def isNotStarted (entry : Entry) : Prop :=
  ∃ inhibited, entry.dispatch = .accepted inhibited ∧ (inhibited || entry.cancellation) = true

def isFenced (entry : Entry) : Prop :=
  ∀ inhibited, entry.dispatch = .accepted inhibited → (inhibited || entry.cancellation) = true

structure Sound (entry : Entry) : Prop where
  lost : ∀ inhibited, entry.dispatch = .accepted inhibited → entry.connectionLost = true
    → inhibited = true
  history : entry.dispatch = .accepted false → entry.cancellation = false
    → entry.history.map CallEvent.kind = [.accepted]

theorem isFenced_of_started (h : entry.dispatch = .started generation pid) : entry.isFenced := by
  intro inhibited haccepted
  rw [h] at haccepted
  cases haccepted

theorem isNotStarted.isFenced (h : entry.isNotStarted) : entry.isFenced := by
  obtain ⟨inhibited, hdispatch, hclosed⟩ := h
  intro inhibited' hdispatch'
  rw [hdispatch] at hdispatch'
  cases hdispatch'
  exact hclosed

theorem sound_of_not_accepted (h : ∀ inhibited, entry.dispatch ≠ .accepted inhibited) :
    entry.Sound where
  lost := fun inhibited hdispatch => absurd hdispatch (h inhibited)
  history := fun hdispatch => absurd hdispatch (h false)

theorem Sound.isNotStarted_iff (h : entry.Sound) :
    entry.effectiveState.isNotStarted = true ↔ entry.isNotStarted := by
  unfold effectiveState isNotStarted
  cases hdispatch : entry.dispatch with
  | accepted inhibited =>
    have hlost := h.lost inhibited hdispatch
    cases hcancel : entry.cancellation with
    | true => simp [EffectiveState.isNotStarted]
    | false =>
      cases inhibited with
      | true => simp [EffectiveState.isNotStarted]
      | false =>
        have hconnected : entry.connectionLost = false := by
          simpa using hlost
        simp [EffectiveState.isNotStarted, hconnected]
  | started generation pid =>
    cases entry.connectionLost with
    | true | false => simp [EffectiveState.isNotStarted]
  | terminal generation terminal => simp [EffectiveState.isNotStarted]

theorem inhibit_eq_accepted {dispatch : DispatchState} (h : dispatch.inhibit = .accepted inhibited)
    : inhibited = true := by
  cases dispatch with
  | accepted _ =>
    cases h
    rfl
  | started _ _ | terminal _ _ => cases h

namespace Change

variable {maxHistory : Nat} {entry entry' : Entry}

section

variable (h : entry.Change maxHistory entry')
include h

theorem moves :
    entry.dispatch.Moves entry'.dispatch
      ∧ (entry.cancellation = true → entry'.cancellation = true) := by
  cases h with
  | same | attach _ => exact ⟨.same, id⟩
  | inhibit h => exact ⟨h ▸ .inhibit, id⟩
  | pid h => exact ⟨h ▸ .pid, id⟩
  | cancel _ | signal => exact ⟨.same, fun _ => rfl⟩
  | lose _ =>
    refine ⟨?_, id⟩
    change entry.dispatch.Moves entry.dispatch.inhibit
    cases entry.dispatch with
    | accepted inhibited => exact .inhibit
    | started _ _ | terminal _ _ => exact .same
  | complete h => exact ⟨h ▸ .complete, id⟩

theorem isFenced (hfenced : entry.isFenced) : entry'.isFenced := by
  obtain ⟨hmoves, hcancel⟩ := h.moves
  intro inhibited haccepted
  have hinhibited := hfenced inhibited
  rw [haccepted] at hmoves
  generalize entry.dispatch = dispatch at hmoves hinhibited
  cases hmoves with
  | same =>
    have hclosed := hinhibited rfl
    rw [Bool.or_eq_true] at hclosed ⊢
    exact hclosed.imp_right hcancel
  | inhibit => rfl

theorem isNotStarted (hclosed : entry.isNotStarted) : entry'.isNotStarted := by
  obtain ⟨inhibited, hdispatch, hinhibited⟩ := hclosed
  obtain ⟨hmoves, hcancel⟩ := h.moves
  rw [hdispatch] at hmoves
  generalize hafter : entry'.dispatch = dispatch at hmoves
  cases hmoves with
  | same =>
    refine ⟨inhibited, hafter, ?_⟩
    rw [Bool.or_eq_true] at hinhibited ⊢
    exact hinhibited.imp_right hcancel
  | inhibit => exact ⟨true, hafter, rfl⟩

theorem sound (hsound : entry.Sound) : entry'.Sound := by
  cases h with
  | same => exact hsound
  | inhibit h =>
    constructor
    . intro inhibited hdispatch _
      cases hdispatch
      rfl
    . intro hdispatch
      cases hdispatch
  | pid _ | complete _ => exact sound_of_not_accepted nofun
  | cancel _ | signal =>
    constructor
    . exact hsound.lost
    . intro _ hcancel
      cases hcancel
  | lose h =>
    constructor
    . intro inhibited hdispatch _
      exact inhibit_eq_accepted hdispatch
    . intro hdispatch
      cases inhibit_eq_accepted hdispatch
  | attach h =>
    constructor
    . intro inhibited _ hlost
      cases hlost
    . intro hdispatch
      -- The connection was lost, so the entry is inhibited and not open.
      cases hsound.lost false hdispatch h

end

end Change

theorem Sound.isUntouched (h : entry.Sound) (hdispatch : entry.dispatch = .accepted false)
    (hcancel : entry.cancellation = false) : entry.isUntouched = true := by
  have hconnected : entry.connectionLost = false := by
    cases hlost : entry.connectionLost with
    | false => rfl
    | true => cases h.lost false hdispatch hlost
  have hhistory := h.history hdispatch hcancel
  unfold Entry.isUntouched
  rw [hdispatch, hcancel, hconnected]
  cases hevents : entry.history with
  | nil => simp [hevents] at hhistory
  | cons event events =>
    rw [hevents] at hhistory
    simp only [List.map_cons, List.cons.injEq, List.map_eq_nil_iff] at hhistory
    simp [hhistory]

theorem isNotStarted.not_isUntouched (h : entry.isNotStarted) : entry.isUntouched = false := by
  obtain ⟨inhibited, hdispatch, hclosed⟩ := h
  unfold isUntouched
  rw [hdispatch]
  cases inhibited with
  | true => simp
  | false =>
    have hcancel : entry.cancellation = true := by
      simpa using hclosed
    simp [hcancel]

theorem isNotStarted.not_isTerminal (h : entry.isNotStarted) : entry.isTerminal = false := by
  obtain ⟨inhibited, hdispatch, _⟩ := h
  unfold isTerminal
  rw [hdispatch]

end Entry

theorem not_grants_of_removes {key : CallKey} (h : Removes key op out) (generation : Nat) :
    ¬ Grants key' generation op out := by
  rintro ⟨_, snapshot, hout⟩
  rw [h.2] at hout
  cases hout

theorem Grants.key_eq {key : CallKey} (h : Grants key generation op out)
    (h' : Grants key' generation' op out) :
    key' = key ∧ generation' = generation := by
  obtain ⟨⟨_, hop⟩, _, hout⟩ := h
  obtain ⟨⟨_, hop'⟩, _, hout'⟩ := h'
  rw [hop] at hop'
  rw [hout] at hout'
  cases hop'
  cases hout'
  exact ⟨rfl, rfl⟩

namespace Registry

theorem sound_freshEntry (registry : Registry) (key : CallKey) (request : CallRequest) :
    (registry.freshEntry key request).Sound := by
  unfold freshEntry push
  constructor
  . intro inhibited _ hlost
    cases hlost
  . intro _ _
    simp [Entry.pushEvent]

inductive Evolution (registry : Registry) (op : Op) (out : Answer) (key : CallKey) :
    Option Entry → Option Entry → Prop where
  | same (hgrant : ∀ generation, ¬ Grants key generation op out) :
    Evolution registry op out key found found
  | changed {entry entry' : Entry} (h : entry.Change registry.limits.maxHistoryPerCall entry')
      (hgrant : ∀ generation, ¬ Grants key generation op out) :
    Evolution registry op out key (some entry) (some entry')
  | created {request : CallRequest} (hgrant : ∀ generation, ¬ Grants key generation op out)
      (hop : op = .begin key request) :
    Evolution registry op out key none (some (registry.freshEntry key request))
  | removed {entry : Entry} (hremove : Removes key op out)
      (h : entry.isUntouched ∨ entry.isTerminal) :
    Evolution registry op out key (some entry) none
  | granted {entry entry' : Entry} (hgrant : Grants key registry.nextSpawnGeneration op out)
      (hopen : ¬ entry.isFenced)
      (hstarted : entry'.dispatch = .started registry.nextSpawnGeneration none) :
    Evolution registry op out key (some entry) (some entry')

variable {registry : Registry} {key : CallKey}

abbrev Evolves (registry : Registry) (op : Op) (out : Answer) (key : CallKey) : Option Entry → Prop :=
  registry.Evolution op out key (registry.get? key)

theorem Transition.evolution (h : registry.Transition op out registry') :
    ∀ key, registry.Evolves op out key (registry'.get? key) := by
  cases h with
  | same hquiet => exact fun key => .same (hquiet.not_grants key · op)
  | changed hget hchange hquiet =>
    apply Sharded.get?_insert_rule (P := registry.Evolves op out)
    . rw [Evolves, hget]
      exact .changed hchange (hquiet.not_grants _ · op)
    . exact fun key _ => .same (hquiet.not_grants key · op)
  | created hop hget hroom hquiet =>
    apply Sharded.get?_insert_rule (P := registry.Evolves op out)
    . rw [Evolves, hget]
      exact .created (hquiet.not_grants _ · op) hop
    . exact fun key _ => .same (hquiet.not_grants key · op)
  | removed hremove hget hentry =>
    apply Sharded.get?_erase_rule (P := registry.Evolves op out)
    . rw [Evolves, hget]
      exact .removed hremove hentry
    . exact fun _ _ => .same (not_grants_of_removes hremove)
  | granted hgrant hget haccepted hcancel =>
    apply Sharded.get?_insert_rule (P := registry.Evolves op out)
    . rw [Evolves, hget]
      refine .granted hgrant (fun hfenced => ?_) rfl
      have hclosed := hfenced false haccepted
      rw [hcancel] at hclosed
      cases hclosed
    . exact fun _ hkey => .same fun _ hgrant' => hkey (hgrant.key_eq hgrant').1

theorem step_evolution (registry : Registry) (op : Op) (key : CallKey) :
    registry.Evolution op (registry.step op).2 key (registry.get? key)
      ((registry.step op).1.get? key) := by
  apply Transition.evolution
  apply step_transition

def Sound (registry : Registry) : Prop :=
  ∀ key entry, registry.get? key = some entry → entry.Sound

theorem sound_step (op : Op) (h : registry.Sound) : (registry.step op).1.Sound := by
  intro key entry hget
  have hevolution := hget ▸ registry.step_evolution op key
  generalize hbefore : registry.get? key = found at hevolution
  cases hevolution with
  | same _ => exact h key entry hbefore
  | changed hchange _ => exact hchange.sound (h key _ hbefore)
  | created _ _ => apply sound_freshEntry
  | granted _ _ hstarted =>
    apply Entry.sound_of_not_accepted
    rw [hstarted]
    exact nofun

theorem sound_new {limits : RegistryLimits} (h : Registry.new limits = .ok registry) :
    registry.Sound := by
  unfold new at h
  obtain ⟨_, _, h⟩ := Except.bind_eq_ok.mp h
  cases h
  intro key entry hget
  cases hget

def Has (key : CallKey) (P : Entry → Prop) (registry : Registry) : Prop :=
  ∃ entry, registry.get? key = some entry ∧ P entry

theorem has_step {P : Entry → Prop} (hfenced : ∀ entry, P entry → entry.isFenced)
    (hchange : ∀ maxHistory entry entry', P entry → entry.Change maxHistory entry' → P entry')
    (op : Op) (h : registry.Has key P) :
    (registry.step op).1.Has key P
      ∨ Removes key op (registry.step op).2
        ∧ registry.Has key (fun entry => P entry ∧ (entry.isUntouched ∨ entry.isTerminal)) := by
  obtain ⟨entry, hget, hP⟩ := h
  have hevolution := hget ▸ registry.step_evolution op key
  generalize hafter : (registry.step op).1.get? key = found at hevolution
  cases hevolution with
  | same _ => exact .inl ⟨entry, hafter, hP⟩
  | changed hentry _ => exact .inl ⟨_, hafter, hchange _ _ _ hP hentry⟩
  | removed hremove hentry => exact .inr ⟨hremove, entry, hget, hP, hentry⟩
  | granted _ hopen _ => exact absurd (hfenced entry hP) hopen

theorem has_isFenced_step (h : registry.Has key Entry.isFenced) :
    (registry.step op).1.Has key Entry.isFenced ∨ Removes key op (registry.step op).2 :=
  (has_step (fun _ => id) (fun _ _ _ h hchange => hchange.isFenced h) op h).imp_right And.left

theorem has_isNotStarted_step (h : registry.Has key Entry.isNotStarted) :
    (registry.step op).1.Has key Entry.isNotStarted := by
  rcases has_step (fun _ h => h.isFenced) (fun _ _ _ h hchange => hchange.isNotStarted h) op h with
    hkept | ⟨_, entry, _, hclosed, hentry⟩
  . exact hkept
  . rw [hclosed.not_isUntouched, hclosed.not_isTerminal] at hentry
    simp at hentry

theorem exists_of_grants (h : Grants key generation op (registry.step op).2) :
    generation = registry.nextSpawnGeneration
      ∧ registry.Has key (fun entry => ¬ entry.isFenced)
      ∧ (registry.step op).1.Has key (fun entry => entry.dispatch = .started generation none) := by
  have hevolution := registry.step_evolution op key
  generalize hget : registry.get? key = found at hevolution
  generalize hafter : (registry.step op).1.get? key = found' at hevolution
  cases hevolution with
  | same hgrant | changed _ hgrant | created hgrant _ => exact absurd h (hgrant generation)
  | removed hremove _ => exact absurd h (not_grants_of_removes hremove generation)
  | granted hgrant hopen hstarted =>
    rw [(hgrant.key_eq h).2]
    exact ⟨rfl, ⟨_, hget, hopen⟩, _, hafter, hstarted⟩

theorem step_grants (h : Grants key generation op (registry.step op).2) :
    generation = registry.nextSpawnGeneration
      ∧ ¬ registry.Has key Entry.isFenced
      ∧ (registry.step op).1.Has key Entry.isFenced := by
  obtain ⟨hgeneration, ⟨entry, hget, hopen⟩, entry', hget', hstarted⟩ := exists_of_grants h
  refine ⟨hgeneration, ?_, entry', hget', Entry.isFenced_of_started hstarted⟩
  rintro ⟨_, hget'', hfenced⟩
  rw [hget] at hget''
  cases hget''
  exact hopen hfenced

end Registry

end CallRegistry
