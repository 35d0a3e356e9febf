import Trillionnium.Transport.Impl.Process

/-!
When a binding can be put on a frame. The numbers that the transport gives to a frame of the core do
not matter for it.
-/

namespace Transport

open Host (TurnContext U64)
open Json Protocol TransportOutput

variable {frame : RunTurnFrame}

theorem find?_insertExtension_ne {name other : String} (h : name ≠ other) {x : Document} :
    (insertExtension name x extensions).find? (·.1 == other)
      = extensions.find? (·.1 == other) := by
  have hfirst : ∀ rest : List (String × Document),
      ((name, x) :: rest).find? (·.1 == other) = rest.find? (·.1 == other) := by
    intro rest
    rw [List.find?_cons_of_neg]
    simpa using h
  induction extensions with
  | nil => exact hfirst []
  | cons entry extensions ih =>
    obtain ⟨k, y⟩ := entry
    unfold insertExtension
    split
    . exact hfirst _
    . split
      next heq =>
        rw [hfirst, List.find?_cons_of_neg]
        simpa [← heq] using h
      next =>
        rw [List.find?_cons, List.find?_cons, ih]

theorem extension?_setExtension_ne {name other : String} (h : name ≠ other) {x : Document} :
    extension? (setExtension frame name x) other = extension? frame other := by
  unfold extension? setExtension
  rw [find?_insertExtension_ne h]

namespace BrokerRequestBinding

def Agrees (frame : RunTurnFrame) (field : String × Document) : Prop :=
  (extension? frame field.1).any (· != field.2) = false
    ∧ (frame.payload.get? field.1).any (· != field.2) = false

def Fits (binding : BrokerRequestBinding) (frame : RunTurnFrame) : Prop :=
  frame.payload.isObject = true ∧ ∀ field ∈ binding.fields, Agrees frame field

theorem applyField_eq_ok_iff {bound : RunTurnFrame} {field : String × Document} :
    applyField frame field = .ok bound
      ↔ Agrees frame field ∧ setExtension frame field.1 field.2 = bound := by
  unfold applyField Agrees
  split
  next h => simp [h]
  next h =>
    split
    next h' => simp [h']
    next h' => simp [Bool.eq_false_iff.mpr h, Bool.eq_false_iff.mpr h']

theorem agrees_setExtension {first second : String × Document} (h : first.1 ≠ second.1) :
    Agrees (setExtension frame first.1 first.2) second ↔ Agrees frame second := by
  unfold Agrees
  rw [extension?_setExtension_ne h]
  rfl

theorem foldlM_applyField {fields : List (String × Document)} (hnames : (fields.map Prod.fst).Nodup) :
    (∃ bound, fields.foldlM applyField frame = .ok bound)
      ↔ ∀ field ∈ fields, Agrees frame field := by
  induction fields generalizing frame with
  | nil => simp [pure, Except.pure]
  | cons field fields ih =>
    obtain ⟨hfresh, hnames⟩ := List.nodup_cons.mp hnames
    have hagrees : ∀ other ∈ fields,
        (Agrees (setExtension frame field.1 field.2) other ↔ Agrees frame other) := by
      intro other hmem
      apply agrees_setExtension
      intro heq
      apply hfresh
      rw [heq]
      exact List.mem_map_of_mem hmem
    rw [List.foldlM_cons, List.forall_mem_cons]
    constructor
    . rintro ⟨bound, h⟩
      obtain ⟨first, hfirst, h⟩ := Except.bind_eq_ok.mp h
      obtain ⟨hfield, rfl⟩ := applyField_eq_ok_iff.mp hfirst
      refine ⟨hfield, ?_⟩
      intro other hmem
      exact (hagrees other hmem).mp ((ih hnames).mp ⟨bound, h⟩ other hmem)
    . rintro ⟨hfield, hfields⟩
      rw [applyField_eq_ok_iff.mpr ⟨hfield, rfl⟩]
      apply (ih hnames).mpr
      intro other hmem
      exact (hagrees other hmem).mpr (hfields other hmem)

theorem apply_eq_ok_iff (binding : BrokerRequestBinding) (frame : RunTurnFrame) :
    (∃ bound, binding.apply frame = .ok bound) ↔ binding.Fits frame := by
  have hfields : (∃ bound, binding.fields.foldlM applyField frame = .ok bound) ↔ _ :=
    foldlM_applyField (by simp [fields])
  unfold apply Fits
  split
  next hobject =>
    rw [hfields, hobject]
    simp
  next hobject => simp [hobject]

end BrokerRequestBinding

theorem extension?_keepCoreNumbers {name : String} (hseq : "core_seq" ≠ name)
    (hhost : "core_host_seq" ≠ name) (hconnection : "core_connection_id" ≠ name)
    (frame : RunTurnFrame) :
    extension? (keepCoreNumbers frame) name = extension? frame name := by
  unfold keepCoreNumbers
  cases frame.hostSeq with
  | none =>
    cases frame.connectionId with
    | none => exact extension?_setExtension_ne hseq
    | some id =>
      exact (extension?_setExtension_ne hconnection).trans
        (extension?_setExtension_ne hseq)
  | some seq =>
    have hmarked : ∀ x y, extension? (setExtension (setExtension frame "core_seq" x)
        "core_host_seq" y) name = extension? frame name := fun x y =>
      (extension?_setExtension_ne hhost).trans (extension?_setExtension_ne hseq)
    cases frame.connectionId with
    | none => exact hmarked _ _
    | some id => exact (extension?_setExtension_ne hconnection).trans (hmarked _ _)

theorem payload_keepCoreNumbers (frame : RunTurnFrame) :
    (keepCoreNumbers frame).payload = frame.payload := by
  unfold keepCoreNumbers
  cases frame.hostSeq <;> cases frame.connectionId <;> rfl

theorem renumber_keeps (output : TransportOutput) (frame : RunTurnFrame) (seq : Option U64)
    (active : Option TurnContext) :
    (output.renumber frame seq active).1.payload = frame.payload
      ∧ (output.renumber frame seq active).1.extensions = frame.extensions := by
  unfold renumber
  split
  . exact ⟨rfl, rfl⟩
  . split <;> exact ⟨rfl, rfl⟩

theorem rewriteCore_keeps {output : TransportOutput} :
    (output.rewriteCoreWithContext frame active).1.payload = frame.payload
      ∧ (output.rewriteCoreWithContext frame active).1.extensions
        = (keepCoreNumbers frame).extensions := by
  have hkeeps := renumber_keeps output (keepCoreNumbers frame) frame.hostSeq active
  rw [payload_keepCoreNumbers] at hkeeps
  unfold rewriteCoreWithContext
  dsimp only
  split
  . exact hkeeps
  . exact hkeeps

namespace BrokerRequestBinding

theorem fits_rewriteCore (binding : BrokerRequestBinding) (output : TransportOutput)
    (frame : RunTurnFrame) (active : Option TurnContext) :
    binding.Fits (output.rewriteCoreWithContext frame active).1 ↔ binding.Fits frame := by
  obtain ⟨hpayload, hextensions⟩ := rewriteCore_keeps
  have hextension : ∀ field ∈ binding.fields,
      extension? (output.rewriteCoreWithContext frame active).1 field.1
        = extension? frame field.1 := by
    intro field hmem
    have hnumbers : extension? (keepCoreNumbers frame) field.1
        = extension? frame field.1 := by
      simp only [fields, List.mem_cons, List.not_mem_nil, or_false] at hmem
      rcases hmem with rfl | rfl | rfl
      all_goals
        apply extension?_keepCoreNumbers
        all_goals simp
    rw [← hnumbers]
    unfold extension?
    rw [hextensions]
  unfold Fits Agrees
  rw [hpayload]
  apply and_congr_right
  intro _
  apply forall₂_congr
  intro field hmem
  rw [hextension field hmem]

end BrokerRequestBinding

theorem bindFrame_rewriteCore {binding : Option BrokerRequestBinding} {output : TransportOutput}
    {active : Option TurnContext} {error : String}
    (h : ClientDelivery.bindFrame binding (output.rewriteCoreWithContext frame active).1
      = .error error) : ∃ error, ClientDelivery.bindFrame binding frame = .error error := by
  cases binding with
  | none => cases h
  | some binding =>
    cases hbind : binding.apply frame with
    | error error => exact ⟨error, hbind⟩
    | ok bound =>
      have hfits := (binding.apply_eq_ok_iff frame).mp ⟨bound, hbind⟩
      have hrewritten := (binding.fits_rewriteCore output frame active).mpr hfits
      obtain ⟨bound, hok⟩ := (binding.apply_eq_ok_iff _).mpr hrewritten
      exact absurd (h.symm.trans hok) (fun heq => by cases heq)

end Transport
