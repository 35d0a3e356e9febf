import Trillionnium.Json.Document

namespace Json

variable {fields : List (String × Value)}

theorem Number.beq_self (n : Number) : n.beq n = true := by
  cases n with
  | posInt _ | negInt _ => simp [Number.beq]
  | float f => simp [Number.beq, F64.beq]

mutual

theorem Value.beq_self : (v : Value) → v.beq v = true
  | .null => rfl
  | .bool b => by simp [Value.beq]
  | .number n => by
    rw [Value.beq]
    exact Number.beq_self n
  | .string s => by simp [Value.beq]
  | .array xs => by
    rw [Value.beq]
    exact Value.beqList_self xs
  | .object fields => by
    rw [Value.beq]
    exact Value.beqFields_self fields

theorem Value.beqList_self : (xs : List Value) → Value.beqList xs xs = true
  | [] => by rw [Value.beqList]
  | x :: xs => by
    rw [Value.beqList, Value.beq_self x, Value.beqList_self xs]
    rfl

theorem Value.beqFields_self : (fields : List (String × Value)) → Value.beqFields fields fields = true
  | [] => by rw [Value.beqFields]
  | (k, x) :: fields => by
    rw [Value.beqFields, Value.beq_self x, Value.beqFields_self fields]
    simp

end

def Value.Rigid (w : Value) : Prop := ∀ v : Value, v.beq w = true → v = w

theorem Value.rigid_null : Value.null.Rigid := by
  intro v h
  cases v with
  | null => rfl
  | _ => simp [Value.beq] at h

theorem Value.rigid_string (s : String) : (Value.string s).Rigid := by
  intro v h
  cases v with
  | string t =>
    rw [Value.beq, beq_iff_eq] at h
    rw [h]
  | _ => simp [Value.beq] at h

theorem Value.rigid_nat (n : Nat) : (Value.number (.posInt n)).Rigid := by
  intro v h
  cases v with
  | number m =>
    rw [Value.beq] at h
    cases m with
    | posInt m =>
      rw [Number.beq, beq_iff_eq] at h
      rw [h]
    | _ => simp [Number.beq] at h
  | _ => simp [Value.beq] at h

theorem Value.eq_of_beqFields {fields' : List (String × Value)} (hrigid : ∀ f ∈ fields, f.2.Rigid)
    (h : Value.beqFields fields' fields = true) : fields' = fields := by
  induction fields generalizing fields' with
  | nil =>
    cases fields' with
    | nil => rfl
    | cons f' fields' => simp [Value.beqFields] at h
  | cons f fields ih =>
    cases fields' with
    | nil => simp [Value.beqFields] at h
    | cons f' fields' =>
      simp only [Value.beqFields, Bool.and_eq_true, beq_iff_eq] at h
      rw [ih (fun g hg => hrigid g (by simp [hg])) h.2]
      rw [Prod.ext h.1.1 (hrigid f (by simp) f'.2 h.1.2)]

theorem Value.rigid_object (h : ∀ f ∈ fields, f.2.Rigid) : (Value.object fields).Rigid := by
  intro v hbeq
  cases v with
  | object fields' =>
    rw [Value.beq] at hbeq
    rw [Value.eq_of_beqFields h hbeq]
  | _ => simp [Value.beq] at hbeq

theorem Value.beqFields_append {front back : List (String × Value)}
    (h : Value.beqFields fields (front ++ back) = true) :
    ∃ front' back', fields = front' ++ back'
      ∧ Value.beqFields front' front = true ∧ Value.beqFields back' back = true := by
  induction front generalizing fields with
  | nil => exact ⟨[], fields, rfl, by rw [Value.beqFields], h⟩
  | cons f front ih =>
    cases fields with
    | nil => simp [Value.beqFields] at h
    | cons f' fields =>
      simp only [List.cons_append, Value.beqFields, Bool.and_eq_true] at h
      obtain ⟨front', back', rfl, hfront, hback⟩ := ih h.2
      refine ⟨f' :: front', back', rfl, ?_, hback⟩
      simp only [Value.beqFields, h.1, hfront, Bool.and_self]

theorem Document.beq_self (d : Document) : (d == d) = true := Value.beq_self d.value

end Json
