import Trillionnium.Json.Lemmas.Struct

namespace Json

section Decode

def required (name : String) : Option Document → Except Error Document
  | some d => .ok d
  | none => .error (.missingField name)

def optional {α : Type} (read : Document → Except Error α) : Option Document → Except Error (Option α)
  | none => .ok none
  | some d =>
    match d.value with
    | .null => .ok none
    | _ => (read d).map some

def asU64 (d : Document) : Except Error (Fin (2 ^ 64)) :=
  match d.value with
  | .number (.posInt n) =>
    if h : n < 2 ^ 64 then .ok ⟨n, h⟩ else .error (.invalidType "u64")
  | _ => .error (.invalidType "u64")

def Document.ofFin (n : Fin (2 ^ 64)) : Document := .ofNat n.val n.isLt

theorem asString_ofString (s : String) : (Document.ofString s).asString = .ok s := rfl

theorem optional_asString (s : Option String) :
    optional Document.asString (s.map .ofString) = .ok s := by
  cases s with
  | none => rfl
  | some s => rfl

theorem asU64_ofFin (n : Fin (2 ^ 64)) : asU64 (.ofFin n) = .ok n := by
  simp [Document.ofFin, Document.ofNat, asU64]

theorem optional_asU64 (n : Option (Fin (2 ^ 64))) : optional asU64 (n.map .ofFin) = .ok n := by
  cases n with
  | none => rfl
  | some n => simp [optional, Document.ofFin, Document.ofNat, asU64, Except.map]

end Decode

namespace Document

def null : Document := ⟨.null, rfl⟩

def ofBool (b : Bool) : Document := ⟨.bool b, rfl⟩

def ofU64 (n : Nat) : Document := ofNat (n % 2 ^ 64) (Nat.mod_lt _ (by decide))

def ofInt : Int → Document
  | .ofNat n => ofU64 n
  | .negSucc n => ⟨.number (.negInt (n % 2 ^ 63 + 1)), by
      simp only [Value.canonical, Number.canonical, Bool.and_eq_true, decide_eq_true_eq]
      omega⟩

def ofOption {α : Type} (f : α → Document) : Option α → Document
  | some x => f x
  | none => null

def ofList (ds : List Document) : Document where
  value := .array (ds.map Document.value)
  canonical := by
    rw [Value.canonical, canonicalList_iff]
    intro v hv
    obtain ⟨d, _, rfl⟩ := List.mem_map.mp hv
    exact d.canonical

def empty : Document := ⟨.object [], rfl⟩

def insert (d : Document) (key : String) (x : Document) : Document :=
  match d with
  | ⟨.object fields, h⟩ => ⟨.object (insertField key x.value fields), by
      rw [Value.canonical, Bool.and_eq_true] at h ⊢
      exact ⟨sortedKeys_insertField h.1, canonicalFields_insertField x.canonical h.2⟩⟩
  | d => d

def isObject (d : Document) : Bool := d.value.isObject

def object (fields : List (String × Document)) : Document :=
  fields.foldl (fun d field => d.insert field.1 field.2) empty

theorem isObject_insert (d : Document) (key : String) (x : Document) :
    (d.insert key x).isObject = d.isObject := by
  obtain ⟨v, h⟩ := d
  cases v <;> rfl

theorem isObject_foldl_insert {fields : List (String × Document)} {d : Document} :
    (fields.foldl (fun d field => d.insert field.1 field.2) d).isObject = d.isObject := by
  induction fields generalizing d with
  | nil => rfl
  | cons field fields ih =>
    rw [List.foldl_cons, ih, isObject_insert]

theorem isObject_object (fields : List (String × Document)) : (object fields).isObject = true :=
  isObject_foldl_insert

theorem get?_eq_iff {d : Document} {fields : List (String × Value)} (h : d.value = .object fields)
    {key : String} {x : Option Document} :
    d.get? key = x ↔ (fields.find? (·.1 == key)).map (·.2) = x.map Document.value := by
  rw [← map_get? h]
  constructor
  . intro heq
    rw [heq]
  . intro heq
    cases hget : d.get? key with
    | none =>
      rw [hget] at heq
      cases x with
      | none => rfl
      | some x => cases heq
    | some y =>
      rw [hget] at heq
      cases x with
      | none => cases heq
      | some x =>
        rw [Document.ext (Option.some.inj heq)]

theorem get?_insert {d : Document} (h : d.isObject = true) (key name : String) (x : Document) :
    (d.insert key x).get? name = if key = name then some x else d.get? name := by
  obtain ⟨v, hv⟩ := d
  cases v with
  | object fields =>
    have hinsert : ((⟨.object fields, hv⟩ : Document).insert key x).value
        = .object (insertField key x.value fields) := rfl
    rw [get?_eq_iff hinsert, find?_insertField]
    split
    . rfl
    . exact (map_get? rfl name).symm
  | _ => cases h

@[simp]
theorem get?_empty (name : String) : empty.get? name = none := rfl

theorem get?_foldl_insert (fields : List (String × Document)) {d : Document}
    (h : d.isObject = true) (name : String) :
    (fields.foldl (fun d field => d.insert field.1 field.2) d).get? name
      = ((fields.reverse.find? (·.1 == name)).map Prod.snd).or (d.get? name) := by
  induction fields generalizing d with
  | nil => rfl
  | cons field fields ih =>
    rw [List.foldl_cons, ih (by rw [isObject_insert]; exact h), get?_insert h, List.reverse_cons,
      List.find?_append]
    cases fields.reverse.find? (·.1 == name) with
    | some found => rfl
    | none =>
      by_cases heq : field.1 = name
      . simp [heq]
      . simp [heq]

theorem get?_object (fields : List (String × Document)) (name : String) :
    (object fields).get? name = (fields.reverse.find? (·.1 == name)).map Prod.snd := by
  rw [object, get?_foldl_insert fields rfl, get?_empty, Option.or_none]

theorem mem_members_insert {d : Document} {key : String} {x : Document}
    (h : member ∈ (d.insert key x).members) :
    member = (key, x) ∨ member ∈ d.members := by
  obtain ⟨v, hv⟩ := d
  cases v with
  | object fields =>
    have hfield : (member.1, member.2.value) ∈ insertField key x.value fields := by
      rw [← map_members (d := (⟨.object fields, hv⟩ : Document).insert key x) rfl]
      exact List.mem_map.mpr ⟨member, h, rfl⟩
    cases mem_insertField hfield with
    | inl heq =>
      left
      rw [Prod.mk.injEq] at heq
      exact Prod.ext heq.1 (Document.ext heq.2)
    | inr hmem =>
      right
      rw [← map_members (d := ⟨.object fields, hv⟩) rfl] at hmem
      obtain ⟨other, hother, heq⟩ := List.mem_map.mp hmem
      rw [Prod.mk.injEq] at heq
      rwa [← (Prod.ext heq.1 (Document.ext heq.2) : other = member)]
  | _ => exact .inr h

theorem mem_members_object {fields : List (String × Document)}
    (h : member ∈ (object fields).members) : member ∈ fields := by
  have hfold : ∀ (fields : List (String × Document)) (d : Document),
      member ∈ (fields.foldl (fun d field => d.insert field.1 field.2) d).members
        → member ∈ fields ∨ member ∈ d.members := by
    intro fields
    induction fields with
    | nil => exact fun d h => .inr h
    | cons field fields ih =>
      intro d h
      rcases ih _ h with hmem | hmem
      . exact .inl (List.mem_cons_of_mem _ hmem)
      . rcases mem_members_insert hmem with heq | hmem
        . exact .inl (heq ▸ List.mem_cons_self)
        . exact .inr hmem
  rcases hfold fields empty h with hmem | hmem
  . exact hmem
  . exact absurd hmem List.not_mem_nil

def present (slots : List (String × Option Document)) : List (String × Document) :=
  slots.filterMap fun slot => slot.2.map (slot.1, ·)

theorem mem_present {slots : List (String × Option Document)} {name : String} {x : Document} :
    (name, x) ∈ present slots ↔ (name, some x) ∈ slots := by
  unfold present
  rw [List.mem_filterMap]
  constructor
  . rintro ⟨⟨slot, value⟩, hmem, heq⟩
    cases value with
    | none => cases heq
    | some value =>
      cases heq
      exact hmem
  . intro hmem
    exact ⟨_, hmem, rfl⟩

theorem get?_object_present {slots : List (String × Option Document)}
    (hnodup : (slots.map Prod.fst).Nodup) {name : String} {x : Option Document}
    (hmem : (name, x) ∈ slots) : (object (present slots)).get? name = x := by
  have hunique : ∀ y, (name, y) ∈ present slots → x = some y := by
    intro y hy
    exact congrArg Prod.snd (List.inj_on_of_nodup_map hnodup hmem (mem_present.mp hy) rfl)
  rw [get?_object]
  cases hfind : (present slots).reverse.find? (·.1 == name) with
  | some found =>
    obtain ⟨key, y⟩ := found
    have hkey : key = name := by simpa using List.find?_some hfind
    have hy := List.mem_reverse.mp (List.mem_of_find?_eq_some hfind)
    rw [hkey] at hy
    exact (hunique y hy).symm
  | none =>
    rw [List.find?_eq_none] at hfind
    cases x with
    | none => rfl
    | some y =>
      have hy := hfind _ (List.mem_reverse.mpr (mem_present.mpr hmem))
      simp at hy

end Document

end Json
