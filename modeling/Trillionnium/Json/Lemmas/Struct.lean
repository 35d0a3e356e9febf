import Trillionnium.Json.Document

/-!
Structured data survives the way through the text form: an object whose members are listed in the
order of the fields of a record type is read back as a document that has these fields.
-/

namespace Json

open Except

variable {d : Document}

variable {codec : FloatCodec}

theorem readDocument_eq_ok {input : Bytes} :
    readDocument codec input = .ok d ↔ read codec input = .ok d.value := by
  unfold readDocument
  split
  . next v h => simp [h, Document.ext_iff]
  . next e h => simp [h]

section Lookup

variable {k n : String} {x : Value} {fields acc : List (String × Value)}

theorem find?_insertField : (insertField k x fields).find? (·.1 == n)
    = if k = n then some (k, x) else fields.find? (·.1 == n) := by
  induction fields with
  | nil =>
    by_cases h : k = n
    . simp [insertField, h]
    . simp [insertField, h]
  | cons field fields ih =>
    obtain ⟨l, y⟩ := field
    rw [insertField]
    by_cases hn : k = n
    . rw [if_pos hn]
      split_ifs with hlt heq
      . simp [hn]
      . simp [hn]
      . rw [List.find?_cons_of_neg, ih, if_pos hn]
        rw [← hn]
        simpa using Ne.symm heq
    . rw [if_neg hn]
      split_ifs with hlt heq
      . rw [List.find?_cons_of_neg (by simpa using hn)]
      . rw [List.find?_cons_of_neg (by simpa using hn), List.find?_cons_of_neg]
        rw [← heq]
        simpa using hn
      . rw [List.find?_cons, List.find?_cons, ih, if_neg hn]

theorem any_key_eq : fields.any (·.1 == k) = (fields.find? (·.1 == k)).isSome := by
  induction fields with
  | nil => rfl
  | cons field fields ih =>
    rw [List.any_cons, List.find?_cons, ih]
    cases field.1 == k with
    | true | false => rfl

def insertFields (pairs acc : List (String × Value)) : List (String × Value) :=
  pairs.foldl (fun acc f => insertField f.1 f.2 acc) acc

variable {pairs : List (String × Value)}

theorem mem_insertFields {f : String × Value} (h : f ∈ insertFields pairs acc) :
    f ∈ pairs ∨ f ∈ acc := by
  induction pairs generalizing acc with
  | nil => exact .inr h
  | cons pair pairs ih =>
    cases ih h with
    | inl h => exact .inl (by simp [h])
    | inr h =>
      cases mem_insertField h with
      | inl h => exact .inl (by simp [h])
      | inr h => exact .inr h

theorem find?_pairs_eq_none (h : k ∉ pairs.map (·.1)) : pairs.find? (·.1 == k) = none := by
  rw [List.find?_eq_none]
  intro f hf heq
  simp only [beq_iff_eq] at heq
  apply h
  rw [← heq]
  exact List.mem_map_of_mem hf

theorem find?_insertFields (hnodup : (pairs.map (·.1)).Nodup) :
    (insertFields pairs acc).find? (·.1 == n)
      =
    (pairs.find? (·.1 == n)).or (acc.find? (·.1 == n)) := by
  induction pairs generalizing acc with
  | nil => rfl
  | cons pair pairs ih =>
    obtain ⟨k, x⟩ := pair
    rw [List.map_cons, List.nodup_cons] at hnodup
    change (insertFields pairs (insertField k x acc)).find? (·.1 == n) = _
    rw [ih hnodup.2, find?_insertField, List.find?_cons]
    by_cases hn : k = n
    . have hnone : pairs.find? (·.1 == n) = none := by
        rw [← hn]
        exact find?_pairs_eq_none hnodup.1
      simp [hn, hnone]
    . simp only [if_neg hn, beq_eq_false_iff_ne.mpr hn]

theorem find?_zip {names : List String} (hnodup : names.Nodup) (h : (n, x) ∈ names.zip values) :
    (names.zip values).find? (·.1 == n) = some (n, x) := by
  induction names generalizing values with
  | nil => simp at h
  | cons name names ih =>
    cases values with
    | nil => simp at h
    | cons value values =>
      rw [List.nodup_cons] at hnodup
      rw [List.zip_cons_cons] at h ⊢
      cases List.mem_cons.mp h with
      | inl h =>
        cases h
        simp
      | inr h =>
        have hne : name ≠ n := by
          intro heq
          rw [heq] at hnodup
          exact hnodup.1 (List.of_mem_zip h).1
        rw [List.find?_cons_of_neg (by simpa using hne)]
        exact ih hnodup.2 h

end Lookup

def ReadsAs (codec : FloatCodec) (v : Value) (d : Document) : Prop := readBack codec v = some d.value

theorem readsAs_string {s : String} : ReadsAs codec (.string s) (.ofString s) := rfl

theorem readsAs_nat {n : Nat} (h : n < 2 ^ 64) :
    ReadsAs codec (.number (.posInt n)) (.ofNat n h) := by
  unfold ReadsAs
  rw [readBack, readBackNumber_posInt codec h]
  rfl

theorem readsAs_document (d : Document) (h : FloatsReadBack codec d.value) :
    ReadsAs codec d.value d := readBack_canonical codec d.value d.canonical h

theorem readBackList_of_readsAs (h : List.Forall₂ (ReadsAs codec) values ds) :
    readBackList codec values = some (ds.map (·.value)) := by
  induction h with
  | nil => rfl
  | cons hhead _ ih =>
    rw [readBackList, hhead, ih]
    rfl

theorem readBackFields_of_readsAs {names : List String} {values : List Value}
    {acc : List (String × Value)} (hnodup : names.Nodup) (hlen : names.length = values.length)
    (hfresh : ∀ n ∈ names, acc.find? (·.1 == n) = none) (h : List.Forall₂ (ReadsAs codec) values ds)
    : readBackFields codec (names.zip values) acc
      =
    some (insertFields (names.zip (ds.map (·.value))) acc) := by
  induction h generalizing names acc with
  | nil => simp [readBackFields, insertFields]
  | @cons value d values ds hhead _ ih =>
    cases names with
    | nil => simp at hlen
    | cons name names =>
      rw [List.nodup_cons] at hnodup
      have hname := hfresh name (by simp)
      rw [List.zip_cons_cons, readBackFields, any_key_eq, hname, hhead]
      simp only [Option.isSome_none, Bool.false_eq_true, ↓reduceIte]
      rw [ih hnodup.2 (by simpa using hlen)]
      . rfl
      . intro n hn
        rw [find?_insertField, if_neg, hfresh n (by simp [hn])]
        intro heq
        apply hnodup.1
        rw [heq]
        exact hn

namespace Document

theorem map_members {fields : List (String × Value)} (h : d.value = .object fields) :
    d.members.map (fun f => (f.1, f.2.value)) = fields := by
  obtain ⟨v, hv⟩ := d
  cases h
  unfold members
  rw [List.map_pmap]
  simp

theorem map_elements (h : d.value = .array xs) : d.elements.map (·.value) = xs := by
  obtain ⟨v, hv⟩ := d
  cases h
  unfold elements
  rw [List.map_pmap]
  simp

theorem map_get? {fields : List (String × Value)} (h : d.value = .object fields) (key : String) :
    (d.get? key).map (·.value) = (fields.find? (·.1 == key)).map (·.2) := by
  unfold get?
  rw [← map_members h, List.find?_map]
  simp [Function.comp_def]

theorem mapM_fieldOf (h : List.Forall₂ (fun n x => d.get? n = some x) names ds) :
    names.mapM d.fieldOf = .ok ds := by
  induction h with
  | nil => rfl
  | cons hhead _ ih =>
    rw [List.mapM_cons, ih]
    unfold fieldOf
    rw [hhead]
    rfl

end Document

theorem readsAs_struct {names : List String} {values : List Value} {ds : List Document}
    (hnodup : names.Nodup) (hlen : names.length = values.length)
    (h : List.Forall₂ (ReadsAs codec) values ds) :
    ∃ d, ReadsAs codec (.object (names.zip values)) d ∧ d.fieldsOf names = .ok ds := by
  have hread : readBack codec (.object (names.zip values))
      = some (.object (insertFields (names.zip (ds.map (·.value))) [])) := by
    rw [readBack, readBackFields_of_readsAs hnodup hlen (by simp) h]
    rfl
  have hlen' : names.length = ds.length := by rw [hlen, h.length_eq]
  refine ⟨⟨_, canonical_readBack codec _ _ hread⟩, hread, ?_⟩
  unfold Document.fieldsOf
  simp only
  have hknown : (insertFields (names.zip (ds.map (·.value))) []).find?
      (fun f => !names.contains f.1) = none := by
    rw [List.find?_eq_none]
    intro f hf
    cases mem_insertFields hf with
    | inl hf =>
      have := (List.of_mem_zip hf).1
      simpa using this
    | inr hf => simp at hf
  rw [hknown]
  apply Document.mapM_fieldOf
  rw [List.forall₂_iff_zip]
  refine ⟨hlen', ?_⟩
  intro n x hmem
  have hvalue := Document.map_get? (d := ⟨_, canonical_readBack codec _ _ hread⟩) rfl n
  rw [find?_insertFields (by rw [List.map_fst_zip (by simp [hlen'])]; exact hnodup)] at hvalue
  rw [find?_zip hnodup (x := x.value)] at hvalue
  . simp only [Option.some_or, Option.map_some, Option.map_eq_some_iff] at hvalue
    obtain ⟨y, hy, heq⟩ := hvalue
    rw [hy, Document.ext heq]
  . rw [List.zip_map_right]
    exact List.mem_map.mpr ⟨(n, x), hmem, rfl⟩

theorem readsAs_array (h : List.Forall₂ (ReadsAs codec) values ds) :
    ∃ d, ReadsAs codec (.array values) d ∧ d.asList = .ok ds := by
  have hread : readBack codec (.array values) = some (.array (ds.map (·.value))) := by
    rw [readBack, readBackList_of_readsAs h]
    rfl
  refine ⟨⟨_, canonical_readBack codec _ _ hread⟩, hread, ?_⟩
  have helements := Document.map_elements (d := ⟨_, canonical_readBack codec _ _ hread⟩) rfl
  unfold Document.asList
  simp only [Except.ok.injEq]
  apply List.map_injective_iff.mpr _ helements
  intro a b hab
  exact Document.ext hab

theorem readsAs_list {α : Type} (toValue : α → Value) (ofDocument : Document → Except Error α)
    {xs : List α} (h : ∀ x ∈ xs, ∃ d, ReadsAs codec (toValue x) d ∧ ofDocument d = .ok x) :
    ∃ d ds, ReadsAs codec (.array (xs.map toValue)) d ∧ d.asList = .ok ds
      ∧ ds.mapM ofDocument = .ok xs := by
  have hlist : ∃ ds, List.Forall₂ (ReadsAs codec) (xs.map toValue) ds ∧ ds.mapM ofDocument = .ok xs := by
    induction xs with
    | nil => exact ⟨[], .nil, rfl⟩
    | cons x xs ih =>
      obtain ⟨d, hread, hof⟩ := h x (by simp)
      obtain ⟨ds, hreads, hofs⟩ := ih (fun y hy => h y (by simp [hy]))
      refine ⟨d :: ds, .cons hread hreads, ?_⟩
      rw [List.mapM_cons, hof, hofs]
      rfl
  obtain ⟨ds, hreads, hofs⟩ := hlist
  obtain ⟨d, hread, hlist⟩ := readsAs_array hreads
  exact ⟨d, ds, hread, hlist, hofs⟩

section Decode

variable {α : Type}

theorem decode_write (ofDocument : Document → Except Error α) {v : Value} (rest : Bytes)
    (hrest : rest.all isSpace = true) (hdepth : v.depth < recursionLimit) (h : ReadsAs codec v d) :
    decode codec ofDocument (write codec v ++ rest) = ofDocument d := by
  have hread : read codec (write codec v ++ rest) = .ok d.value := by
    rw [← toOption_eq_some, toOption_read_write codec hrest]
    unfold readBackWithin
    rw [if_pos (by omega), h]
  unfold decode
  rw [readDocument_eq_ok.mpr hread]
  rfl

theorem decode_write_of_too_deep (codec : FloatCodec) (ofDocument : Document → Except Error α) {v : Value} (rest : Bytes) (hrest : rest.all isSpace = true)
    (hdepth : recursionLimit ≤ v.depth) :
    (decode codec ofDocument (write codec v ++ rest)).toOption = none := by
  unfold decode
  rw [toOption_bind]
  cases hread : (readDocument codec (write codec v ++ rest)).toOption with
  | none => rfl
  | some d =>
    rw [toOption_eq_some, readDocument_eq_ok, ← toOption_eq_some] at hread
    rw [toOption_read_write codec hrest] at hread
    unfold readBackWithin at hread
    have hlimit : recursionLimit = 128 := rfl
    rw [if_neg (by omega)] at hread
    cases hread

end Decode

end Json
