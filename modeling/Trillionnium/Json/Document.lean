import Trillionnium.Json.Lemmas.Canonical

/-!
Documents and how structured data is taken out of them. A record type is decoded from an object
that has exactly its fields, or from the array of its fields in the order of their declaration.
-/

namespace Json

@[ext]
structure Document where
  value : Value
  canonical : value.canonical = true

namespace Document

def beq (a b : Document) : Bool := a.value.beq b.value

instance : BEq Document := ⟨beq⟩

def ofString (s : String) : Document := ⟨.string s, rfl⟩

def ofNat (n : Nat) (h : n < 2 ^ 64) : Document := ⟨.number (.posInt n), by simpa [Value.canonical, Number.canonical] using h⟩

def elements : Document → List Document
  | ⟨.array xs, h⟩ => xs.pmap Document.mk (canonicalList_iff.mp h)
  | _ => []

def members : Document → List (String × Document)
  | ⟨.object fields, h⟩ =>
    fields.pmap (fun f hf => (f.1, ⟨f.2, hf⟩)) (canonicalFields_iff.mp (Bool.and_eq_true_iff.mp h).2)
  | _ => []

def get? (d : Document) (key : String) : Option Document :=
  (d.members.find? (·.1 == key)).map (·.2)

def asString (d : Document) : Except Error String :=
  match d.value with
  | .string s => .ok s
  | _ => .error (.invalidType "a string")

def asNat (d : Document) : Except Error Nat :=
  match d.value with
  | .number (.posInt n) => .ok n
  | _ => .error (.invalidType "an unsigned integer")

def asList (d : Document) : Except Error (List Document) :=
  match d.value with
  | .array _ => .ok d.elements
  | _ => .error (.invalidType "a sequence")

def fieldOf (d : Document) (name : String) : Except Error Document :=
  match d.get? name with
  | some x => .ok x
  | none => .error (.missingField name)

def fieldsOf (names : List String) (d : Document) : Except Error (List Document) :=
  match d.value with
  | .object fields =>
    match fields.find? (fun f => !names.contains f.1) with
    | some f => .error (.unknownField f.1)
    | none => names.mapM d.fieldOf
  | .array xs =>
    if xs.length = names.length then
      .ok d.elements
    else
      .error (.invalidType "a struct")
  | _ => .error (.invalidType "a struct")

end Document

variable (codec : FloatCodec)

def readDocument (input : Bytes) : Except Error Document :=
  match h : read codec input with
  | .ok v => .ok ⟨v, canonical_read h⟩
  | .error e => .error e

def decode {α : Type} (ofDocument : Document → Except Error α) (input : Bytes) : Except Error α := do
  ofDocument (← readDocument codec input)

end Json
