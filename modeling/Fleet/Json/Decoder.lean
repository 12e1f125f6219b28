/-
# Reading records out of JSON

Combinators that read typed values out of a written text.  A record is an object of its fields, in
which a field may not occur twice and others are passed over, or a list of its fields in order.
Each list, object or record takes one from the levels that may still be opened.
-/
import Fleet.Json.Written

namespace Fleet.Json

/-- Reads a value out of a text, within a number of levels. -/
abbrev Decoder (α : Type) := Nat → Written → Option α

namespace Decoder

variable {α β : Type}

/-! ## Leaves -/

/-- A string. -/
def string : Decoder String
  | _, .string s => some s
  | _, _ => none

/-- A truth value. -/
def bool : Decoder Bool
  | _, .bool b => some b
  | _, _ => none

/-- An integer that is not negative and below a bound. -/
def natBelow (bound : Nat) : Decoder Nat
  | _, .number (.integer n) =>
    if 0 ≤ n.value ∧ n.value < bound then some n.value.toNat else none
  | _, _ => none

/-- Any document. -/
def document : Decoder Json := fun levels w => w.toJson? levels

/-- A value read from the text of a string. -/
def parsed (f : String → Option α) : Decoder α := fun levels w => (string levels w).bind f

/-- One of some names, as a string or as the only name of an object, with the value null. -/
def choice (names : List (String × α)) : Decoder α
  | _, .string s => names.lookup s
  | _ + 1, .object [(s, .null)] => names.lookup s
  | _, _ => none

/-! ## Composed values -/

/-- Another function of what is read. -/
def map (f : α → β) (d : Decoder α) : Decoder β := fun levels w => (d levels w).map f

/-- A value or null. -/
def nullable (d : Decoder α) : Decoder (Option α)
  | _, .null => some none
  | levels, w => (d levels w).map some

/-- A list of values. -/
def list (d : Decoder α) : Decoder (List α)
  | levels + 1, .array items => items.mapM (d levels)
  | _, _ => none

/-- An object of values by key; of members with one name the last counts. -/
def sortedMap {κ : Type} [Key κ] (key : String → κ) (d : Decoder α) : Decoder (SortedMap κ α)
  | levels + 1, .object members =>
    (members.mapM fun m => (d levels m.2).map fun v => (key m.1, v)).map SortedMap.ofList
  | _, _ => none

end Decoder

/-! ## Records -/

/-- The fields of a record as they were found. -/
structure Fields where
  /-- The known fields that are present. -/
  entries : List (String × Written)
  /-- Whether they stand in a list, without their names. -/
  positional : Bool
  /-- The levels that may still be opened. -/
  levels : Nat

namespace Fields

variable {α : Type}

/-- Finds the fields of a record. -/
def of? (names : List String) : Decoder Fields
  | levels + 1, .object members =>
    let known := members.filter fun m => names.contains m.1
    if (known.map Prod.fst).Nodup then some ⟨known, false, levels⟩ else none
  | levels + 1, .array items =>
    if items.length ≤ names.length then some ⟨names.zip items, true, levels⟩ else none
  | _, _ => none

/-- A field that must be present. -/
def required (fs : Fields) (name : String) (d : Decoder α) : Option α :=
  (fs.entries.lookup name).bind (d fs.levels)

/-- A field with a value to take when it is missing. -/
def withDefault (fs : Fields) (name : String) (d : Decoder α) (fallback : α) : Option α :=
  match fs.entries.lookup name with
  | some w => d fs.levels w
  | none => some fallback

/-- A field that may be missing or null. -/
def optional (fs : Fields) (name : String) (d : Decoder α) : Option (Option α) :=
  fs.withDefault name d.nullable none

/-- A field that may be null, and missing only where fields have names. -/
def named (fs : Fields) (name : String) (d : Decoder α) : Option (Option α) :=
  if fs.positional then fs.required name d.nullable else fs.optional name d

end Fields

end Fleet.Json
