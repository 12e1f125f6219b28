/-
# Documents as written

A JSON text keeps the order of its members, and a name may occur in it more than once.  Some of
its leaves are well-formed but denote nothing: a number beyond the range of doubles, a string with
half of a surrogate pair.  `Written` holds such a text, both as it was read and as it is to be
printed; `Written.toJson?` is the document that it denotes.
-/
import Fleet.Json.Basic

namespace Fleet.Json

/-- A JSON text, read or to be printed. -/
inductive Written where
  /-- The null value. -/
  | null
  /-- A truth value. -/
  | bool (b : Bool)
  /-- A number. -/
  | number (n : Number)
  /-- A string. -/
  | string (s : String)
  /-- A list. -/
  | array (items : List Written)
  /-- An object with its members in the order of the text. -/
  | object (members : List (String × Written))
  /-- A well-formed text that denotes no value. -/
  | void

namespace Written

instance : Inhabited Written := ⟨null⟩

/-! ## From and to documents -/

mutual

/-- A document written with its members in their order. -/
def ofJson : Json → Written
  | .null => null
  | .bool b => bool b
  | .number n => number n
  | .string s => string s
  | .array items => array (ofItems items)
  | .object members => object (ofMembers members)

/-- The items of a list, written. -/
def ofItems : List Json → List Written
  | [] => []
  | j :: rest => ofJson j :: ofItems rest

/-- The members of an object, written. -/
def ofMembers : List (String × Json) → List (String × Written)
  | [] => []
  | (k, j) :: rest => (k, ofJson j) :: ofMembers rest

end

mutual

/-- The document that a text denotes, if its lists and objects nest at most this many levels.  Of
members with one name the last counts. -/
def toJson? (levels : Nat) : Written → Option Json
  | null => some .null
  | bool b => some (.bool b)
  | number n => some (.number n)
  | string s => some (.string s)
  | array items =>
    match levels with
    | 0 => none
    | deeper + 1 => (toItems? deeper items).map .array
  | object members =>
    match levels with
    | 0 => none
    | deeper + 1 => (toMembers? deeper members).map Json.ofMembers
  | void => none

/-- The items of a list. -/
def toItems? (levels : Nat) : List Written → Option (List Json)
  | [] => some []
  | w :: rest =>
    match toJson? levels w, toItems? levels rest with
    | some j, some js => some (j :: js)
    | _, _ => none

/-- The members of an object. -/
def toMembers? (levels : Nat) : List (String × Written) → Option (List (String × Json))
  | [] => some []
  | (k, w) :: rest =>
    match toJson? levels w, toMembers? levels rest with
    | some j, some js => some ((k, j) :: js)
    | _, _ => none

end

/-! ## Writing values -/

/-- A natural number; one of 65 bits or more denotes nothing. -/
def ofNat (n : Nat) : Written :=
  if h : n < 18446744073709551616 then number (.integer (.ofNat n h)) else void

/-- A value or null. -/
def ofOption {α : Type} (f : α → Written) : Option α → Written
  | some a => f a
  | none => null

/-- A list of values. -/
def ofList {α : Type} (f : α → Written) (l : List α) : Written :=
  array (l.map f)

/-- A map as an object with ascending names. -/
def ofMap {κ α : Type} [Key κ] (f : α → Written) (m : SortedMap κ α) : Written :=
  object (m.entries.map fun e => (Key.text e.1, f e.2))

end Written

end Fleet.Json
