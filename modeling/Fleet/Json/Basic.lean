/-
# JSON documents

A document is a JSON value whose objects have their members sorted by name, each name once.
Equality of documents is equality of values: an integer never equals a decimal number, and the two
zeros of the decimal numbers are equal.
-/
import Fleet.Assoc
import Fleet.Binary64.Basic

namespace Fleet

/-! ## Numbers -/

/-- An integer of a document: it fits 64 bits, with a sign if negative. -/
structure Json.Integer where
  /-- The value. -/
  value : Int
  /-- The range of 64-bit integers, signed or not. -/
  range : -9223372036854775808 ≤ value ∧ value < 18446744073709551616
  deriving DecidableEq

/-- A natural number of 64 bits. -/
def Json.Integer.ofNat (n : Nat) (h : n < 18446744073709551616) : Json.Integer :=
  ⟨(n : Int), by omega⟩

/-- A number of a document. -/
inductive Json.Number where
  /-- A number written without fraction and exponent that fits 64 bits. -/
  | integer (n : Json.Integer)
  /-- Any other number. -/
  | decimal (x : Binary64)
  deriving DecidableEq

/-! ## Documents -/

/-- A JSON value.  The members of an object ascend by name. -/
inductive Json where
  /-- The null value. -/
  | null
  /-- A truth value. -/
  | bool (b : Bool)
  /-- A number. -/
  | number (n : Json.Number)
  /-- A string. -/
  | string (s : String)
  /-- A list. -/
  | array (items : List Json)
  /-- An object. -/
  | object (members : List (String × Json))

namespace Json

instance : Inhabited Json := ⟨null⟩

/-- Every object of the document has its members in strictly ascending order. -/
inductive Canonical : Json → Prop where
  | null : Canonical null
  | bool (b : Bool) : Canonical (bool b)
  | number (n : Number) : Canonical (number n)
  | string (s : String) : Canonical (string s)
  | array {items : List Json} (h : ∀ j ∈ items, Canonical j) : Canonical (array items)
  | object {members : List (String × Json)} (sorted : Assoc.Sorted members)
      (h : ∀ e ∈ members, Canonical e.2) : Canonical (object members)

/-- The object without members, the document of a fresh record. -/
def emptyObject : Json := object []

/-- The object with these members, of which the last one with a name counts. -/
def ofMembers (members : List (String × Json)) : Json :=
  object (Assoc.insertAll [] members)

/-- A natural number; one that does not fit 64 bits is not a number of documents and gives null. -/
def ofNat (n : Nat) : Json :=
  if h : n < 18446744073709551616 then number (.integer (.ofNat n h)) else null

/-! ## Structural equality -/

mutual

/-- Decides structural equality of documents. -/
def decEq : (a b : Json) → Decidable (a = b)
  | null, null => isTrue rfl
  | bool a, bool b => if h : a = b then isTrue (h ▸ rfl) else isFalse fun e => h (by cases e; rfl)
  | number a, number b =>
    if h : a = b then isTrue (h ▸ rfl) else isFalse fun e => h (by cases e; rfl)
  | string a, string b =>
    if h : a = b then isTrue (h ▸ rfl) else isFalse fun e => h (by cases e; rfl)
  | array a, array b =>
    match decEqItems a b with
    | isTrue h => isTrue (h ▸ rfl)
    | isFalse h => isFalse fun e => h (by cases e; rfl)
  | object a, object b =>
    match decEqMembers a b with
    | isTrue h => isTrue (h ▸ rfl)
    | isFalse h => isFalse fun e => h (by cases e; rfl)
  | null, bool _ | null, number _ | null, string _ | null, array _ | null, object _
  | bool _, null | bool _, number _ | bool _, string _ | bool _, array _ | bool _, object _
  | number _, null | number _, bool _ | number _, string _ | number _, array _
  | number _, object _
  | string _, null | string _, bool _ | string _, number _ | string _, array _
  | string _, object _
  | array _, null | array _, bool _ | array _, number _ | array _, string _ | array _, object _
  | object _, null | object _, bool _ | object _, number _ | object _, string _
  | object _, array _ => isFalse (by simp)

/-- Decides structural equality of lists. -/
def decEqItems : (a b : List Json) → Decidable (a = b)
  | [], [] => isTrue rfl
  | x :: xs, y :: ys =>
    match decEq x y with
    | isTrue h =>
      match decEqItems xs ys with
      | isTrue hs => isTrue (h ▸ hs ▸ rfl)
      | isFalse hs => isFalse fun e => hs (by cases e; rfl)
    | isFalse h => isFalse fun e => h (by cases e; rfl)
  | [], _ :: _ | _ :: _, [] => isFalse (by simp)

/-- Decides structural equality of members. -/
def decEqMembers : (a b : List (String × Json)) → Decidable (a = b)
  | [], [] => isTrue rfl
  | (j, x) :: xs, (k, y) :: ys =>
    if hk : j = k then
      match decEq x y with
      | isTrue h =>
        match decEqMembers xs ys with
        | isTrue hs => isTrue (hk ▸ h ▸ hs ▸ rfl)
        | isFalse hs => isFalse fun e => hs (by cases e; rfl)
      | isFalse h => isFalse fun e => h (by cases e; rfl)
    else isFalse fun e => hk (by cases e; rfl)
  | [], _ :: _ | _ :: _, [] => isFalse (by simp)

end

instance : DecidableEq Json := decEq

/-! ## Equality of values -/

/-- Equality of numbers: an integer equals no decimal number. -/
def Number.same : Number → Number → Bool
  | .integer a, .integer b => a == b
  | .decimal a, .decimal b => a.same b
  | _, _ => false

mutual

/-- Equality of documents as values. -/
def same : Json → Json → Bool
  | null, null => true
  | bool a, bool b => a == b
  | number a, number b => a.same b
  | string a, string b => a == b
  | array a, array b => sameItems a b
  | object a, object b => sameMembers a b
  | _, _ => false

/-- Equality of lists of values. -/
def sameItems : List Json → List Json → Bool
  | [], [] => true
  | x :: xs, y :: ys => same x y && sameItems xs ys
  | _, _ => false

/-- Equality of members. -/
def sameMembers : List (String × Json) → List (String × Json) → Bool
  | [], [] => true
  | (j, x) :: xs, (k, y) :: ys => j == k && same x y && sameMembers xs ys
  | _, _ => false

end

/-! ## Access -/

/-- Whether the document is an object. -/
def isObject : Json → Bool
  | object _ => true
  | _ => false

/-- The member of an object. -/
def field? (name : String) : Json → Option Json
  | object members => Assoc.find? name members
  | _ => none

/-- The items of a list. -/
def items? : Json → Option (List Json)
  | array items => some items
  | _ => none

/-- The text of a string. -/
def text? : Json → Option String
  | string s => some s
  | _ => none

/-- The value of an integer that is not negative. -/
def nat? : Json → Option Nat
  | number (.integer n) => if 0 ≤ n.value then some n.value.toNat else none
  | _ => none

/-- One step of a path: a member of an object, or the first item of a list for the name `0`. -/
def step? (name : String) : Json → Option Json
  | object members => Assoc.find? name members
  | array items => if name = "0" then items.head? else none
  | _ => none

/-- The value at the end of a path. -/
def at? : List String → Json → Option Json
  | [], j => some j
  | name :: path, j => (step? name j).bind (at? path)

/-- Changes the value at the end of a path, if there is one and the change applies to it. -/
def updateAt? (f : Json → Option Json) : List String → Json → Option Json
  | [], j => f j
  | name :: path, object members =>
    ((Assoc.find? name members).bind (updateAt? f path)).map fun v =>
      object (Assoc.insert name v members)
  | name :: path, array (first :: rest) =>
    if name = "0" then (updateAt? f path first).map fun v => array (v :: rest) else none
  | _ :: _, _ => none

end Json

end Fleet
