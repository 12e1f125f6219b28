/-
# TOML tables

The values of a TOML text, and how its statements build tables up.  A table remembers what brought
it about, since that decides whether later statements may add to it.
-/
namespace Fleet.Toml

/-! ## Values -/

/-- What brought a table about. -/
inductive Origin where
  /-- A header of its own. -/
  | header
  /-- Only headers of tables inside it. -/
  | implied
  /-- A key with points. -/
  | dotted
  /-- Braces; such a table is complete. -/
  | braces
  deriving DecidableEq

/-- A TOML value. -/
inductive Value where
  /-- A string. -/
  | string (s : String)
  /-- An integer; one that names its base and has no digits denotes nothing. -/
  | integer (n : Option Int)
  /-- A number with fraction or exponent, or one that is not finite, as written. -/
  | decimal (literal : String)
  /-- A truth value. -/
  | bool (b : Bool)
  /-- A date, a time of day or both, as written. -/
  | moment (literal : String)
  /-- A list in brackets. -/
  | list (items : List Value)
  /-- A table. -/
  | table (origin : Origin) (members : List (String × Value))
  /-- A list of tables that have headers, the last one first. -/
  | tables (lastFirst : List (List (String × Value)))

instance : Inhabited Value := ⟨.list []⟩

/-- Keys and their values, in the order of the text. -/
abbrev Members := List (String × Value)

/-- The items of a list of either form. -/
def Value.items? : Value → Option (List Value)
  | .list items => some items
  | .tables lastFirst => some (lastFirst.reverse.map (.table .header))
  | _ => none

/-! ## Building tables -/

namespace Members

/-- Gives a key a value, in its place if the key is there already. -/
def put (key : String) (v : Value) : Members → Members
  | [] => [(key, v)]
  | e :: rest => if e.1 = key then (key, v) :: rest else e :: put key v rest

/-- Changes the table at the end of a path, given what brought it about and its members.  Tables on
the way are made if they are missing.  The path of a key with points may not enter a table that has
a header, and no path enters a table in braces. -/
def changeAt (dotted : Bool) (change : Origin → Members → Option (Origin × Members)) :
    List String → Origin → Members → Option (Origin × Members)
  | [], origin, members => change origin members
  | key :: path, origin, members =>
    match members.lookup key with
    | none =>
      (changeAt dotted change path (if dotted then .dotted else .implied) []).map fun t =>
        (origin, put key (.table t.1 t.2) members)
    | some (.table inner ms) =>
      if inner = .braces ∨ (dotted ∧ inner = .header) then none
      else (changeAt dotted change path inner ms).map fun t =>
        (origin, put key (.table t.1 t.2) members)
    | some (.tables (last :: earlier)) =>
      if dotted then none
      else (changeAt dotted change path .header last).map fun t =>
        (origin, put key (.tables (t.2 :: earlier)) members)
    | some _ => none

/-- Gives a new key a value in a table; a key with points leads to a table that only such keys
make. -/
def assign (path : List String) (key : String) (v : Value) (origin : Origin) (members : Members) :
    Option (Origin × Members) :=
  changeAt true (fun inner ms =>
    if (path.isEmpty ∨ inner = .dotted) ∧ (ms.lookup key).isNone then some (inner, ms ++ [(key, v)])
    else none) path origin members

/-- Opens a table by its header: a new one, or one that only headers inside it implied. -/
def openTable (path : List String) (key : String) (root : Members) : Option Members :=
  (changeAt false (fun origin ms =>
    match ms.lookup key with
    | none => some (origin, put key (.table .header []) ms)
    | some (.table .implied inner) => some (origin, put key (.table .header inner) ms)
    | some _ => none) path .header root).map Prod.snd

/-- Opens one more table of a list of tables by its header. -/
def openItem (path : List String) (key : String) (root : Members) : Option Members :=
  (changeAt false (fun origin ms =>
    match ms.lookup key with
    | none => some (origin, put key (.tables [[]]) ms)
    | some (.tables lastFirst) => some (origin, put key (.tables ([] :: lastFirst)) ms)
    | some _ => none) path .header root).map Prod.snd

end Members

/-! ## Statements -/

/-- A statement of a TOML text. -/
inductive Statement where
  /-- A key, which may have points, and its value. -/
  | assign (path : List String) (key : String) (v : Value)
  /-- The header of a table. -/
  | table (path : List String) (key : String)
  /-- The header of one more table of a list. -/
  | item (path : List String) (key : String)

/-- The members of the whole text and the path of the table that is open. -/
structure Document where
  /-- The members. -/
  root : Members
  /-- The open table. -/
  current : List String

namespace Document

/-- The document of the empty text. -/
def empty : Document := ⟨[], []⟩

/-- Carries a statement out, unless it defines something twice. -/
def carryOut? (d : Document) : Statement → Option Document
  | .assign path key v =>
    (Members.changeAt false (Members.assign path key v) d.current .header d.root).map fun t =>
      { d with root := t.2 }
  | .table path key => (Members.openTable path key d.root).map fun root => ⟨root, path ++ [key]⟩
  | .item path key => (Members.openItem path key d.root).map fun root => ⟨root, path ++ [key]⟩

end Document

end Fleet.Toml
