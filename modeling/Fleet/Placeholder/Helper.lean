/-
# Helpers

What the helpers make of their arguments.  Some compute a value, some decide whether a block is
shown, and some open scopes for it; without a block the latter two show nothing.
-/
import Fleet.Json.Order
import Fleet.Json.Printer
import Fleet.Placeholder.Scope

namespace Fleet.Placeholder

/-! ## Values -/

mutual

/-- The text of a value where it is inserted. -/
def display : Json → List Char
  | .null => []
  | .bool b => if b then "true".toList else "false".toList
  | .number n => n.render
  | .string s => s.toList
  | .array items => '[' :: (displayItems items ++ [']'])
  | .object _ => "[object]".toList

/-- The texts of the items of a list, with commas between them. -/
def displayItems : List Json → List Char
  | [] => []
  | [j] => display j
  | j :: rest => display j ++ ',' :: ' ' :: displayItems rest

end

/-- Whether a condition holds for a value.  Zero and the numbers next to it count as false. -/
def isTruthy : Json → Bool
  | .null => false
  | .bool b => b
  | .number (.integer n) => n.value != 0
  | .number (.decimal x) => decide (Binary64.leadingBit ≤ x.significand)
  | .string s => !s.isEmpty
  | .array items => !items.isEmpty
  | .object members => !members.isEmpty

/-- Whether a condition holds for a value if every number counts as true. -/
def isPresent : Json → Bool
  | .number _ => true
  | j => isTruthy j

/-- The size of a value: bytes of a string, items of a list, members of an object. -/
def sizeOfValue : Json → Nat
  | .string s => s.utf8ByteSize
  | .array items => items.length
  | .object members => members.length
  | _ => 0

/-- An item of a list by number, or a member of an object by name. -/
def itemAt? : Json → Json → Option Json
  | .array items, key => key.nat?.bind fun n => items[n]?
  | .object members, .string name => Assoc.find? name members
  | _, _ => none

/-! ## Helpers -/

/-- The helpers. -/
inductive Helper where
  /-- Shows its block if its argument holds, or if it does not. -/
  | condition (negated : Bool)
  /-- Shows its block for every item of its argument. -/
  | each
  /-- Shows its block with its argument for a scope. -/
  | within
  /-- Shows its block in any case. -/
  | always
  /-- Shows nothing. -/
  | log
  /-- Tests its arguments, that many, all of which need a value. -/
  | test (arity : Nat) (holds : List Json → Bool)
  /-- Tests its arguments, any number, of which some may have no value. -/
  | testAll (holds : List Json → Bool)
  /-- The size of its argument, which needs a value. -/
  | size
  /-- The item or member of its first argument that its second one names. -/
  | lookup

/-- The test of two values by how they compare. -/
def comparison (holds : Ordering → Bool) : Helper :=
  .test 2 fun vs => ((vs.getD 0 .null).compare? (vs.getD 1 .null)).any holds

/-- The helpers by name. -/
def helper? (name : String) : Option Helper :=
  match name with
  | "if" => some (.condition false)
  | "unless" => some (.condition true)
  | "each" => some .each
  | "with" => some .within
  | "raw" => some .always
  | "log" => some .log
  | "lookup" => some .lookup
  | "len" => some .size
  | "eq" => some (.test 2 fun vs => (vs.getD 0 .null).same (vs.getD 1 .null))
  | "ne" => some (.test 2 fun vs => !(vs.getD 0 .null).same (vs.getD 1 .null))
  | "gt" => some (comparison (· == .gt))
  | "gte" => some (comparison (· != .lt))
  | "lt" => some (comparison (· == .lt))
  | "lte" => some (comparison (· != .gt))
  | "not" => some (.test 1 fun vs => !isTruthy (vs.getD 0 .null))
  | "and" => some (.testAll (·.all isTruthy))
  | "or" => some (.testAll (·.any isTruthy))
  | _ => none

/-- The values of the arguments of a helper. -/
structure Given where
  /-- Those without a name. -/
  plain : List Datum
  /-- Those with a name. -/
  named : List (String × Datum)

namespace Given

/-- No arguments. -/
def empty : Given := ⟨[], []⟩

/-- Adds an argument in front of the others. -/
def add (g : Given) (name : Option String) (d : Datum) : Given :=
  match name with
  | some n => { g with named := (n, d) :: g.named }
  | none => { g with plain := d :: g.plain }

/-- The first argument without a name, which may have no value. -/
def first (g : Given) : Except Failure Datum :=
  match g.plain with
  | d :: _ => .ok d
  | [] => .error .invalid

/-- The values of the first arguments without a name, all of which need one. -/
def values (g : Given) (count : Nat) : Except Failure (List Json) :=
  match (g.plain.take count).mapM Datum.value with
  | some vs => if vs.length = count then .ok vs else .error .invalid
  | none => .error .invalid

/-- Whether numbers that are zero count as true. -/
def countsZero (g : Given) : Bool :=
  (g.named.lookup "includeZero").any fun d => d.value = some (.bool true)

/-- Whether the level of a message is one of the known ones, in any case of letters. -/
def hasKnownLevel (g : Given) : Bool :=
  match (g.named.lookup "level").bind Datum.value with
  | some (.string s) =>
    ["error", "warn", "info", "debug", "trace"].contains (String.ofList (s.toList.map Char.toLower))
  | _ => true

end Given

/-- The failure of a helper that needs the value of its argument. -/
def Datum.lacking (d : Datum) : Failure :=
  .missing d.written

namespace Helper

/-- Whether a helper tests its arguments and does nothing else. -/
def isTest : Helper → Bool
  | test _ _ | testAll _ => true
  | _ => false

/-- Whether a helper shows its block or its alternative, if that is all it decides. -/
def test? (h : Helper) (given : Given) : Except Failure (Option Bool) :=
  match h with
  | condition negated =>
    given.first.map fun d =>
      some ((if given.countsZero then isPresent d.json else isTruthy d.json) != negated)
  | always => .ok (some true)
  | test arity holds => (given.values arity).map fun vs => some (holds vs)
  | testAll holds => .ok (some (holds (given.plain.map Datum.json)))
  | each | within | log | size | lookup => .ok none

/-- The value of a helper without a block. -/
def value (h : Helper) (given : Given) : Except Failure Json :=
  match h with
  | condition _ | each => given.first.map fun _ => .string ""
  | within =>
    match given.first with
    | .ok d => if isTruthy d.json then .ok (.string "") else .error d.lacking
    | .error e => .error e
  | always => .ok (.string "")
  | log => if given.hasKnownLevel then .ok (.string "") else .error .invalid
  | test arity holds => (given.values arity).map fun vs => .bool (holds vs)
  | testAll holds => .ok (.bool (holds (given.plain.map Datum.json)))
  | size => (given.values 1).map fun vs => Json.ofNat (sizeOfValue (vs.getD 0 .null))
  | lookup =>
    match given.plain with
    | collection :: key :: _ =>
      match itemAt? collection.json key.json with
      | some j => .ok j
      | none => .error (.missing none)
    | _ => .error .invalid

end Helper

/-! ## Expressions -/

mutual

/-- What an expression yields. -/
def Expr.eval (v : View) : Expr → Except Failure Datum
  | .literal j => .ok (.ofJson j)
  | .path p => v.resolve p
  | .call name args =>
    match evalArgs v args with
    | .error e => .error e
    | .ok given =>
      match helper? name with
      | some h => (h.value given).map .ofJson
      | none => .error .invalid

/-- The values of arguments; the first failure counts. -/
def evalArgs (v : View) : Args → Except Failure Given
  | [] => .ok .empty
  | (name, e) :: rest =>
    match e.eval v with
    | .error e => .error e
    | .ok d =>
      match evalArgs v rest with
      | .error e => .error e
      | .ok given => .ok (given.add name d)

end

/-- The text of an expression that stands for a name: of a path, the path itself. -/
def Expr.name (v : View) : Expr → Except Failure String
  | .path p => .ok p.written
  | e => (e.eval v).map fun d => String.ofList (display d.json)

end Fleet.Placeholder
