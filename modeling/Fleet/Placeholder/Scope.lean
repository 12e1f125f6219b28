/-
# Scopes

Where the names of a placeholder are looked up.  A scope is either a place in the context or a value
of its own; loops and fragments open further scopes, the innermost of which comes first.
-/
import Fleet.Assoc
import Fleet.Placeholder.Expression
import Fleet.Text.Unsigned

namespace Fleet.Placeholder

/-! ## Failures -/

/-- Why a text could not be filled in. -/
inductive Failure where
  /-- A value is missing; without a path, the text itself stands for it. -/
  | missing (path : Option String)
  /-- The text is malformed, or a helper is unknown or lacks an argument. -/
  | invalid
  deriving DecidableEq

/-! ## Scopes -/

/-- A scope. -/
structure Scope where
  /-- The place in the context. -/
  place : List String
  /-- The value that counts instead of the place, if there is one. -/
  value : Option Json
  /-- What a loop provides by name. -/
  provided : List (String × Json)
  /-- The names that the block gives: to a value, or to the place of the scope. -/
  given : List (String × Option Json)

/-- The context and the scopes in it, the innermost first. -/
structure View where
  /-- The context. -/
  data : Json
  /-- The scopes. -/
  scopes : List Scope

/-- What an expression yields. -/
structure Datum where
  /-- The value, if there is one. -/
  value : Option Json
  /-- Its place in the context, if it has one. -/
  place : Option (List String)
  /-- The path as it is written, if the expression is a path. -/
  written : Option String

/-- The value, or null if there is none. -/
def Datum.json (d : Datum) : Json :=
  d.value.getD .null

/-- A value that is computed. -/
def Datum.ofJson (j : Json) : Datum := ⟨some j, none, none⟩

/-- The scope of the value of an expression, given the names for it. -/
def Datum.scope (d : Datum) (names : List String) : Scope where
  place := d.place.getD []
  value := if d.place.isSome then none else some d.json
  provided := []
  given := names.map fun name => (name, if d.place.isSome then none else some d.json)

/-! ## Looking up -/

/-- The value at the end of a path.  The items of a list go by number. -/
def descend : Json → List String → Except Failure (Option Json)
  | j, [] => .ok (some j)
  | .array items, name :: rest =>
    match Text.unsigned? UInt64.size name with
    | none => .error .invalid
    | some i =>
      match items[i]? with
      | some j => descend j rest
      | none => .ok none
  | .object members, name :: rest =>
    match Assoc.find? name members with
    | some j => descend j rest
    | none => .ok none
  | _, _ :: _ => .ok none

namespace View

/-- The value at a place of the context. -/
def atPlace (v : View) (written : String) (place : List String) : Except Failure Datum :=
  (descend v.data place).map fun value =>
    ⟨value, if value.isSome then some place else none, some written⟩

/-- A part of a value that has no place. -/
def within (written : String) (base : Json) (names : List String) : Except Failure Datum :=
  (descend base names).map fun value => ⟨value, none, some written⟩

/-- What a path leads to in a scope. -/
def inScope (v : View) (written : String) (scope : Option Scope) (names : List String) :
    Except Failure Datum :=
  match scope with
  | none => v.atPlace written names
  | some ⟨place, none, _, _⟩ => v.atPlace written (place ++ names)
  | some ⟨_, some base, _, _⟩ => within written base names

/-- The scope that many steps outwards, or the innermost one. -/
def outward (v : View) (up : Nat) : Option Scope :=
  v.scopes[up]?.or v.scopes.head?

/-- The innermost scope that gives a name, and what it gives. -/
def giver? (v : View) (name : String) : Option (Scope × Option Json) :=
  v.scopes.findSome? fun scope => (scope.given.lookup name).map fun given => (scope, given)

/-- What a path leads to. -/
def resolve (v : View) (p : Path) : Except Failure Datum :=
  if p.fromRoot then v.atPlace p.written p.names
  else
    match p.isLocal, p.names with
    | true, [] => v.inScope p.written v.scopes.head? []
    | true, name :: _ =>
      .ok ⟨v.scopes[p.up]?.bind fun scope => scope.provided.lookup name, none, some p.written⟩
    | false, [] => v.inScope p.written (v.outward p.up) []
    | false, name :: rest =>
      match v.giver? name with
      | some (_, some value) => within p.written value rest
      | some (scope, none) => v.atPlace p.written (scope.place ++ rest)
      | none => v.inScope p.written (v.outward p.up) (name :: rest)

/-- The value of the innermost scope. -/
def current (v : View) : Except Failure Datum :=
  v.inScope "" v.scopes.head? []

end View

end Fleet.Placeholder
