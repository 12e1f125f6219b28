/-
# Filling in placeholders

Values are taken from a context and inserted as they are, without being read again.  A value that is
missing is an error with the path as it is written; a condition treats it like an empty one.  The
block of a fragment stands for the fragment if that is missing, and otherwise is text for it to use.
-/
import Fleet.Placeholder.Canvas
import Fleet.Placeholder.Helper

namespace Fleet.Placeholder

/-! ## Rendering -/

/-- Where a piece is rendered. -/
structure Env where
  /-- The context and the scopes. -/
  view : View
  /-- The text of the block that the fragment may use. -/
  block : Option (List Char)
  /-- The margin. -/
  margin : List Char

/-- A text and the canvas behind it, or a failure. -/
abbrev Rendered := Except Failure (List Char × Canvas)

/-- A way to render pieces. -/
abbrev Renderer := Env → Canvas → List Piece → Rendered

namespace Env

/-- Opens a scope. -/
def push (env : Env) (scope : Scope) : Env :=
  { env with view := { env.view with scopes := scope :: env.view.scopes } }

/-- Writes a text with the margin. -/
def write (env : Env) (canvas : Canvas) (text : List Char) : Rendered :=
  .ok (canvas.write env.margin text)

end Env

/-- Renders a block or a fragment between its beginning and its end. -/
def Canvas.around (canvas : Canvas) (startsLine : Bool) (render : Canvas → Rendered) : Rendered :=
  (render (canvas.enter startsLine)).map fun (text, after) => (text, after.leave canvas)

/-- Renders the same block in one scope after the other. -/
def renderInScopes (render : Scope → Canvas → Rendered) : List Scope → Canvas → Rendered
  | [], canvas => .ok ([], canvas)
  | scope :: rest, canvas =>
    match render scope canvas with
    | .error e => .error e
    | .ok (text, canvas) =>
      match renderInScopes render rest canvas with
      | .error e => .error e
      | .ok (more, canvas) => .ok (text ++ more, canvas)

/-! ## Loops -/

/-- The keys and values that a loop goes through, if it can. -/
def entries? : Json → Option (List (Json × String × Json))
  | .array items => some (items.mapIdx fun i j => (Json.ofNat i, toString i, j))
  | .object members => some (members.map fun (name, j) => (.string name, name, j))
  | _ => none

/-- The scope of one of `count` entries. -/
def entryScope (d : Datum) (names : List String) (count i : Nat) (entry : Json × String × Json) :
    Scope :=
  let (key, name, value) := entry
  let here := if d.place.isSome then none else some value
  let common := [("first", .bool (i == 0)), ("last", .bool (i + 1 == count)), ("index", .ofNat i)]
  { place := (d.place.getD []) ++ [name]
    value := here
    provided := if (d.value.getD .null).isObject then ("key", key) :: common else common
    given :=
      match names with
      | [value, index] => [(index, some key), (value, here)]
      | names => names.map fun value => (value, here) }

/-- The scopes of a loop, if it can go through the value.  An empty value is left to the alternative
of the block if there is one. -/
def loopScopes? (d : Datum) (names : List String) (hasInverse : Bool) : Option (List Scope) :=
  (entries? d.json).bind fun entries =>
    if entries.isEmpty && hasInverse then none
    else some (entries.mapIdx (entryScope d names entries.length))

/-! ## Fragments -/

/-- The name of the block that a fragment may use. -/
def blockName : String := "@partial-block"

/-- The members of a value, of which those of a list or string go by number. -/
def membersOf : Json → List (String × Json)
  | .object members => members
  | .array items => items.mapIdx fun i j => (toString i, j)
  | .string s => s.toList.mapIdx fun i c => (toString i, .string (String.singleton c))
  | _ => []

/-- A value with named arguments for further members. -/
def extend (base : Json) (named : List (String × Datum)) : Json :=
  if named.isEmpty then base
  else Json.ofMembers (membersOf base ++ named.map fun (name, d) => (name, d.json))

/-- Where a fragment is rendered.  Arguments open a scope that provides what the
innermost one does. -/
def fragmentEnv (env : Env) (margin : List Char) (given : Given) : Except Failure Env :=
  let env := { env with margin := env.margin ++ margin }
  let opened (base : Datum) : Env :=
    let outer := env.view.scopes.headD ⟨[], none, [], []⟩
    env.push { outer with value := some (extend base.json given.named) }
  match given.plain, given.named with
  | d :: _, _ => .ok (opened d)
  | [], [] => .ok env
  | [], _ :: _ => env.view.current.map opened

/-- Carries out a directive: the only one defines its block as a fragment. -/
def define (v : View) (canvas : Canvas) (head : Head) (body : Option (List Piece)) :
    Except Failure Canvas :=
  match evalArgs v head.args with
  | .error e => .error e
  | .ok given =>
    match head.helper, given.plain.head?.bind Datum.value, body with
    | "inline", some (.string name), some ps =>
      .ok { canvas with fragments := (name, ps) :: canvas.fragments }
    | _, _, _ => .error .invalid

/-- Renders a fragment, given how to render its own block if it has one.  The block stands for a
missing fragment; otherwise its text is made before the fragment, which may use it. -/
def renderFragment (again : Renderer) (env : Env) (margin : List Char) (label : Expr) (args : Args)
    (hasBlock : Bool) (block : Env → Canvas → Rendered) (canvas : Canvas) : Rendered := do
  let name ← label.name env.view
  let given ← evalArgs env.view args
  let missing : Rendered := if hasBlock then block env canvas else .error .invalid
  if name = blockName then
    match env.block with
    | some text => .ok (text, canvas)
    | none => missing
  else
    match canvas.fragments.lookup name with
    | none => missing
    | some ps =>
      let inner ← fragmentEnv env margin given
      if hasBlock then
        let (text, canvas) ← block inner canvas
        again { inner with block := some text } canvas ps
      else again inner canvas ps

/-! ## Pieces -/

/-- Renders the value of a helper without a block.  The margin takes no notice of the value of a
test. -/
def renderHelper (env : Env) (canvas : Canvas) (h : Helper) (given : Given) : Rendered :=
  match h.value given with
  | .error e => .error e
  | .ok j => if h.isTest then .ok (display j, canvas) else env.write canvas (display j)

/-- Renders what a helper makes of its arguments without a block. -/
def renderCall (env : Env) (canvas : Canvas) (name : String) (args : Args) : Rendered := do
  let given ← evalArgs env.view args
  match helper? name with
  | none => .error .invalid
  | some h => renderHelper env canvas h given

/-- Renders the value of an expression; a name of a helper calls it. -/
def renderValue (env : Env) (canvas : Canvas) (e : Expr) : Rendered := do
  let name ← e.name env.view
  match helper? name with
  | some h => renderHelper env canvas h .empty
  | none =>
    let d ← e.eval env.view
    match d.value with
    | some j => env.write canvas (display j)
    | none => .error d.lacking

/-- Renders a block, given how to render what it holds and its alternative. -/
def renderBlock (env : Env) (head : Head) (hasInverse : Bool)
    (body inverse : Env → Canvas → Rendered) (canvas : Canvas) : Rendered := do
  let given ← evalArgs env.view head.args
  match helper? head.helper with
  | none => .error .invalid
  | some .each =>
    let d ← given.first
    match loopScopes? d head.binders hasInverse with
    | some scopes => renderInScopes (fun scope => body (env.push scope)) scopes canvas
    | none => if hasInverse then inverse env canvas else .error d.lacking
  | some .within =>
    let d ← given.first
    if isTruthy d.json then
      body (env.push (d.scope (if head.binders.length = 1 then head.binders else []))) canvas
    else if hasInverse then inverse env canvas
    else .error d.lacking
  | some h =>
    match ← h.test? given with
    | some true => body env canvas
    | some false => inverse env canvas
    | none => renderHelper env canvas h given

mutual

/-- Renders a piece; `again` renders what fragments hold. -/
def Piece.render (again : Renderer) (env : Env) (canvas : Canvas) : Piece → Rendered
  | .text cs => env.write canvas cs
  | .value e => renderValue env canvas e
  | .invoke helper args => renderCall env canvas helper args
  | .block fresh head body inverse =>
    canvas.around (canvas.startsBlock fresh)
      (renderBlock env head inverse.isSome (fun env canvas => renderPieces again env canvas body)
        fun env canvas =>
          match inverse with
          | some ps => renderPieces again env canvas ps
          | none => .ok ([], canvas))
  | .fragment fresh margin name args block =>
    canvas.around (canvas.startsFragment fresh margin)
      (renderFragment again env margin name args block.isSome fun env canvas =>
        match block with
        | some ps => renderPieces again env canvas ps
        | none => .ok ([], canvas))
  | .directive head body => (define env.view canvas head body).map fun canvas => ([], canvas)

/-- Renders pieces one after the other; the first failure counts. -/
def renderPieces (again : Renderer) (env : Env) (canvas : Canvas) : List Piece → Rendered
  | [] => .ok ([], canvas)
  | p :: rest =>
    match p.render again env canvas with
    | .error e => .error e
    | .ok (text, canvas) =>
      match renderPieces again env canvas rest with
      | .error e => .error e
      | .ok (more, canvas) => .ok (text ++ more, canvas)

end

/-- Renders pieces with fragments in one another up to a depth. -/
def renderDeep : Nat → Renderer
  | 0 => fun _ _ _ => .error .invalid
  | depth + 1 => renderPieces (renderDeep depth)

/-! ## Texts -/

/-- How deep fragments may lie in one another. -/
def maxDepth : Nat := 1000

/-- Whether two opening braces stand in a text. -/
def hasBraces : List Char → Bool
  | '\x7b' :: '\x7b' :: _ => true
  | _ :: rest => hasBraces rest
  | [] => false

/-- Fills in the placeholders of a text.  A text without two opening braces is left alone. -/
def fill (context : SortedMap String String) (s : String) : Except Failure String :=
  if hasBraces s.toList then
    match pieces s with
    | none => .error .invalid
    | some ps =>
      let data := Json.object (context.entries.map fun e => (e.1, .string e.2))
      let env : Env := ⟨⟨data, [⟨[], none, [], []⟩]⟩, none, []⟩
      (renderDeep maxDepth env .blank ps).map fun (text, _) => String.ofList text
  else .ok s

end Fleet.Placeholder
