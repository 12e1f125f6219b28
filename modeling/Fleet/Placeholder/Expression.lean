/-
# Placeholder expressions

What stands between the braces of a placeholder: a path, a literal, or a call of a helper with
arguments.  The readers here take the rest of the text and give back what they left of it.
-/
import Fleet.Json.Reader

namespace Fleet.Placeholder

/-! ## Expressions -/

/-- A path to a value. -/
structure Path where
  /-- The path as it is written. -/
  written : String
  /-- Whether it starts at the context itself. -/
  fromRoot : Bool
  /-- Whether it names a value that a loop provides. -/
  isLocal : Bool
  /-- The number of steps to enclosing scopes. -/
  up : Nat
  /-- The names along the path. -/
  names : List String

/-- An expression. -/
inductive Expr where
  /-- A value written down. -/
  | literal (value : Json)
  /-- The value at the end of a path. -/
  | path (p : Path)
  /-- A helper and its arguments; those without a name come first. -/
  | call (helper : String) (args : List (Option String × Expr))

instance : Inhabited Expr := ⟨.literal .null⟩

/-- The arguments of a helper; those without a name come first. -/
abbrev Args := List (Option String × Expr)

/-- A helper with its arguments and the names that it gives to the values it goes through. -/
structure Head where
  /-- The name of the helper. -/
  helper : String
  /-- The arguments. -/
  args : Args
  /-- The names for a value and its key. -/
  binders : List String

/-! ## Names and paths -/

/-- The characters of names: letters and digits of any script, and some signs. -/
def isNameChar (c : Char) : Bool :=
  c.isAlphanum || c == '_' || c == '-' || c == '$' || c == ':' || 0x80 ≤ c.toNat

/-- Drops leading white space. -/
def skipBlanks (cs : List Char) : List Char :=
  Json.skipBlanks cs

/-- Reads a name. -/
def readName (cs : List Char) : Option (String × List Char) :=
  let name := cs.takeWhile isNameChar
  if name.isEmpty then none else some (String.ofList name, cs.dropWhile isNameChar)

/-- Drops a word if the text starts with it. -/
def dropWord (word : List Char) (cs : List Char) : Option (List Char) :=
  if word.isPrefixOf cs then some (cs.drop word.length) else none

/-- Drops a separator of a path. -/
def dropSeparator (cs : List Char) : Option (List Char) :=
  match cs with
  | '/' :: rest => some rest
  | '.' :: rest => some rest
  | _ => none

/-- Drops a word that a separator follows, together with the separator. -/
def dropStep (word : List Char) (cs : List Char) : Option (List Char) :=
  (dropWord word cs).bind dropSeparator

/-- Reads one item of a path: a name, or any text in brackets.  The item `this`
stays where it is. -/
def readItem (cs : List Char) : Option (List String × List Char) :=
  let read :=
    match cs with
    | '[' :: rest =>
      match rest.dropWhile (· != ']') with
      | _ :: after => some (String.ofList (rest.takeWhile (· != ']')), after)
      | [] => none
    | _ => readName cs
  read.map fun (name, rest) => (if name = "this" then [] else [name], rest)

/-- Reads the further items of a path. -/
def readItems : Nat → List Char → List String × List Char
  | 0, cs => ([], cs)
  | fuel + 1, cs =>
    match (dropSeparator cs).bind readItem with
    | some (item, rest) =>
      let (items, rest) := readItems fuel rest
      (item ++ items, rest)
    | none => ([], cs)

/-- Drops one step that stays where it is. -/
def skipHere (cs : List Char) : List Char :=
  ((dropStep "this".toList cs).or (dropWord ['.', '/'] cs)).getD cs

/-- Counts and drops steps to enclosing scopes. -/
def countUp : Nat → List Char → Nat × List Char
  | 0, cs => (0, cs)
  | fuel + 1, cs =>
    match dropStep ['.', '.'] cs with
    | some rest =>
      let (up, rest) := countUp fuel rest
      (up + 1, rest)
    | none => (0, cs)

/-- Reads a path. -/
def readPath (cs : List Char) : Option (Path × List Char) :=
  let afterHere := skipHere cs
  let root := dropStep "@root".toList afterHere
  let (isLocal, afterAt) :=
    match root.getD afterHere with
    | '@' :: rest => (true, rest)
    | rest => (false, rest)
  let (up, afterUp) := countUp cs.length afterAt
  (readItem afterUp).map fun (first, rest) =>
    let (more, rest) := readItems cs.length rest
    let written := String.ofList (cs.take (cs.length - rest.length))
    (⟨written, root.isSome, isLocal, up, first ++ more⟩, rest)

/-! ## Literals -/

/-- Drops a word that no character of a name follows. -/
def dropKeyword (word : String) (cs : List Char) : Option (List Char) :=
  (dropWord word.toList cs).filter fun rest => !(rest.head?.any isNameChar)

/-- Drops the rest of a string behind its opening quote, which may occur in it with a backslash. -/
def skipString (quote : Char) : List Char → Option (List Char)
  | [] => none
  | '\\' :: 'u' :: a :: b :: c :: d :: rest =>
    if (Json.hexNumber? [a, b, c, d]).isSome then skipString quote rest else none
  | '\\' :: e :: rest =>
    if e = quote ∨ (e ≠ '"' ∧ (Json.escaped? e).isSome) then skipString quote rest else none
  | c :: rest => if c = quote then some rest else skipString quote rest

/-- Drops a string. -/
def skipQuoted (cs : List Char) : Option (List Char) :=
  match cs with
  | '"' :: rest => skipString '"' rest
  | '\'' :: rest => skipString '\'' rest
  | _ => none

/-- Drops the exponent of a number, if there is one. -/
def skipExponent (cs : List Char) : List Char :=
  match cs with
  | 'E' :: rest =>
    let digits := (dropWord ['-'] rest).getD rest
    if digits.head?.any Char.isDigit then digits.dropWhile Char.isDigit else cs
  | _ => cs

/-- Drops a number that no character of a name follows. -/
def skipNumber (cs : List Char) : Option (List Char) :=
  let start := (dropWord ['-'] cs).getD cs
  if start.head?.any Char.isDigit then
    let whole := start.dropWhile Char.isDigit
    let fraction := ((dropWord ['.'] whole).getD whole).dropWhile Char.isDigit
    some (skipExponent fraction) |>.filter fun rest => !(rest.head?.any isNameChar)
  else none

mutual

/-- Drops a literal.  Items of lists and members of objects may be missing before a comma. -/
def skipLiteral : Nat → List Char → Option (List Char)
  | 0, _ => none
  | fuel + 1, cs =>
    match cs with
    | '[' :: rest =>
      let start := skipBlanks rest
      skipItems fuel ((skipLiteral fuel start).getD start)
    | '\x7b' :: rest =>
      let start := skipBlanks rest
      skipMembers fuel ((skipMember fuel start).getD start)
    | _ =>
      (skipQuoted cs).or
        ((dropKeyword "true" cs).or
          ((dropKeyword "false" cs).or ((dropKeyword "null" cs).or (skipNumber cs))))

/-- Drops the further items of a list and its closing bracket. -/
def skipItems : Nat → List Char → Option (List Char)
  | 0, _ => none
  | fuel + 1, cs =>
    match skipBlanks cs with
    | ',' :: rest => (skipLiteral fuel (skipBlanks rest)).bind (skipItems fuel)
    | ']' :: rest => some rest
    | _ => none

/-- Drops a member of an object. -/
def skipMember : Nat → List Char → Option (List Char)
  | 0, _ => none
  | fuel + 1, cs =>
    (skipQuoted cs).bind fun rest =>
      match skipBlanks rest with
      | ':' :: rest => skipLiteral fuel (skipBlanks rest)
      | _ => none

/-- Drops the further members of an object and its closing brace. -/
def skipMembers : Nat → List Char → Option (List Char)
  | 0, _ => none
  | fuel + 1, cs =>
    match skipBlanks cs with
    | ',' :: rest => (skipMember fuel (skipBlanks rest)).bind (skipMembers fuel)
    | '\x7d' :: rest => some rest
    | _ => none

end

/-- The inside of a string in single quotes as it stands in double quotes. -/
def requote : List Char → List Char
  | [] => []
  | '\\' :: '\'' :: rest => '\'' :: requote rest
  | '"' :: rest => '\\' :: '"' :: requote rest
  | c :: rest => c :: requote rest

/-- The number of lists and objects of a literal that may lie in one another. -/
def maxLiteralLevels : Nat := 127

/-- The value of a literal.  Its text has to be JSON, except that single quotes may be around it. -/
def literalValue? (cs : List Char) : Option Json :=
  let text :=
    match cs with
    | '\'' :: rest => '"' :: (requote rest.dropLast ++ ['"'])
    | cs => cs
  (Json.Written.parse? (String.ofList text)).bind (·.toJson? maxLiteralLevels)

/-! ## Arguments and calls -/

/-- Whether the text starts with a word that ends the arguments, even if blanks follow it. -/
def startsWithKeyword (cs : List Char) : Bool :=
  let ends := fun (word : String) =>
    (dropWord word.toList cs).any fun rest => !((skipBlanks rest).head?.any isNameChar)
  ends "as" || ends "else"

/-- Puts the arguments without a name first; of those with one name the last counts. -/
def arrange (args : Args) : Args :=
  let named := args.filterMap fun (name, e) => name.map fun n => (n, e)
  args.filter (·.1.isNone) ++ (Assoc.insertAll [] named).map fun (n, e) => (some n, e)

mutual

/-- Reads the value of an argument.  A text that looks like a literal is nothing else. -/
def readParam : Nat → List Char → Option (Expr × List Char)
  | 0, _ => none
  | fuel + 1, cs =>
    if startsWithKeyword cs then none
    else
      match skipLiteral (2 * cs.length + 2) cs with
      | some rest =>
        (literalValue? (cs.take (cs.length - rest.length))).map fun j => (.literal j, rest)
      | none =>
        match readPath cs with
        | some (p, rest) => some (.path p, rest)
        | none => readNested fuel cs

/-- Reads a call in parentheses. -/
def readNested : Nat → List Char → Option (Expr × List Char)
  | 0, _ => none
  | fuel + 1, cs =>
    match cs with
    | '(' :: rest =>
      let start := skipBlanks rest
      let inside :=
        (readCall fuel start).or
          ((readPath start).map fun (p, rest) => ((p.written, []), rest))
      inside.bind fun ((helper, args), rest) =>
        match skipBlanks rest with
        | ')' :: rest => some (.call helper args, rest)
        | _ => none
    | _ => none

/-- Reads a helper with at least one argument. -/
def readCall : Nat → List Char → Option ((String × Args) × List Char)
  | 0, _ => none
  | fuel + 1, cs =>
    match readName cs with
    | some (helper, rest) =>
      match readArgs fuel rest with
      | ([], _) => none
      | (args, rest) => some ((helper, arrange args), rest)
    | none => none

/-- Reads arguments as long as there are any. -/
def readArgs : Nat → List Char → Args × List Char
  | 0, cs => ([], cs)
  | fuel + 1, cs =>
    let start := skipBlanks cs
    let named :=
      match readName start with
      | some (name, rest) =>
        match skipBlanks rest with
        | '=' :: rest =>
          (readParam fuel (skipBlanks rest)).map fun (e, rest) => ((some name, e), rest)
        | _ => none
      | none => none
    match named with
    | some (arg, rest) =>
      let (args, rest) := readArgs fuel rest
      (arg :: args, rest)
    | none =>
      match readParam fuel start with
      | some (e, rest) =>
        let (args, rest) := readArgs fuel rest
        ((none, e) :: args, rest)
      | none => ([], cs)

end

/-- A fuel that suffices for the expressions of a text. -/
def fuelFor (cs : List Char) : Nat :=
  4 * cs.length + 4

/-- Reads the arguments of a helper, of which there may be none. -/
def readArguments (cs : List Char) : Args × List Char :=
  let (args, rest) := readArgs (fuelFor cs) cs
  (arrange args, rest)

/-- Reads the names for the values that a helper goes through. -/
def readBinders (cs : List Char) : List String × List Char :=
  let read : Option (List String × List Char) := do
    let rest ← dropWord "as".toList (skipBlanks cs)
    let rest ← dropWord ['|'] (skipBlanks rest)
    let (first, rest) ← readName (skipBlanks rest)
    let (names, rest) :=
      match readName (skipBlanks rest) with
      | some (second, rest) => ([first, second], rest)
      | none => ([first], rest)
    return (names, ← dropWord ['|'] (skipBlanks rest))
  read.getD ([], cs)

/-- Reads a helper with any arguments, and the names it gives. -/
def readHead (cs : List Char) : Option (Head × List Char) :=
  (readName (skipBlanks cs)).map fun (helper, rest) =>
    let (args, rest) := readArguments rest
    let (binders, rest) := readBinders rest
    (⟨helper, args, binders⟩, rest)

end Fleet.Placeholder
