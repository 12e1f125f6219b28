/-
# Reading TOML

The grammar of TOML texts: strings in four forms, keys with points, lists and tables in brackets and
braces, and statements on lines of their own.
-/
import Fleet.Json.Reader
import Fleet.Text.Blank
import Fleet.Toml.Scalar

namespace Fleet.Toml

open Text (isSpaceOrTab)

/-! ## Characters and gaps -/

/-- Whether every line end is one and there is no other control character but the tab. -/
def isClean : List Char → Bool
  | [] => true
  | '\r' :: '\n' :: rest => isClean rest
  | c :: rest => (c == '\t' || c == '\n' || (0x20 ≤ c.toNat && c.toNat ≠ 0x7F)) && isClean rest

/-- Drops spaces and tabs. -/
def skipSpaces (cs : List Char) : List Char :=
  cs.dropWhile isSpaceOrTab

/-- Drops spaces, tabs, line ends and comments; the flag tells whether a comment has begun. -/
def skipGap : Bool → List Char → List Char
  | _, [] => []
  | true, c :: rest => skipGap (c != '\n') rest
  | false, c :: rest =>
    if isSpaceOrTab c || c == '\n' || c == '\r' then skipGap false rest
    else if c == '#' then skipGap true rest
    else c :: rest

/-- Drops the line end behind the opening quotes of a long string. -/
def skipLineEnd : List Char → List Char
  | '\n' :: rest => rest
  | '\r' :: '\n' :: rest => rest
  | cs => cs

/-- Whether a text starts with a line end. -/
def startsWithLineEnd : List Char → Bool
  | '\n' :: _ => true
  | '\r' :: _ => true
  | _ => false

/-! ## Strings -/

/-- The character with a number, unless that is half of a surrogate pair or too large. -/
def charOf? (n : Nat) : Option Char :=
  if n < 0xD800 ∨ (0xDFFF < n ∧ n ≤ 0x10FFFF) then some (Char.ofNat n) else none

/-- The character that a one-letter escape stands for. -/
def escaped? (c : Char) : Option Char :=
  match c with
  | '"' => some '"'
  | '\\' => some '\\'
  | 'b' => some '\x08'
  | 'e' => some '\x1b'
  | 'f' => some '\x0c'
  | 'n' => some '\n'
  | 'r' => some '\r'
  | 't' => some '\t'
  | _ => none

/-- Reads what follows the backslash of an escape. -/
def readEscape : List Char → Option (Char × List Char)
  | 'x' :: a :: b :: rest =>
    ((Json.hexNumber? [a, b]).bind charOf?).map fun c => (c, rest)
  | 'u' :: a :: b :: c :: d :: rest =>
    ((Json.hexNumber? [a, b, c, d]).bind charOf?).map fun c => (c, rest)
  | 'U' :: a :: b :: c :: d :: e :: f :: g :: h :: rest =>
    ((Json.hexNumber? [a, b, c, d, e, f, g, h]).bind charOf?).map fun c => (c, rest)
  | e :: rest => (escaped? e).map fun c => (c, rest)
  | [] => none

/-- Reads a string in single quotes behind the opening one. -/
def readLiteral (cs : List Char) : Option (List Char × List Char) :=
  let text := cs.takeWhile fun c => c != '\'' && c != '\n'
  match cs.drop text.length with
  | '\'' :: rest => some (text, rest)
  | _ => none

/-- Reads a string in double quotes behind the opening one. -/
def readBasic : Nat → List Char → Option (List Char × List Char)
  | 0, _ => none
  | fuel + 1, cs =>
    match cs with
    | [] => none
    | '"' :: rest => some ([], rest)
    | '\n' :: _ => none
    | '\\' :: rest =>
      (readEscape rest).bind fun (c, rest) =>
        (readBasic fuel rest).map fun (text, rest) => (c :: text, rest)
    | c :: rest => (readBasic fuel rest).map fun (text, rest) => (c :: text, rest)

/-- Reads a long string up to three quotes, of which two more may belong to it.  If escapes count, a
backslash at the end of a line hides the gap up to the next character. -/
def readLong (quote : Char) (escapes : Bool) : Nat → List Char → Option (List Char × List Char)
  | 0, _ => none
  | fuel + 1, cs =>
    let quotes := (cs.takeWhile (· == quote)).length
    if 3 ≤ quotes then
      let kept := min (quotes - 3) 2
      some (List.replicate kept quote, cs.drop (kept + 3))
    else
      match cs with
      | [] => none
      | c :: rest =>
        if escapes && c == '\\' then
          if startsWithLineEnd (skipSpaces rest) then
            readLong quote escapes fuel
              (rest.dropWhile fun c => isSpaceOrTab c || c == '\n' || c == '\r')
          else
            (readEscape rest).bind fun (c, rest) =>
              (readLong quote escapes fuel rest).map fun (text, rest) => (c :: text, rest)
        else (readLong quote escapes fuel rest).map fun (text, rest) => (c :: text, rest)

/-! ## Keys -/

/-- Whether a character may stand in a key without quotes. -/
def isKeyChar (c : Char) : Bool :=
  c.isAlphanum || c == '_' || c == '-'

/-- Reads a key without points. -/
def readSimpleKey (cs : List Char) : Option (String × List Char) :=
  match cs with
  | '"' :: rest =>
    (readBasic (rest.length + 1) rest).map fun (text, rest) => (String.ofList text, rest)
  | '\'' :: rest => (readLiteral rest).map fun (text, rest) => (String.ofList text, rest)
  | cs =>
    let text := cs.takeWhile isKeyChar
    if text.isEmpty then none else some (String.ofList text, cs.drop text.length)

/-- The greatest number of parts of a key, and of lists and tables in one another. -/
def maxDepth : Nat := 80

/-- Reads a key of at most so many parts with points between them: the parts before the last one,
and the last one.  Spaces around it are passed over. -/
def readKey : Nat → List Char → Option ((List String × String) × List Char)
  | 0, _ => none
  | fuel + 1, cs =>
    (readSimpleKey (skipSpaces cs)).bind fun (part, rest) =>
      match skipSpaces rest with
      | '.' :: rest =>
        (readKey fuel rest).map fun ((path, key), rest) => ((part :: path, key), rest)
      | rest => some (([], part), rest)

/-! ## Values -/

/-- Whether a character may stand in a value without quotes. -/
def isScalarChar (c : Char) : Bool :=
  !(isSpaceOrTab c || "\r\n#,=[]\x7b\x7d".contains c)

/-- Reads a value without quotes; a date may have a space before its time of day. -/
def readScalar (cs : List Char) : Option (Value × List Char) :=
  let word := cs.takeWhile isScalarChar
  let rest := cs.drop word.length
  let time :=
    match rest with
    | ' ' :: c :: more =>
      if isDateShaped word && c.isDigit then ' ' :: (c :: more).takeWhile isScalarChar else []
    | _ => []
  (scalar? (word ++ time)).map fun v => (v, rest.drop time.length)

mutual

/-- Reads a value with a number of levels for lists and tables, each of which takes two from the
fuel as well. -/
def readValue : Nat → Nat → List Char → Option (Value × List Char)
  | 0, _, _ => none
  | fuel + 1, levels, cs =>
    match cs with
    | '"' :: '"' :: '"' :: rest =>
      (readLong '"' true (rest.length + 1) (skipLineEnd rest)).map fun (text, rest) =>
        (.string (String.ofList text), rest)
    | '\'' :: '\'' :: '\'' :: rest =>
      (readLong '\'' false (rest.length + 1) (skipLineEnd rest)).map fun (text, rest) =>
        (.string (String.ofList text), rest)
    | '"' :: rest =>
      (readBasic (rest.length + 1) rest).map fun (text, rest) =>
        (.string (String.ofList text), rest)
    | '\'' :: rest =>
      (readLiteral rest).map fun (text, rest) => (.string (String.ofList text), rest)
    | '[' :: rest =>
      match levels with
      | 0 => none
      | levels + 1 => (readItems fuel levels rest).map fun (items, rest) => (.list items, rest)
    | '\x7b' :: rest =>
      match levels with
      | 0 => none
      | levels + 1 =>
        (readMembers fuel levels [] rest).map fun (members, rest) => (.table .braces members, rest)
    | cs => readScalar cs

/-- Reads the items of a list up to its closing bracket. -/
def readItems : Nat → Nat → List Char → Option (List Value × List Char)
  | 0, _, _ => none
  | fuel + 1, levels, cs =>
    match skipGap false cs with
    | ']' :: rest => some ([], rest)
    | cs =>
      match readValue fuel levels cs with
      | none => none
      | some (item, rest) =>
        match skipGap false rest with
        | ',' :: rest => (readItems fuel levels rest).map fun (items, rest) => (item :: items, rest)
        | ']' :: rest => some ([item], rest)
        | _ => none

/-- Reads the members of a table up to its closing brace, given those read so far.  There may be
gaps around the sign between a key and its value. -/
def readMembers : Nat → Nat → Members → List Char → Option (Members × List Char)
  | 0, _, _, _ => none
  | fuel + 1, levels, members, cs =>
    match skipGap false cs with
    | '\x7d' :: rest => some (members, rest)
    | cs =>
      match readKey maxDepth cs with
      | none => none
      | some ((path, key), rest) =>
        match skipGap false rest with
        | '=' :: rest =>
          match readValue fuel levels (skipGap false rest) with
          | none => none
          | some (v, rest) =>
            match Members.assign path key v .header members with
            | none => none
            | some (_, members) =>
              match skipGap false rest with
              | ',' :: rest => readMembers fuel levels members rest
              | '\x7d' :: rest => some (members, rest)
              | _ => none
        | _ => none

end

/-! ## Statements -/

/-- Reads a statement. -/
def readStatement (cs : List Char) : Option (Statement × List Char) :=
  match cs with
  | '[' :: '[' :: rest =>
    match readKey maxDepth rest with
    | some ((path, key), ']' :: ']' :: rest) => some (.item path key, rest)
    | _ => none
  | '[' :: rest =>
    match readKey maxDepth rest with
    | some ((path, key), ']' :: rest) => some (.table path key, rest)
    | _ => none
  | cs =>
    match readKey maxDepth cs with
    | some ((path, key), '=' :: rest) =>
      (readValue (2 * rest.length + 2) maxDepth (skipSpaces rest)).map fun (v, rest) =>
        (.assign path key v, rest)
    | _ => none

/-- Whether nothing but a comment stands before the end of the line. -/
def isLineDone (cs : List Char) : Bool :=
  match skipSpaces cs with
  | [] => true
  | '#' :: _ => true
  | cs => startsWithLineEnd cs

/-- Carries out the statements of a text one after the other. -/
def readStatements : Nat → Document → List Char → Option Document
  | 0, _, _ => none
  | fuel + 1, d, cs =>
    match skipGap false cs with
    | [] => some d
    | cs =>
      match readStatement cs with
      | none => none
      | some (statement, rest) =>
        if isLineDone rest then (d.carryOut? statement).bind fun d => readStatements fuel d rest
        else none

/-- The members of a TOML text. -/
def parse? (text : String) : Option Members :=
  let cs :=
    match text.toList with
    | '\uFEFF' :: cs => cs
    | cs => cs
  if isClean cs then (readStatements (cs.length + 1) .empty cs).map Document.root else none

end Fleet.Toml
