/-
# Printing JSON

The compact form of a document, whose text is what checksums are taken of, and the indented form.
Numbers with a fraction or an exponent are printed with their shortest digits.
-/
import Fleet.Json.Written
import Fleet.Binary64.Shortest

namespace Fleet.Json

/-! ## Strings -/

/-- A hexadecimal digit in lower case. -/
def hexDigit (n : Nat) : Char :=
  if n < 10 then Char.ofNat ('0'.toNat + n) else Char.ofNat ('a'.toNat + (n - 10))

/-- A character inside quotes: quotes, backslashes and control characters are escaped. -/
def escape (c : Char) : List Char :=
  match c with
  | '"' => ['\\', '"']
  | '\\' => ['\\', '\\']
  | '\x08' => ['\\', 'b']
  | '\x0c' => ['\\', 'f']
  | '\n' => ['\\', 'n']
  | '\r' => ['\\', 'r']
  | '\t' => ['\\', 't']
  | c =>
    if c.toNat < 0x20 then ['\\', 'u', '0', '0', hexDigit (c.toNat / 16), hexDigit (c.toNat % 16)]
    else [c]

/-- A string in quotes. -/
def quoted (s : String) : List Char :=
  '"' :: (s.toList.flatMap escape ++ ['"'])

/-! ## Numbers -/

/-- How decimal numbers are written: positional while the exponent of the leading digit is in a
range, with an exponent otherwise. -/
structure DecimalFormat where
  /-- The least exponent written positionally. -/
  least : Int
  /-- The greatest exponent written positionally. -/
  greatest : Int

/-- Decimal numbers of documents are positional from `0.00001` to below `10 ^ 16`. -/
def decimalFormat : DecimalFormat := ⟨-5, 15⟩

/-- Digits with a point behind the first `n` of them, filled up with zeros on either side. -/
def positional (digits : List Char) (n : Int) : List Char :=
  if n ≤ 0 then '0' :: '.' :: (List.replicate (-n).toNat '0' ++ digits)
  else
    let whole := digits.take n.toNat ++ List.replicate (n.toNat - digits.length) '0'
    let fraction := digits.drop n.toNat
    whole ++ '.' :: (if fraction.isEmpty then ['0'] else fraction)

/-- Digits with a point behind the first of them, and the exponent of ten. -/
def scientific (digits : List Char) (e : Int) : List Char :=
  let mantissa :=
    match digits with
    | d :: rest => d :: (if rest.isEmpty then [] else '.' :: rest)
    | [] => ['0']
  mantissa ++ 'e' :: (if e < 0 then '-' else '+') :: Nat.toDigits 10 e.natAbs

/-- A decimal number with its shortest digits. -/
def DecimalFormat.render (format : DecimalFormat) (x : Binary64) : List Char :=
  let (d, t) := x.shortest
  let digits := Nat.toDigits 10 d
  let e : Int := t + digits.length - 1
  (if x.negative then ['-'] else []) ++
    if format.least ≤ e ∧ e ≤ format.greatest then positional digits (e + 1)
    else scientific digits e

/-- An integer in decimal digits. -/
def integerText (n : Int) : List Char :=
  if n < 0 then '-' :: Nat.toDigits 10 n.natAbs else Nat.toDigits 10 n.natAbs

/-- A number. -/
def Number.render : Number → List Char
  | .integer n => integerText n.value
  | .decimal x => decimalFormat.render x

/-! ## Values -/

namespace Written

mutual

/-- The text without white space. -/
def compact : Written → List Char
  | null => "null".toList
  | bool true => "true".toList
  | bool false => "false".toList
  | number n => n.render
  | string s => quoted s
  | array items => '[' :: (compactItems items ++ [']'])
  | object members => '\x7b' :: (compactMembers members ++ ['\x7d'])
  | void => "null".toList

/-- The items of a list, with commas between them. -/
def compactItems : List Written → List Char
  | [] => []
  | [w] => compact w
  | w :: rest => compact w ++ ',' :: compactItems rest

/-- The members of an object, with commas between them. -/
def compactMembers : List (String × Written) → List Char
  | [] => []
  | [(k, w)] => quoted k ++ ':' :: compact w
  | (k, w) :: rest => quoted k ++ ':' :: (compact w ++ ',' :: compactMembers rest)

end

/-- A line break and the indentation of a level. -/
def newline (width level : Nat) : List Char :=
  '\n' :: List.replicate (width * level) ' '

mutual

/-- The text with every item on a line of its own, indented by its level. -/
def pretty (width level : Nat) : Written → List Char
  | array [] => ['[', ']']
  | array items =>
    '[' :: (prettyItems width (level + 1) items ++ (newline width level ++ [']']))
  | object [] => ['\x7b', '\x7d']
  | object members =>
    '\x7b' :: (prettyMembers width (level + 1) members ++ (newline width level ++ ['\x7d']))
  | null => "null".toList
  | bool true => "true".toList
  | bool false => "false".toList
  | number n => n.render
  | string s => quoted s
  | void => "null".toList

/-- The items of a list, each on its line. -/
def prettyItems (width level : Nat) : List Written → List Char
  | [] => []
  | [w] => newline width level ++ pretty width level w
  | w :: rest =>
    newline width level ++ (pretty width level w ++ ',' :: prettyItems width level rest)

/-- The members of an object, each on its line. -/
def prettyMembers (width level : Nat) : List (String × Written) → List Char
  | [] => []
  | [(k, w)] => newline width level ++ (quoted k ++ ':' :: ' ' :: pretty width level w)
  | (k, w) :: rest =>
    newline width level ++
      (quoted k ++ ':' :: ' ' ::
        (pretty width level w ++ ',' :: prettyMembers width level rest))

end

end Written

/-- The canonical text of a document. -/
def render (j : Json) : String :=
  String.ofList (Written.ofJson j).compact

/-- The text of a document with this indentation. -/
def renderPretty (width : Nat) (j : Json) : String :=
  String.ofList ((Written.ofJson j).pretty width 0)

end Fleet.Json
