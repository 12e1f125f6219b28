/-
# Reading JSON

The grammar of JSON texts.  A text is read into `Written`, which keeps what a document forgets; the
limit on nesting is the business of who interprets it.  Integers that fit 64 bits stay integers
and every other number becomes a double.
-/
import Fleet.Json.Written

namespace Fleet.Json

/-! ## Characters -/

/-- The white space of JSON. -/
def isJsonBlank (c : Char) : Bool :=
  c == ' ' || c == '\t' || c == '\n' || c == '\r'

/-- Drops leading white space. -/
def skipBlanks (cs : List Char) : List Char :=
  cs.dropWhile isJsonBlank

/-- The value of a decimal digit. -/
def digitValue (c : Char) : Nat :=
  c.toNat - '0'.toNat

/-- The value of a hexadecimal digit of either case. -/
def hexValue? (c : Char) : Option Nat :=
  if '0' ≤ c ∧ c ≤ '9' then some (c.toNat - '0'.toNat)
  else if 'a' ≤ c ∧ c ≤ 'f' then some (c.toNat - 'a'.toNat + 10)
  else if 'A' ≤ c ∧ c ≤ 'F' then some (c.toNat - 'A'.toNat + 10)
  else none

/-- The value of hexadecimal digits, the most significant first. -/
def hexNumber? (cs : List Char) : Option Nat :=
  cs.foldl (fun acc c => acc.bind fun n => (hexValue? c).map fun d => 16 * n + d) (some 0)

/-! ## Numbers -/

/-- The greatest significand that is kept exactly. -/
def maxSignificand : Nat := 18446744073709551615

/-- Reads the digits of an integer part: the significand and the number of digits left out because
they would not fit. -/
def readDigits (significand : Nat) : List Nat → Nat × Nat
  | [] => (significand, 0)
  | d :: rest =>
    if significand * 10 + d ≤ maxSignificand then readDigits (significand * 10 + d) rest
    else (significand, rest.length + 1)

/-- Reads the digits behind the point until one does not fit: the significand and the number of
digits read. -/
def readFraction (significand : Nat) : List Nat → Nat × Nat
  | [] => (significand, 0)
  | d :: rest =>
    if significand * 10 + d ≤ maxSignificand then
      let (s, n) := readFraction (significand * 10 + d) rest
      (s, n + 1)
    else (significand, 0)

/-- The parts of a number literal. -/
structure Literal where
  /-- Whether it starts with a minus sign. -/
  negative : Bool
  /-- The digits before the point. -/
  whole : List Nat
  /-- The digits behind the point, if there is one. -/
  fraction : Option (List Nat)
  /-- The exponent: whether it is negative, and its digits. -/
  exponent : Option (Bool × List Nat)

/-- The greatest exponent that is told apart from larger ones. -/
def maxExponent : Nat := 2147483647

/-- The number that a literal without fraction and exponent denotes. -/
def Literal.integer? (negative : Bool) (significand : Nat) : Option Number :=
  let value : Int := if negative then -(significand : Int) else significand
  if h : -9223372036854775808 ≤ value ∧ value < 18446744073709551616 ∧
      ¬(negative = true ∧ significand = 0) then
    some (.integer ⟨value, h.1, h.2.1⟩)
  else (Binary64.ofDecimal? negative significand 0).map .decimal

/-- The number that a literal denotes, unless it is too large. -/
def Literal.number? (l : Literal) : Option Number :=
  let (whole, dropped) := readDigits 0 l.whole
  match l.fraction, l.exponent with
  | none, none =>
    if dropped = 0 then Literal.integer? l.negative whole
    else (Binary64.ofDecimal? l.negative whole dropped).map .decimal
  | fraction, exponent =>
    let (significand, behind) := readFraction whole (fraction.getD [])
    let start : Int := dropped - behind
    let (down, digits) := exponent.getD (false, [])
    let size := digits.foldl (fun acc d => acc * 10 + d) 0
    if maxExponent < size then
      if significand ≠ 0 ∧ !down then none
      else some (.decimal (Binary64.zero l.negative))
    else
      (Binary64.ofDecimal? l.negative significand (if down then start - size else start + size)).map
        .decimal

/-- Splits leading decimal digits off, at least one. -/
def takeDigits? (cs : List Char) : Option (List Nat × List Char) :=
  let ds := cs.takeWhile Char.isDigit
  if ds.isEmpty then none else some (ds.map digitValue, cs.dropWhile Char.isDigit)

/-- Reads the exponent of a number, if there is one. -/
def readExponent? (cs : List Char) : Option (Option (Bool × List Nat) × List Char) :=
  match cs with
  | e :: rest =>
    if e == 'e' || e == 'E' then
      let (down, rest) :=
        match rest with
        | '-' :: r => (true, r)
        | '+' :: r => (false, r)
        | r => (false, r)
      (takeDigits? rest).map fun (ds, r) => (some (down, ds), r)
    else some (none, cs)
  | [] => some (none, cs)

/-- Reads a number without its sign. -/
def readUnsigned? (negative : Bool) (cs : List Char) : Option (Written × List Char) :=
  (takeDigits? cs).bind fun (whole, rest) =>
    if whole.head? = some 0 ∧ whole.length ≠ 1 then none
    else
      let afterPoint : Option (Option (List Nat) × List Char) :=
        match rest with
        | '.' :: r => (takeDigits? r).map fun (ds, r) => (some ds, r)
        | r => some (none, r)
      afterPoint.bind fun (fraction, rest) =>
        (readExponent? rest).map fun (exponent, rest) =>
          match Literal.number? ⟨negative, whole, fraction, exponent⟩ with
          | some n => (.number n, rest)
          | none => (.void, rest)

/-! ## Strings -/

/-- What was read of a string so far. -/
structure TextState where
  /-- The characters, the last one first. -/
  chars : List Char
  /-- The first half of a surrogate pair that waits for the second. -/
  pending : Option Nat
  /-- Whether every half met its other half. -/
  paired : Bool

/-- Adds a character that is no half of a pair. -/
def TextState.push (st : TextState) (c : Char) : TextState :=
  { chars := c :: st.chars, pending := none, paired := st.paired && st.pending.isNone }

/-- Adds the code unit of an escape. -/
def TextState.pushUnit (st : TextState) (unit : Nat) : TextState :=
  if 0xD800 ≤ unit ∧ unit < 0xDC00 then
    { st with pending := some unit, paired := st.paired && st.pending.isNone }
  else if 0xDC00 ≤ unit ∧ unit < 0xE000 then
    match st.pending with
    | some high =>
      { st with
        chars := Char.ofNat (0x10000 + (high - 0xD800) * 0x400 + (unit - 0xDC00)) :: st.chars
        pending := none }
    | none => { st with paired := false }
  else st.push (Char.ofNat unit)

/-- The text read, if every surrogate pair was complete. -/
def TextState.text? (st : TextState) : Option String :=
  if st.paired && st.pending.isNone then some (String.ofList st.chars.reverse) else none

/-- The character that a one-letter escape stands for. -/
def escaped? (c : Char) : Option Char :=
  match c with
  | '"' => some '"'
  | '\\' => some '\\'
  | '/' => some '/'
  | 'b' => some '\x08'
  | 'f' => some '\x0c'
  | 'n' => some '\n'
  | 'r' => some '\r'
  | 't' => some '\t'
  | _ => none

/-- Reads a string behind its opening quote. -/
def readText (st : TextState) : List Char → Option (Option String × List Char)
  | [] => none
  | '"' :: rest => some (st.text?, rest)
  | '\\' :: 'u' :: a :: b :: c :: d :: rest =>
    match hexNumber? [a, b, c, d] with
    | some unit => readText (st.pushUnit unit) rest
    | none => none
  | '\\' :: e :: rest =>
    match escaped? e with
    | some c => readText (st.push c) rest
    | none => none
  | c :: rest => if c.toNat < 0x20 || c == '\\' then none else readText (st.push c) rest

/-- Reads a string behind its opening quote, from nothing. -/
def readString (cs : List Char) : Option (Option String × List Char) :=
  readText ⟨[], none, true⟩ cs

/-! ## Values -/

mutual

/-- Reads a value.  Each level of a list or object takes two from the fuel. -/
def readValue : Nat → List Char → Option (Written × List Char)
  | 0, _ => none
  | fuel + 1, cs =>
    match skipBlanks cs with
    | 'n' :: 'u' :: 'l' :: 'l' :: rest => some (.null, rest)
    | 't' :: 'r' :: 'u' :: 'e' :: rest => some (.bool true, rest)
    | 'f' :: 'a' :: 'l' :: 's' :: 'e' :: rest => some (.bool false, rest)
    | '"' :: rest =>
      (readString rest).map fun (text, rest) =>
        match text with
        | some s => (.string s, rest)
        | none => (.void, rest)
    | '[' :: rest =>
      match skipBlanks rest with
      | ']' :: rest => some (.array [], rest)
      | rest => (readItems fuel rest).map fun (items, rest) => (.array items, rest)
    | '\x7b' :: rest =>
      match skipBlanks rest with
      | '\x7d' :: rest => some (.object [], rest)
      | rest =>
        (readMembers fuel rest).map fun (members, rest) =>
          match members with
          | some ms => (.object ms, rest)
          | none => (.void, rest)
    | '-' :: rest => readUnsigned? true rest
    | rest => readUnsigned? false rest

/-- Reads the items of a list up to its closing bracket. -/
def readItems : Nat → List Char → Option (List Written × List Char)
  | 0, _ => none
  | fuel + 1, cs =>
    match readValue fuel cs with
    | none => none
    | some (item, rest) =>
      match skipBlanks rest with
      | ',' :: rest => (readItems fuel rest).map fun (items, rest) => (item :: items, rest)
      | ']' :: rest => some ([item], rest)
      | _ => none

/-- Reads the members of an object up to its closing brace.  There are none if a name denotes
nothing. -/
def readMembers : Nat → List Char → Option (Option (List (String × Written)) × List Char)
  | 0, _ => none
  | fuel + 1, cs =>
    match skipBlanks cs with
    | '"' :: rest =>
      match readString rest with
      | none => none
      | some (name, rest) =>
        match skipBlanks rest with
        | ':' :: rest =>
          match readValue fuel rest with
          | none => none
          | some (value, rest) =>
            let first := name.map fun n => (n, value)
            match skipBlanks rest with
            | ',' :: rest =>
              (readMembers fuel rest).map fun (members, rest) =>
                (first.bind fun m => members.map (m :: ·), rest)
            | '\x7d' :: rest => some (first.map ([·]), rest)
            | _ => none
        | _ => none
    | _ => none

end

/-- Reads a text that holds one value and nothing else. -/
def Written.parse? (text : String) : Option Written :=
  let cs := text.toList
  match readValue (2 * cs.length + 2) cs with
  | some (w, rest) => if (skipBlanks rest).isEmpty then some w else none
  | none => none

end Fleet.Json
