/-
# TOML scalars

The values that are written without quotes: truth values, integers in four bases, other numbers,
dates and times.
-/
import Fleet.Text.Pattern
import Fleet.Toml.Value

namespace Fleet.Toml

open Text (Pattern)

/-! ## Numbers -/

/-- A digit of a base up to 16, of either case. -/
def digit? (base : Nat) (c : Char) : Option Nat :=
  let d :=
    if '0' ≤ c ∧ c ≤ '9' then c.toNat - '0'.toNat
    else if 'a' ≤ c ∧ c ≤ 'f' then c.toNat - 'a'.toNat + 10
    else if 'A' ≤ c ∧ c ≤ 'F' then c.toNat - 'A'.toNat + 10
    else base
  if d < base then some d else none

/-- The value of digits, between which single underscores may stand. -/
def natural? (base : Nat) (cs : List Char) : Option Nat :=
  let digit := Pattern.one fun c => (digit? base c).isSome
  let shape := Pattern.seq digit (.many (.seq (.alt .nothing (.char '_')) digit))
  if shape.accepts cs then
    some ((cs.filterMap (digit? base)).foldl (fun n d => base * n + d) 0)
  else none

/-- A decimal number without superfluous zeros. -/
def plainNatural? (cs : List Char) : Option Nat :=
  if cs.head? = some '0' ∧ cs.length ≠ 1 then none else natural? 10 cs

/-- The value of the digits behind the name of their base, if there are any. -/
def inBase? (base : Nat) (cs : List Char) : Option (Option Int) :=
  if cs.isEmpty then some none else (natural? base cs).map fun n => some (Int.ofNat n)

/-- An integer: decimal with a sign if wanted, or in another base, whose digits may be missing. -/
def integer? : List Char → Option (Option Int)
  | '0' :: 'x' :: cs => inBase? 16 cs
  | '0' :: 'o' :: cs => inBase? 8 cs
  | '0' :: 'b' :: cs => inBase? 2 cs
  | '+' :: cs => (plainNatural? cs).map fun n => some (Int.ofNat n)
  | '-' :: cs => (plainNatural? cs).map fun n => some (-Int.ofNat n)
  | cs => (plainNatural? cs).map fun n => some (Int.ofNat n)

/-- Whether a text without its sign is a number with fraction or exponent, or one that is not
finite. -/
def isUnsignedDecimal (cs : List Char) : Bool :=
  cs == ['i', 'n', 'f'] || cs == ['n', 'a', 'n'] ||
    let whole := cs.takeWhile fun c => c != '.' && c != 'e' && c != 'E'
    (plainNatural? whole).isSome &&
      match cs.drop whole.length with
      | '.' :: rest =>
        let fraction := rest.takeWhile fun c => c != 'e' && c != 'E'
        (natural? 10 fraction).isSome && isExponent (rest.drop fraction.length)
      | [] => false
      | rest => isExponent rest
where
  /-- Whether a text is an exponent or empty. -/
  isExponent : List Char → Bool
    | [] => true
    | _ :: '+' :: cs => (natural? 10 cs).isSome
    | _ :: '-' :: cs => (natural? 10 cs).isSome
    | _ :: cs => (natural? 10 cs).isSome

/-- Whether a text is a number with fraction or exponent, or one that is not finite. -/
def isDecimal : List Char → Bool
  | '+' :: cs => isUnsignedDecimal cs
  | '-' :: cs => isUnsignedDecimal cs
  | cs => isUnsignedDecimal cs

/-! ## Dates and times -/

/-- The value of decimal digits of a fixed number. -/
def fixed? (cs : List Char) : Option Nat :=
  if cs.all Char.isDigit then natural? 10 cs else none

/-- The number of days of a month. -/
def daysIn (year month : Nat) : Nat :=
  if month = 2 then
    if year % 4 = 0 ∧ (year % 100 ≠ 0 ∨ year % 400 = 0) then 29 else 28
  else if month ∈ [4, 6, 9, 11] then 30 else 31

/-- Whether the parts of a date are those of a day in the calendar. -/
def isDate (year month day : List Char) : Bool :=
  match fixed? year, fixed? month, fixed? day with
  | some y, some m, some d => 1 ≤ m && m ≤ 12 && 1 ≤ d && d ≤ daysIn y m
  | _, _, _ => false

/-- Whether digits denote at most a bound. -/
def isAtMost (bound : Nat) (cs : List Char) : Bool :=
  (fixed? cs).any (· ≤ bound)

/-- Splits a time of day off: hours, minutes, seconds if wanted, and a fraction of the second. -/
def dropTime? : List Char → Option (List Char)
  | h₁ :: h₂ :: ':' :: m₁ :: m₂ :: rest =>
    if isAtMost 23 [h₁, h₂] && isAtMost 59 [m₁, m₂] then
      match rest with
      | ':' :: s₁ :: s₂ :: rest =>
        if isAtMost 60 [s₁, s₂] then
          match rest with
          | '.' :: rest =>
            if rest.head?.any Char.isDigit then some (rest.dropWhile Char.isDigit) else none
          | rest => some rest
        else none
      | rest => some rest
    else none
  | _ => none

/-- Whether a text is the distance from universal time or empty. -/
def isZone : List Char → Bool
  | [] => true
  | ['z'] => true
  | ['Z'] => true
  | [s, h₁, h₂, ':', m₁, m₂] =>
    (s == '+' || s == '-') && isAtMost 23 [h₁, h₂] && isAtMost 59 [m₁, m₂]
  | _ => false

/-- Whether a text is a date, a time of day or both. -/
def isMoment : List Char → Bool
  | y₁ :: y₂ :: y₃ :: y₄ :: '-' :: m₁ :: m₂ :: '-' :: d₁ :: d₂ :: rest =>
    isDate [y₁, y₂, y₃, y₄] [m₁, m₂] [d₁, d₂] &&
      match rest with
      | [] => true
      | t :: rest => (t == 'T' || t == 't' || t == ' ') && (dropTime? rest).any isZone
  | cs => dropTime? cs = some []

/-- Whether a text has the shape of a date. -/
def isDateShaped (cs : List Char) : Bool :=
  match cs with
  | [y₁, y₂, y₃, y₄, '-', m₁, m₂, '-', d₁, d₂] =>
    [y₁, y₂, y₃, y₄, m₁, m₂, d₁, d₂].all Char.isDigit
  | _ => false

/-! ## Scalars -/

/-- The value that is written without quotes as this text. -/
def scalar? (cs : List Char) : Option Value :=
  if cs = ['t', 'r', 'u', 'e'] then some (.bool true)
  else if cs = ['f', 'a', 'l', 's', 'e'] then some (.bool false)
  else
    match integer? cs with
    | some n => some (.integer n)
    | none =>
      if isDecimal cs then some (.decimal (String.ofList cs))
      else if isMoment cs then some (.moment (String.ofList cs))
      else none

end Fleet.Toml
