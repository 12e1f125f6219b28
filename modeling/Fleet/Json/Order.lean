/-
# Comparing values

Numbers compare by their exact values, strings by their characters, and a number with a string that
holds a number and nothing else.  Any other two values have no order.
-/
import Fleet.Json.Reader

namespace Fleet

/-- The value of a double as a quotient with a positive denominator. -/
def Binary64.quotient (x : Binary64) : Int × Nat :=
  (if x.negative then -(x.ratio.1 : Int) else x.ratio.1, x.ratio.2)

namespace Json

namespace Number

/-- The number that a text holds, if it holds one and nothing else, not even white space. -/
def parse? (s : String) : Option Number :=
  let read :=
    match s.toList with
    | '-' :: rest => readUnsigned? true rest
    | rest => readUnsigned? false rest
  match read with
  | some (.number n, []) => some n
  | _ => none

/-- The value of a number as a quotient with a positive denominator. -/
def quotient : Number → Int × Nat
  | .integer n => (n.value, 1)
  | .decimal x => x.quotient

/-- Compares two numbers by their values. -/
def order (a b : Number) : Ordering :=
  compare (a.quotient.1 * b.quotient.2) (b.quotient.1 * a.quotient.2)

end Number

/-- How two values compare, if they do. -/
def compare? : Json → Json → Option Ordering
  | number a, number b => some (a.order b)
  | string a, string b => some (compare a b)
  | bool a, bool b => some (compare a b)
  | number a, string b => (Number.parse? b).map a.order
  | string a, number b => (Number.parse? a).map (·.order b)
  | _, _ => none

end Json

end Fleet
