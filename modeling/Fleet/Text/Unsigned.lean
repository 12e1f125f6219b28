/-
# Natural numbers in text

Options of the command line and positions in lists are read the same way: decimal digits, zeros in
front allowed, with a plus sign if wanted.
-/
namespace Fleet.Text

/-- A number below a bound, with a plus sign if wanted. -/
def unsigned? (bound : Nat) (text : String) : Option Nat :=
  let digits :=
    match text.toList with
    | '+' :: cs => cs
    | cs => cs
  if digits.isEmpty || !digits.all Char.isDigit then none
  else
    let n := digits.foldl (fun n c => 10 * n + (c.toNat - '0'.toNat)) 0
    if n < bound then some n else none

end Fleet.Text
