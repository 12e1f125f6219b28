/-
# The clock

Times are whole seconds since the start of 1970.
-/
namespace Fleet

/-- The time on a clock that may show one before 1970, which counts as the start of 1970. -/
def unixSeconds (seconds : Int) : Nat :=
  seconds.toNat

end Fleet
