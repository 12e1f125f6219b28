/-
# Notices

What the fleet announces to whoever listens.  A listener keeps up to a number of notices; one that
falls behind loses the oldest.
-/
import Fleet.Status

namespace Fleet

/-- A change that others may react to. -/
inductive Notice where
  /-- The configuration of a device changed its state. -/
  | statusChanged (device : DeviceId) (previous current : Status) (cause : Signal)
  /-- The peers of a VPN server changed. -/
  | peersChanged (server : ServerId)
  deriving DecidableEq

namespace Notice

/-- The number of notices that a listener keeps unless told otherwise. -/
def defaultCapacity : Nat := 256

/-- Doubles a number until it reaches a bound. -/
def doubleTo (bound : Nat) : Nat → Nat → Nat
  | 0, n => n
  | fuel + 1, n => if bound ≤ n then n else doubleTo bound fuel (2 * n)

/-- The least power of two that is not below a capacity. -/
def roundedCapacity (capacity : Nat) : Nat :=
  doubleTo capacity capacity 1

/-- What a listener that did not look in between receives: the number of notices lost, and the
others in order. -/
def received {α : Type} (capacity : Nat) (published : List α) : Nat × List α :=
  let lost := published.length - roundedCapacity capacity
  (lost, published.drop lost)

end Notice

end Fleet
