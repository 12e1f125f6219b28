/-
# Tunnel ids

The numbers by which the clients of a VXLAN server are told apart.  They grow from a high-water mark
of the server until the range is used up; then the lowest one that is free is taken.
-/
import Fleet.Error

namespace Fleet

/-- The highest tunnel id handed out so far, by server. -/
abbrev TunnelIds := SortedMap ServerId Nat

namespace TunnelIds

/-- The high-water mark of a server. -/
def highWater (t : TunnelIds) (server : ServerId) : Nat :=
  (t.get? server).getD 0

/-- The first number from a start on that is not in use.  One of the next `fuel` numbers is, if the
fuel exceeds the count of those in use. -/
def firstUnused (inUse : List Nat) : Nat → Nat → Nat
  | 0, n => n
  | fuel + 1, n => if inUse.contains n then firstUnused inUse fuel (n + 1) else n

/-- The least free id from a start on, if the range has one. -/
def leastFreeFrom? (inUse : List Nat) (max start : Nat) : Option Nat :=
  let n := firstUnused inUse (inUse.length + 1) start
  if n ≤ max then some n else none

/-- Raises the mark of a server to an id. -/
def raise (t : TunnelIds) (server : ServerId) (id : Nat) : TunnelIds :=
  t.insert server (max (t.highWater server) id)

/-- The least free id of all.  Those in use are walked in the range from one on; where there are any
but the range ends before it begins, the walk breaks off. -/
def lowestFree? (inUse : List Nat) (max : Nat) : Except Error (Option Nat) :=
  if max < 1 ∧ inUse ≠ [] then .error (.reversedRange 1 max) else .ok (leastFreeFrom? inUse max 1)

/-- Takes the next free id of a server: the least above its mark, or else the least of all. -/
def allocate (t : TunnelIds) (server : ServerId) (inUse : List Nat) (max : Nat) :
    Except Error (Nat × TunnelIds) :=
  match leastFreeFrom? inUse max (t.highWater server + 1) with
  | some id => .ok (id, t.raise server id)
  | none =>
    match lowestFree? inUse max with
    | .ok (some id) => .ok (id, t.raise server id)
    | .ok none => .error (.tunnelIdsExhausted server max)
    | .error e => .error e

/-- Takes a requested id. -/
def reserve (t : TunnelIds) (server : ServerId) (id : Nat) (inUse : List Nat) (max : Nat) :
    Except Error TunnelIds :=
  if id = 0 ∨ max < id then .error (.tunnelIdOutOfRange id max)
  else if inUse.contains id then .error (.duplicateTunnelId server id)
  else .ok (t.raise server id)

/-- Forgets the mark of a server. -/
def forget (t : TunnelIds) (server : ServerId) : TunnelIds :=
  t.erase server

end TunnelIds

end Fleet
