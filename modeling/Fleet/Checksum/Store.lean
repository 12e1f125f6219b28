/-
# The store of checksums

A map with expiry.  An entry lives until a time, or for ever if that time is beyond the clock;
an entry past its time is dropped when it is looked at.
-/
import Fleet.Assoc

namespace Fleet

/-- A stored value. -/
structure StoreEntry where
  /-- The value. -/
  value : String
  /-- The second at which the entry dies, if it does. -/
  expiresAt : Option Nat
  deriving DecidableEq

/-- The entries and the clock. -/
structure Store where
  /-- The entries by key, dead ones included. -/
  entries : SortedMap String StoreEntry
  /-- The time in seconds. -/
  now : Nat
  deriving DecidableEq

namespace Store

/-- The last second that the clock can show. -/
def lastSecond : Nat := 9223372036854775807

/-- An empty store at a time. -/
def emptyAt (now : Nat) : Store := ⟨.empty, now⟩

/-- Whether an entry is past its time. -/
def isDead (s : Store) (e : StoreEntry) : Bool :=
  e.expiresAt.any (· ≤ s.now)

/-- The value of a key, if it lives. -/
def live? (s : Store) (key : String) : Option String :=
  ((s.entries.get? key).filter fun e => !s.isDead e).map StoreEntry.value

/-- Looks a key up, and drops its entry if that is dead. -/
def get (s : Store) (key : String) : Option String × Store :=
  match s.entries.get? key with
  | none => (none, s)
  | some e =>
    if s.isDead e then (none, { s with entries := s.entries.erase key }) else (some e.value, s)

/-- Stores a value for a number of seconds. -/
def set (s : Store) (key value : String) (ttl : Nat) : Store :=
  let expiresAt := if s.now + ttl ≤ lastSecond then some (s.now + ttl) else none
  { s with entries := s.entries.insert key ⟨value, expiresAt⟩ }

/-- Removes a key. -/
def delete (s : Store) (key : String) : Store :=
  { s with entries := s.entries.erase key }

/-- Moves the clock forward. -/
def advance (s : Store) (seconds : Nat) : Store :=
  { s with now := s.now + seconds }

end Store

end Fleet
