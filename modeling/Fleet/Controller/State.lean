/-
# The state of a controller

A controller owns the inventory and what is derived from it: the store of checksums, the index of
dependencies, the peer lists that are kept, and the notices published so far.
-/
import Fleet.Checksum.Store
import Fleet.Inventory.Devices
import Fleet.Notice

namespace Fleet

/-- What a controller is set up with. -/
structure Settings where
  /-- The variables of the fleet, the lowest layer. -/
  fleet : Context
  /-- The lifetime of a checksum in seconds. -/
  checksumTtl : Nat
  /-- The highest tunnel id. -/
  maxTunnelId : Nat

namespace Settings

/-- The lifetime of a checksum unless told otherwise: 30 days. -/
def defaultTtl : Nat := 30 * 24 * 60 * 60

/-- The highest tunnel id there is. -/
def greatestTunnelId : Nat := 16777216

end Settings

/-- Which calls of the store fail, and why: by the number of calls made before, the call and the
key.  A call that fails has no effect. -/
abbrev Outage := Nat → StoreCall → String → Option String

/-- No call fails. -/
def Outage.none : Outage := fun _ _ _ => Option.none

/-- A controller at one moment. -/
structure Controller where
  /-- The records. -/
  inventory : Inventory
  /-- The store of checksums. -/
  store : Store
  /-- The number of calls made to the store. -/
  calls : Nat
  /-- The devices by what they depend on. -/
  index : DependencyIndex
  /-- The peer lists that are kept. -/
  peerLists : PeerLists
  /-- The notices published so far. -/
  notices : List Notice
  deriving DecidableEq

namespace Controller

/-- The outcome of an operation and the controller after it. -/
abbrev Outcome (α : Type) := Except Error α × Controller

/-! ## Steps of operations -/

/-- Publishes a notice. -/
def publish (c : Controller) (n : Notice) : Controller :=
  { c with notices := c.notices ++ [n] }

/-- Publishes that the peers of servers changed because clients left. -/
def announceLeft (c : Controller) (left : List VpnClient) : Controller :=
  { c with notices := c.notices ++ left.map fun client => .peersChanged client.server }

/-- Publishes the state of a configuration if a signal changed it. -/
def announceStatus (c : Controller) (device : DeviceId) (before after : Status) (cause : Signal) :
    Controller :=
  if before = after then c else c.publish (.statusChanged device before after cause)

/-- Brings the index up to date with the inventory for a device. -/
def reindex (c : Controller) (device : DeviceId) : Controller :=
  match c.inventory.dependencies device with
  | .ok d => { c with index := c.index.record device d }
  | .error _ => { c with index := c.index.remove device }

/-- Brings the index up to date for devices. -/
def reindexAll (c : Controller) (devices : List DeviceId) : Controller :=
  devices.foldl reindex c

/-- Takes over a changed inventory: the index follows for the devices that changed, and the peer
lists of the servers that clients left are dropped and announced. -/
def commit (c : Controller) (inv : Inventory) (changed : List DeviceId) (left : List VpnClient) :
    Controller :=
  let c := { c with inventory := inv }.reindexAll changed
  { c with peerLists := c.peerLists.detachAll left }.announceLeft left

/-- A controller over an inventory, with nothing kept yet. -/
def start (inv : Inventory) (now : Nat) : Controller :=
  ({ inventory := inv, store := .emptyAt now, calls := 0, index := .empty, peerLists := .empty,
     notices := [] } : Controller).reindexAll inv.devices.keys

/-- The notices published so far, and the controller without them. -/
def takeNotices (c : Controller) : List Notice × Controller :=
  (c.notices, { c with notices := [] })

/-- Lets time pass. -/
def advance (c : Controller) (seconds : Nat) : Controller :=
  { c with store := c.store.advance seconds }

end Controller

end Fleet
