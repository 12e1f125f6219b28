/-
# Checksums of rendered configurations

The checksum of a device is taken from the store, or else of the rendered configuration and stored.
Dropping checksums goes on after a failure, which is reported at the end.
-/
import Fleet.Controller.State
import Fleet.Sha256

namespace Fleet

/-- The checksum of a text. -/
def checksum (text : String) : String :=
  Sha256.hex text

/-- The key under which the checksum of a device is stored. -/
def DeviceId.cacheKey (device : DeviceId) : String :=
  "config:checksum:" ++ device.text

namespace Controller

/-! ## Calls of the store -/

/-- Makes a call of the store, which may fail. -/
def call {α : Type} (c : Controller) (outage : Outage) (kind : StoreCall) (key : String)
    (run : Store → α × Store) : Outcome α :=
  match outage c.calls kind key with
  | some reason => (.error (.storeFailed kind key reason), { c with calls := c.calls + 1 })
  | none =>
    let (a, store) := run c.store
    (.ok a, { c with calls := c.calls + 1, store })

/-- Looks the checksum of a device up in the store. -/
def cached (c : Controller) (outage : Outage) (device : DeviceId) : Outcome (Option String) :=
  c.call outage .get (DeviceId.cacheKey device) fun s => s.get (DeviceId.cacheKey device)

/-- Stores the checksum of a device. -/
def storeChecksum (c : Controller) (settings : Settings) (outage : Outage) (device : DeviceId)
    (value : String) : Outcome Unit :=
  c.call outage .set (DeviceId.cacheKey device) fun s =>
    ((), s.set (DeviceId.cacheKey device) value settings.checksumTtl)

/-- Drops the checksum of a device. -/
def invalidate (c : Controller) (outage : Outage) (device : DeviceId) : Outcome Unit :=
  c.call outage .delete (DeviceId.cacheKey device) fun s =>
    ((), s.delete (DeviceId.cacheKey device))

/-! ## Checksums -/

/-- The rendered configuration of a device. -/
def render (c : Controller) (settings : Settings) (device : DeviceId) : Except Error String :=
  c.inventory.render settings.fleet device

/-- The checksum of a device.  The store is asked twice, since another caller may have been faster,
before the configuration is rendered. -/
def getChecksum (c : Controller) (settings : Settings) (outage : Outage) (device : DeviceId) :
    Outcome String :=
  match c.cached outage device with
  | (.error e, c) => (.error e, c)
  | (.ok (some hit), c) => (.ok hit, c)
  | (.ok none, c) =>
    match c.cached outage device with
    | (.error e, c) => (.error e, c)
    | (.ok (some hit), c) => (.ok hit, c)
    | (.ok none, c) =>
      match c.render settings device with
      | .error e => (.error e, c)
      | .ok text =>
        match c.storeChecksum settings outage device (checksum text) with
        | (.error e, c) => (.error e, c)
        | (.ok (), c) => (.ok (checksum text), c)

/-! ## Dropping checksums -/

/-- Drops the checksums of devices one after the other, all of them in any case; gives their number,
or the first failure. -/
def invalidateMany (c : Controller) (outage : Outage) : List DeviceId → Outcome Nat
  | [] => (.ok 0, c)
  | device :: rest =>
    match c.invalidate outage device with
    | (.ok (), c) =>
      match c.invalidateMany outage rest with
      | (.ok n, c) => (.ok (n + 1), c)
      | (.error e, c) => (.error e, c)
    | (.error e, c) => (.error e, (c.invalidateMany outage rest).2)

/-- Drops the checksum of a device and then forgets what the device depended on. -/
def forget (c : Controller) (outage : Outage) (device : DeviceId) : Outcome Unit :=
  match c.invalidate outage device with
  | (.ok (), c) => (.ok (), { c with index := c.index.remove device })
  | (.error e, c) => (.error e, c)

end Controller

end Fleet
