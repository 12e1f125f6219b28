/-
# Signals to configurations

A signal changes the state of a configuration, drops the checksum if the document changes with it,
and is announced last, even if the store failed.
-/
import Fleet.Controller.Checksums
import Fleet.Lifecycle

namespace Fleet

/-- A configuration that received a signal: its state before and after. -/
structure StatusStep where
  /-- The device. -/
  device : DeviceId
  /-- The state before. -/
  before : Status
  /-- The state after. -/
  after : Status

namespace Inventory

/-- Sends a signal to the configuration of a device. -/
def signalOne (inv : Inventory) (device : DeviceId) (signal : Signal) :
    Except Error (StatusStep × Inventory) := do
  let record ← inv.device device
  let configuration ← inv.configuration device
  let status ← configuration.status.after record.active signal
  return (⟨device, configuration.status, status⟩,
    inv.putConfiguration device { configuration with status })

/-- Sends a signal to configurations one after the other, and passes over those that refuse it. -/
def signalAll (inv : Inventory) (signal : Signal) : List DeviceId → List StatusStep × Inventory
  | [] => ([], inv)
  | device :: rest =>
    match inv.signalOne device signal with
    | .ok (step, inv) =>
      let (steps, inv) := inv.signalAll signal rest
      (step :: steps, inv)
    | .error _ => inv.signalAll signal rest

end Inventory

namespace Controller

/-- Announces the steps of configurations. -/
def announceSteps (c : Controller) (steps : List StatusStep) (cause : Signal) : Controller :=
  steps.foldl (fun c s => c.announceStatus s.device s.before s.after cause) c

/-- Makes the configurations of devices modified: first the states, then the checksums, then the
notices. -/
def modify (c : Controller) (outage : Outage) (devices : List DeviceId) (reason : Reason) :
    Outcome Unit :=
  if devices.isEmpty then (.ok (), c)
  else
    let (steps, inv) := c.inventory.signalAll (.modified reason) devices
    let (result, c) := { c with inventory := inv }.invalidateMany outage devices
    (result.map fun _ => (), c.announceSteps steps (.modified reason))

/-- What a signal does to the inventory besides the state: deactivation empties the configuration,
activation gives it its templates back. -/
def prepare (inv : Inventory) (device : DeviceId) (signal : Signal) (changes : Bool) :
    Except Error (List VpnClient × Inventory) :=
  match signal with
  | .deactivate => if changes then inv.deactivate device else .ok ([], inv)
  | .activate => (inv.reactivate device).map fun inv => ([], inv)
  | _ => .ok ([], inv)

/-- Whether the document may change with a signal. -/
def changesDocument : Signal → Bool
  | .modified _ | .deactivate | .activate => true
  | _ => false

/-- Sends a signal to the configuration of a device; gives the new state. -/
def send (c : Controller) (outage : Outage) (device : DeviceId) (signal : Signal) :
    Outcome Status :=
  match c.inventory.signalOne device signal with
  | .error e => (.error e, c)
  | .ok (step, _) =>
    match (do
      let (left, inv) ← prepare c.inventory device signal (step.before != step.after)
      let configuration ← inv.configuration device
      return (left, inv.putConfiguration device { configuration with status := step.after })) with
    | .error e => (.error e, c)
    | .ok (left, inv) =>
      let c := c.commit inv [device] left
      let (result, c) :=
        if changesDocument signal then c.invalidate outage device else (.ok (), c)
      (result.map fun _ => step.after, c.announceStatus device step.before step.after signal)

end Controller

end Fleet
