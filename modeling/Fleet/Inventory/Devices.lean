/-
# Devices in the inventory

Devices are added with their configuration, replaced, removed with all that is theirs, and taken out
of use and back.
-/
import Fleet.Inventory.Templates

namespace Fleet

/-- A device together with everything that was removed with it. -/
structure RemovedDevice where
  /-- The device. -/
  device : Device
  /-- Its configuration. -/
  configuration : Configuration
  /-- Its memberships in VPN servers, in the order of joining. -/
  clients : List VpnClient

namespace Inventory

/-- Checks that a configuration may use templates. -/
def checkUsable (inv : Inventory) (backend : Backend) (organization : OrgId) :
    List TemplateId → Except Error Unit
  | [] => .ok ()
  | id :: rest => do
    let _ ← inv.templates.usable id backend organization
    inv.checkUsable backend organization rest

/-- The templates of a configuration that comes into use: its own and the required ones, the
defaults if it has none, and those of the group. -/
def startingTemplates (inv : Inventory) (configuration : Configuration) (organization : OrgId)
    (group : Option GroupId) : List TemplateId :=
  let templates := inv.templates.withRequired configuration organization
  let ofGroup := inv.groupTemplates group
  if ofGroup.isEmpty then templates
  else inv.templates.rescope { configuration with templates } organization [] ofGroup

/-- Adds a device with its configuration, which starts as modified. -/
def insertDevice (inv : Inventory) (device : Device) (configuration : Configuration) :
    Except Error Inventory := do
  device.validate
  if inv.devices.contains device.id then .error (.alreadyExists .device device.id.text)
  else if configuration.device ≠ device.id then
    .error (.invalidIdentity .configuration configuration.device.text)
  else
    configuration.validate
    inv.checkUsable configuration.backend device.organization configuration.templates
    let templates := inv.startingTemplates configuration device.organization device.group
    let stored := { configuration with templates, status := .modified }
    return (inv.putConfiguration device.id stored).putDevice device.id device

/-- Replaces a device, which stays active or inactive; gives the previous one.  The template list of
an active device follows a new organization or group. -/
def replaceDevice (inv : Inventory) (device : Device) :
    Except Error (Device × TemplateChange × Inventory) := do
  device.validate
  let previous ← inv.device device.id
  let device := { device with active := previous.active }
  let configuration ← inv.configuration device.id
  let groupChanged := previous.group != device.group
  let moved := inv.putDevice device.id device
  if (groupChanged || previous.organization != device.organization) && previous.active &&
      !configuration.status.isDeactivation then
    let dropped := if groupChanged then inv.groupTemplates previous.group else []
    let added := if groupChanged then inv.groupTemplates device.group else []
    let templates := inv.templates.rescope configuration device.organization dropped added
    let (change, moved) ← moved.setTemplates device.id templates
    return (previous, change, moved)
  else return (previous, .unchanged, moved)

/-- Removes a device, its configuration and its memberships; gives them.  A device without
configuration is removed too, but that is an error. -/
def removeDevice (inv : Inventory) (id : DeviceId) : Except Error RemovedDevice × Inventory :=
  match inv.device id with
  | .error e => (.error e, inv)
  | .ok device =>
    let inv := { inv with devices := inv.devices.erase id }
    match inv.configuration id with
    | .error e => (.error e, inv)
    | .ok configuration =>
      let inv := { inv with configurations := inv.configurations.erase id }
      let (clients, inv) := inv.removeClientsOf id
      (.ok ⟨device, configuration, clients⟩, inv)

/-- Empties the configuration of a device and makes the device inactive; gives the memberships that
end. -/
def deactivate (inv : Inventory) (id : DeviceId) : Except Error (List VpnClient × Inventory) := do
  let device ← inv.device id
  let configuration ← inv.configuration id
  let emptied := { configuration with document := .emptyObject, templates := [] }
  let inv := (inv.putConfiguration id emptied).putDevice id { device with active := false }
  return inv.removeClientsOf id

/-- Makes a device active again, with the templates that it would start with. -/
def reactivate (inv : Inventory) (id : DeviceId) : Except Error Inventory := do
  let device ← inv.device id
  let configuration ← inv.configuration id
  let templates := inv.startingTemplates configuration device.organization device.group
  return (inv.putConfiguration id { configuration with templates }).putDevice id
    { device with active := true }

end Inventory

end Fleet
