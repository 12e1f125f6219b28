/-
# Templates in the inventory

Templates are added and replaced, and the template lists of configurations change with them,
with the group and with the backend.  A device that loses the last template of a VPN server
leaves the server.
-/
import Fleet.Inventory.Vpn

namespace Fleet

/-- What a change of a template list did. -/
structure TemplateChange where
  /-- Whether the list is another one now. -/
  changed : Bool
  /-- The memberships that ended with it. -/
  left : List VpnClient

namespace TemplateChange

/-- Nothing happened. -/
def unchanged : TemplateChange := ⟨false, []⟩

end TemplateChange

/-- What storing a group did. -/
structure GroupChange where
  /-- The previous version, if there was one. -/
  previous : Option DeviceGroup
  /-- The members whose template list changed. -/
  retemplated : List DeviceId
  /-- The memberships in VPN servers that ended. -/
  left : List VpnClient

namespace Inventory

/-! ## Template lists -/

/-- The servers of the VPN templates in a list, ascending. -/
def serversOf (inv : Inventory) (ids : List TemplateId) : List ServerId :=
  (SortedMap.ofList ((inv.templates.present ids).filterMap fun t =>
    t.vpn.map fun s => (s, ()))).keys

/-- Replaces the template list of a configuration.  Memberships in servers that no template of the
list refers to any more end. -/
def setTemplates (inv : Inventory) (device : DeviceId) (templates : List TemplateId) :
    Except Error (TemplateChange × Inventory) := do
  let configuration ← inv.configuration device
  if configuration.templates = templates then return (.unchanged, inv)
  else
    let after := inv.serversOf templates
    let lost := (inv.serversOf configuration.templates).filter fun s => !after.contains s
    let inv := inv.putConfiguration device { configuration with templates }
    let (left, inv) := inv.removeClients device lost
    return (⟨true, left⟩, inv)

/-- Moves a configuration to another backend, with the templates that it has there and those of the
group. -/
def setBackend (inv : Inventory) (device : DeviceId) (backend : Backend) :
    Except Error (TemplateChange × Inventory) := do
  let record ← inv.device device
  let configuration ← inv.configuration device
  if configuration.backend = backend then return (.unchanged, inv)
  else
    let kept := inv.templates.rebackend configuration record.organization backend
    let moved := { Configuration.blank device backend with templates := kept }
    let templates :=
      inv.templates.rescope moved record.organization [] (inv.groupTemplates record.group)
    let inv := inv.putConfiguration device { configuration with backend }
    let (change, inv) ← inv.setTemplates device templates
    return ({ change with changed := true }, inv)

/-! ## Templates -/

/-- Checks the name of a template and the server it refers to. -/
def checkTemplate (inv : Inventory) (t : Template) : Except Error Unit := do
  checkUniqueName inv.templates.values t
  match t.vpn with
  | some server =>
    if inv.servers.contains server then .ok () else .error (.unknownVpnServer t.id server)
  | none => .ok ()

/-- Whether a required template is to be attached to a configuration that lacks it. -/
def lacksRequired (inv : Inventory) (t : Template) (id : TemplateId) (device : DeviceId)
    (c : Configuration) : Option OrgId :=
  match inv.devices.get? device with
  | some d =>
    if c.status.isDeactivation || c.hasTemplate id || !t.isRequiredFor c.backend d.organization
    then none
    else some d.organization
  | none => none

/-- Attaches a required template to the configurations among these that lack it; gives their
devices. -/
def attachRequiredTo (t : Template) (id : TemplateId) (inv : Inventory) :
    List (DeviceId × Configuration) → List DeviceId × Inventory
  | [] => ([], inv)
  | (device, c) :: rest =>
    match inv.lacksRequired t id device c with
    | some organization =>
      let templates := inv.templates.withRequired c organization
      let (devices, inv) :=
        attachRequiredTo t id (inv.putConfiguration device { c with templates }) rest
      (device :: devices, inv)
    | none => attachRequiredTo t id inv rest

/-- Attaches a required template wherever it applies, except to deactivated configurations;
gives the devices. -/
def attachRequired (inv : Inventory) (id : TemplateId) : List DeviceId × Inventory :=
  match inv.templates.get? id with
  | some t =>
    if t.required then attachRequiredTo t id inv inv.configurations.entries else ([], inv)
  | none => ([], inv)

/-- Adds a template with the next creation number; gives the devices it was attached to. -/
def insertTemplate (inv : Inventory) (t : Template) : Except Error (List DeviceId × Inventory) := do
  let t ← t.normalize
  if inv.templates.contains t.id then .error (.alreadyExists .template t.id.text)
  else
    inv.checkTemplate t
    let created := inv.templateSequence + 1
    let inv := {
      inv with
      templates := inv.templates.insert t.id { t with created }
      templateSequence := created }
    return inv.attachRequired t.id

/-- Replaces a template, which keeps its creation number; gives the previous one and the devices it
was attached to. -/
def replaceTemplate (inv : Inventory) (t : Template) :
    Except Error (Template × List DeviceId × Inventory) := do
  let t ← t.normalize
  let previous ← inv.template t.id
  inv.checkTemplate t
  if previous.backend ≠ t.backend ∧ inv.configurations.values.any fun c => c.hasTemplate t.id then
    .error (.backendMismatch t.id previous.backend t.backend)
  else
    let created := previous.created
    let inv := { inv with templates := inv.templates.insert t.id { t with created } }
    return (previous, inv.attachRequired t.id)

/-! ## Groups -/

/-- Checks that the templates of a group exist and that its organization can see them. -/
def checkGroupTemplates (inv : Inventory) (group : DeviceGroup) :
    List TemplateId → Except Error Unit
  | [] => .ok ()
  | id :: rest => do
    let t ← inv.templates.find id
    if t.isVisibleTo group.organization then inv.checkGroupTemplates group rest
    else .error (.organizationMismatch id group.organization)

/-- Swaps the old templates of a group for the new ones in the lists of its members.  It stops at a
member that has no configuration, and leaves the others as they are. -/
def swapGroupTemplates (old new : List TemplateId) (change : GroupChange) (inv : Inventory) :
    List DeviceId → Except Error GroupChange × Inventory
  | [] => (.ok change, inv)
  | id :: rest =>
    match inv.device id, inv.configuration id with
    | .error e, _ => (.error e, inv)
    | _, .error e => (.error e, inv)
    | .ok record, .ok configuration =>
      if configuration.status.isDeactivation then swapGroupTemplates old new change inv rest
      else
        let templates := inv.templates.rescope configuration record.organization old new
        match inv.setTemplates id templates with
        | .error e => (.error e, inv)
        | .ok (applied, inv) =>
          let change := {
            change with
            retemplated := change.retemplated ++ (if applied.changed then [id] else [])
            left := change.left ++ applied.left }
          swapGroupTemplates old new change inv rest

/-- Stores a group.  Its active members swap its old templates for the new ones. -/
def setGroup (inv : Inventory) (group : DeviceGroup) : Except Error GroupChange × Inventory :=
  match inv.checkGroupTemplates group group.templates with
  | .error e => (.error e, inv)
  | .ok () =>
    let previous := inv.groups.get? group.id
    let old := (previous.map DeviceGroup.templates).getD []
    let inv := { inv with groups := inv.groups.insert group.id group }
    if old = group.templates then (.ok ⟨previous, [], []⟩, inv)
    else
      let members := (inv.devices.values.filter fun d => d.active && d.group == some group.id).map
        Device.id
      swapGroupTemplates old group.templates ⟨previous, [], []⟩ inv members

end Inventory

end Fleet
