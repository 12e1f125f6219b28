/-
# The inventory

All records of a fleet and the ways to look them up.
-/
import Fleet.Checksum.Dependencies
import Fleet.Compose.Device
import Fleet.Record.Scope
import Fleet.Vpn.PeerLists
import Fleet.Vpn.TunnelIds

namespace Fleet

/-- The records of a fleet. -/
structure Inventory where
  /-- The devices. -/
  devices : SortedMap DeviceId Device
  /-- The configurations, by device. -/
  configurations : SortedMap DeviceId Configuration
  /-- The templates. -/
  templates : Catalog
  /-- The VPN servers. -/
  servers : SortedMap ServerId VpnServer
  /-- The memberships in VPN servers, in the order of joining. -/
  clients : List VpnClient
  /-- The settings of organizations. -/
  organizations : SortedMap OrgId OrganizationSettings
  /-- The groups. -/
  groups : SortedMap GroupId DeviceGroup
  /-- The tunnel ids handed out so far. -/
  tunnelIds : TunnelIds
  /-- The number of templates created so far. -/
  templateSequence : Nat
  deriving DecidableEq

namespace Inventory

/-- The inventory without records. -/
def empty : Inventory :=
  ⟨.empty, .empty, .empty, .empty, [], .empty, .empty, .empty, 0⟩

instance : Inhabited Inventory := ⟨empty⟩

/-- Whether no devices, templates, servers, organizations and groups are stored. -/
def isEmpty (inv : Inventory) : Bool :=
  inv.devices.isEmpty && inv.templates.isEmpty && inv.servers.isEmpty &&
    inv.organizations.isEmpty && inv.groups.isEmpty

/-! ## Looking up -/

/-- A device. -/
def device (inv : Inventory) (id : DeviceId) : Except Error Device :=
  match inv.devices.get? id with
  | some d => .ok d
  | none => .error (.notFound .device id.text)

/-- The configuration of a device. -/
def configuration (inv : Inventory) (id : DeviceId) : Except Error Configuration :=
  match inv.configurations.get? id with
  | some c => .ok c
  | none => .error (.notFound .configuration id.text)

/-- A template. -/
def template (inv : Inventory) (id : TemplateId) : Except Error Template :=
  match inv.templates.get? id with
  | some t => .ok t
  | none => .error (.notFound .template id.text)

/-- A VPN server. -/
def server (inv : Inventory) (id : ServerId) : Except Error VpnServer :=
  match inv.servers.get? id with
  | some s => .ok s
  | none => .error (.notFound .vpnServer id.text)

/-- The memberships of a device, in the order of joining. -/
def clientsOf (inv : Inventory) (device : DeviceId) : List VpnClient :=
  inv.clients.filter fun c => c.device == device

/-- The members of a server, in the order of joining. -/
def clientsOn (inv : Inventory) (server : ServerId) : List VpnClient :=
  inv.clients.filter fun c => c.server == server

/-- The membership of a device in a server. -/
def client? (inv : Inventory) (device : DeviceId) (server : ServerId) : Option VpnClient :=
  inv.clients.find? fun c => c.device == device && c.server == server

/-- The templates of a group; none for a group that does not exist. -/
def groupTemplates (inv : Inventory) (group : Option GroupId) : List TemplateId :=
  ((group.bind inv.groups.get?).map DeviceGroup.templates).getD []

/-- The peers of a server in the order of joining, if the server exists. -/
def peers? (inv : Inventory) : PeerSource := fun server =>
  if inv.servers.contains server then some ((inv.clientsOn server).filterMap VpnClient.peer?)
  else none

/-! ## Views -/

/-- Everything that rendering the configuration of a device reads. -/
def renderInput (inv : Inventory) (id : DeviceId) : Except Error RenderInput := do
  let device ← inv.device id
  let configuration ← inv.configuration id
  let vpn ← (inv.clientsOf id).mapM fun client => do
    let server ← inv.server client.server
    return ⟨server, client⟩
  return {
    device
    configuration
    organization := (inv.organizations.get? device.organization).map OrganizationSettings.context
    group := (device.group.bind inv.groups.get?).map DeviceGroup.context
    vpn
    catalog := inv.templates }

/-- The rendered configuration of a device. -/
def render (inv : Inventory) (fleet : Context) (id : DeviceId) : Except Error String := do
  let input ← inv.renderInput id
  input.render fleet

/-- What the rendered configuration of a device depends on. -/
def dependencies (inv : Inventory) (id : DeviceId) : Except Error Dependencies := do
  let device ← inv.device id
  let configuration ← inv.configuration id
  return {
    templates := configuration.templates
    servers := (inv.clientsOf id).map VpnClient.server
    organization := device.organization
    group := device.group }

/-! ## Writing one record -/

/-- Stores the configuration of a device. -/
def putConfiguration (inv : Inventory) (id : DeviceId) (c : Configuration) : Inventory :=
  { inv with configurations := inv.configurations.insert id c }

/-- Stores a device. -/
def putDevice (inv : Inventory) (id : DeviceId) (d : Device) : Inventory :=
  { inv with devices := inv.devices.insert id d }

end Inventory

end Fleet
