/-
# Dependencies

Which devices have to be looked at when a template, a VPN server, an organization or a group
changes.  For each device its dependencies are recorded as a whole; the devices of each entity are
kept in step with them.
-/
import Fleet.Identifier

namespace Fleet

/-- What the rendered configuration of a device depends on. -/
structure Dependencies where
  /-- The attached templates. -/
  templates : List TemplateId
  /-- The joined VPN servers. -/
  servers : List ServerId
  /-- The owner. -/
  organization : OrgId
  /-- The group, if any. -/
  group : Option GroupId
  deriving DecidableEq

/-- The devices of each entity of one sort. -/
abbrev Dependents (sort : Named) := SortedMap (Id sort) (SortedMap DeviceId Unit)

namespace Dependents

variable {sort : Named}

/-- The devices of an entity, ascending. -/
def devices (m : Dependents sort) (id : Id sort) : List DeviceId :=
  ((m.get? id).getD .empty).keys

/-- Adds a device to an entity. -/
def add (device : DeviceId) (m : Dependents sort) (id : Id sort) : Dependents sort :=
  m.insert id (((m.get? id).getD .empty).insert device ())

/-- Removes a device from an entity, and the entity if no device is left. -/
def remove (device : DeviceId) (m : Dependents sort) (id : Id sort) : Dependents sort :=
  match m.get? id with
  | none => m
  | some ds => if (ds.erase device).isEmpty then m.erase id else m.insert id (ds.erase device)

/-- Adds a device to entities. -/
def link (m : Dependents sort) (device : DeviceId) (ids : List (Id sort)) : Dependents sort :=
  ids.foldl (add device) m

/-- Removes a device from entities, but not from those that are kept. -/
def unlink (m : Dependents sort) (device : DeviceId) (ids kept : List (Id sort)) :
    Dependents sort :=
  (ids.filter fun id => !kept.contains id).foldl (remove device) m

end Dependents

/-- The dependencies of the devices, and the devices by what they depend on. -/
structure DependencyIndex where
  /-- The dependencies of each device. -/
  devices : SortedMap DeviceId Dependencies
  /-- The devices of each template. -/
  byTemplate : Dependents .template
  /-- The devices of each VPN server. -/
  byServer : Dependents .vpnServer
  /-- The devices of each organization. -/
  byOrganization : Dependents .organization
  /-- The devices of each group. -/
  byGroup : Dependents .group
  deriving DecidableEq

namespace DependencyIndex

/-- The index without devices. -/
def empty : DependencyIndex := ⟨.empty, .empty, .empty, .empty, .empty⟩

/-- Adds a device to everything it depends on. -/
def link (index : DependencyIndex) (device : DeviceId) (d : Dependencies) : DependencyIndex :=
  { index with
    byTemplate := index.byTemplate.link device d.templates
    byServer := index.byServer.link device d.servers
    byOrganization := index.byOrganization.link device [d.organization]
    byGroup := index.byGroup.link device d.group.toList }

/-- Removes a device from what it depended on, but not from what it still does. -/
def unlink (index : DependencyIndex) (device : DeviceId) (previous : Dependencies)
    (kept : Option Dependencies) : DependencyIndex :=
  let templates := (kept.map Dependencies.templates).getD []
  let servers := (kept.map Dependencies.servers).getD []
  let organizations := (kept.map Dependencies.organization).toList
  let groups := (kept.bind Dependencies.group).toList
  { index with
    byTemplate := index.byTemplate.unlink device previous.templates templates
    byServer := index.byServer.unlink device previous.servers servers
    byOrganization := index.byOrganization.unlink device [previous.organization] organizations
    byGroup := index.byGroup.unlink device previous.group.toList groups }

/-- Records the dependencies of a device in place of its previous ones. -/
def record (index : DependencyIndex) (device : DeviceId) (d : Dependencies) : DependencyIndex :=
  let linked := { index with devices := index.devices.insert device d }.link device d
  match index.devices.get? device with
  | some previous => linked.unlink device previous (some d)
  | none => linked

/-- Forgets a device. -/
def remove (index : DependencyIndex) (device : DeviceId) : DependencyIndex :=
  match index.devices.get? device with
  | some previous =>
    { index with devices := index.devices.erase device }.unlink device previous none
  | none => index

/-- The dependencies recorded for a device. -/
def dependencies (index : DependencyIndex) (device : DeviceId) : Option Dependencies :=
  index.devices.get? device

/-- The devices that a template is attached to. -/
def devicesForTemplate (index : DependencyIndex) (id : TemplateId) : List DeviceId :=
  index.byTemplate.devices id

/-- The devices that joined a VPN server. -/
def devicesForServer (index : DependencyIndex) (id : ServerId) : List DeviceId :=
  index.byServer.devices id

/-- The devices of an organization. -/
def devicesForOrganization (index : DependencyIndex) (id : OrgId) : List DeviceId :=
  index.byOrganization.devices id

/-- The devices of a group. -/
def devicesForGroup (index : DependencyIndex) (id : GroupId) : List DeviceId :=
  index.byGroup.devices id

end DependencyIndex

end Fleet
