/-
# Requests

Everything that a controller can be asked for, and its answers.  `Controller.perform` answers one
request at a time.
-/
import Fleet.Controller.Operations

namespace Fleet

/-- What devices are affected by. -/
inductive Dependency where
  /-- A template. -/
  | template (id : TemplateId)
  /-- A VPN server. -/
  | server (id : ServerId)
  /-- An organization. -/
  | organization (id : OrgId)
  /-- A group. -/
  | group (id : GroupId)
  deriving DecidableEq

/-- The devices that depend on something. -/
def DependencyIndex.devicesFor (index : DependencyIndex) : Dependency → List DeviceId
  | .template id => index.devicesForTemplate id
  | .server id => index.devicesForServer id
  | .organization id => index.devicesForOrganization id
  | .group id => index.devicesForGroup id

/-- What a controller can be asked for. -/
inductive Request where
  /-- The rendered configuration of a device, as text. -/
  | render (device : DeviceId)
  /-- The rendered configuration of a device, as a document. -/
  | document (device : DeviceId)
  /-- The variables of a device. -/
  | context (device : DeviceId)
  /-- The configuration of a device. -/
  | configuration (device : DeviceId)
  /-- The state of a configuration. -/
  | status (device : DeviceId)
  /-- All records. -/
  | snapshot
  /-- The devices whose configuration cannot be rendered. -/
  | check
  /-- The checksum of a device. -/
  | checksum (device : DeviceId)
  /-- The checksum of a device that is stored. -/
  | cached (device : DeviceId)
  /-- The devices that depend on something. -/
  | dependents (on : Dependency)
  /-- What a device depends on. -/
  | dependencies (device : DeviceId)
  /-- The peers of a VPN server. -/
  | peers (server : ServerId)
  /-- The document of a VPN server. -/
  | renderServer (server : ServerId)
  /-- The checksum of the document of a VPN server. -/
  | serverChecksum (server : ServerId)
  /-- Drop the checksum of a device. -/
  | invalidate (device : DeviceId)
  /-- Drop the checksums of the devices that depend on something. -/
  | invalidateDependents (on : Dependency)
  /-- Send a signal to a configuration. -/
  | send (device : DeviceId) (signal : Signal)
  /-- Join a VPN server. -/
  | attachClient (client : VpnClient)
  /-- Leave a VPN server. -/
  | detachClient (device : DeviceId) (server : ServerId)
  /-- Add a device. -/
  | addDevice (device : Device) (configuration : Configuration)
  /-- Remove a device. -/
  | removeDevice (device : DeviceId)
  /-- Replace a device. -/
  | updateDevice (device : Device)
  /-- Add a template. -/
  | addTemplate (template : Template)
  /-- Replace a template. -/
  | updateTemplate (template : Template)
  /-- Attach a template to a configuration. -/
  | attachTemplate (device : DeviceId) (template : TemplateId)
  /-- Detach a template from a configuration. -/
  | detachTemplate (device : DeviceId) (template : TemplateId)
  /-- Choose the templates of a configuration. -/
  | setTemplates (device : DeviceId) (templates : List TemplateId)
  /-- Detach the templates of a configuration. -/
  | clearTemplates (device : DeviceId)
  /-- Replace the variables of a configuration. -/
  | setContext (device : DeviceId) (context : Context)
  /-- Replace the base document of a configuration. -/
  | setDocument (device : DeviceId) (document : Json)
  /-- Move a configuration to another backend. -/
  | changeBackend (device : DeviceId) (backend : Backend)
  /-- Add a VPN server. -/
  | addServer (server : VpnServer)
  /-- Replace a VPN server. -/
  | updateServer (server : VpnServer)
  /-- Store the settings of an organization. -/
  | setOrganization (settings : OrganizationSettings)
  /-- Store a group. -/
  | setGroup (group : DeviceGroup)

/-- What a controller answers. -/
inductive Reply where
  /-- It was done. -/
  | done
  /-- A text. -/
  | text (s : String)
  /-- A text, if there is one. -/
  | maybeText (s : Option String)
  /-- A number of devices. -/
  | count (n : Nat)
  /-- A document. -/
  | document (j : Json)
  /-- Variables. -/
  | context (c : Context)
  /-- A configuration. -/
  | configuration (c : Configuration)
  /-- A state. -/
  | status (s : Status)
  /-- All records. -/
  | inventory (inv : Inventory)
  /-- Devices and why they cannot be rendered. -/
  | failures (list : List (DeviceId × Error))
  /-- Devices. -/
  | devices (ids : List DeviceId)
  /-- What a device depends on, if that is recorded. -/
  | dependencies (d : Option Dependencies)
  /-- Peers. -/
  | peers (list : List Peer)
  /-- A membership. -/
  | client (c : VpnClient)
  /-- A membership, if there was one. -/
  | maybeClient (c : Option VpnClient)
  /-- A device and what was removed with it. -/
  | removed (r : RemovedDevice)

namespace Controller

/-- The devices whose configuration cannot be rendered, ascending, and why. -/
def check (c : Controller) (settings : Settings) : List (DeviceId × Error) :=
  c.inventory.devices.keys.filterMap fun id =>
    match c.render settings id with
    | .ok _ => none
    | .error e => some (id, e)

/-- Another form of what an operation gives. -/
def Outcome.map {α β : Type} (f : α → β) (o : Outcome α) : Outcome β :=
  (o.1.map f, o.2)

/-- Answers a request. -/
def perform (c : Controller) (settings : Settings) (outage : Outage) : Request → Outcome Reply
  | .render id => ((c.render settings id).map .text, c)
  | .document id =>
    ((c.inventory.renderInput id).bind fun input => (input.compose settings.fleet).map .document, c)
  | .context id =>
    ((c.inventory.renderInput id).map fun input => .context (input.resolve settings.fleet), c)
  | .configuration id => ((c.inventory.configuration id).map .configuration, c)
  | .status id => ((c.inventory.configuration id).map fun k => .status k.status, c)
  | .snapshot => (.ok (.inventory c.inventory), c)
  | .check => (.ok (.failures (c.check settings)), c)
  | .checksum id => (c.getChecksum settings outage id).map .text
  | .cached id => (c.cached outage id).map .maybeText
  | .dependents on => (.ok (.devices (c.index.devicesFor on)), c)
  | .dependencies id => (.ok (.dependencies (c.index.dependencies id)), c)
  | .peers id => (c.peersFor id).map .peers
  | .renderServer id => (c.renderServer id).map .text
  | .serverChecksum id => (c.renderServer id).map fun text => .text (Fleet.checksum text)
  | .invalidate id => (c.invalidate outage id).map fun _ => .done
  | .invalidateDependents on => (c.invalidateMany outage (c.index.devicesFor on)).map .count
  | .send id signal => (c.send outage id signal).map .status
  | .attachClient client => (c.attachClient settings outage client).map .client
  | .detachClient id server => (c.detachClient outage id server).map .maybeClient
  | .addDevice device configuration =>
    (c.addDevice outage device configuration).map fun _ => .done
  | .removeDevice id => (c.removeDevice outage id).map .removed
  | .updateDevice device => (c.updateDevice outage device).map fun _ => .done
  | .addTemplate t => (c.addTemplate outage t).map fun _ => .done
  | .updateTemplate t => (c.updateTemplate outage t).map fun _ => .done
  | .attachTemplate id t => (c.attachTemplate outage id t).map fun _ => .done
  | .detachTemplate id t => (c.detachTemplate outage id t).map fun _ => .done
  | .setTemplates id ts => (c.setTemplates outage id ts).map fun _ => .done
  | .clearTemplates id => (c.clearTemplates outage id).map fun _ => .done
  | .setContext id context => (c.setContext outage id context).map fun _ => .done
  | .setDocument id document => (c.setDocument outage id document).map fun _ => .done
  | .changeBackend id backend => (c.changeBackend outage id backend).map fun _ => .done
  | .addServer server => (c.addServer server).map fun _ => .done
  | .updateServer server => (c.updateServer outage server).map fun _ => .done
  | .setOrganization s => (c.setOrganization outage s).map fun _ => .done
  | .setGroup group => (c.setGroup outage group).map fun _ => .done

end Controller

end Fleet
