/-
# Operations that change the inventory

Each operation is refused before anything is committed, or commits its change of the inventory and
then makes the affected configurations modified.
-/
import Fleet.Compose.Server
import Fleet.Controller.Lifecycle

namespace Fleet.Controller

/-! ## Devices -/

/-- Adds a device with its configuration. -/
def addDevice (c : Controller) (outage : Outage) (device : Device) (configuration : Configuration) :
    Outcome Unit :=
  match c.inventory.insertDevice device configuration with
  | .error e => (.error e, c)
  | .ok inv => (c.commit inv [device.id] []).invalidate outage device.id

/-- Removes a device with its configuration and its memberships. -/
def removeDevice (c : Controller) (outage : Outage) (id : DeviceId) : Outcome RemovedDevice :=
  match c.inventory.removeDevice id with
  | (.error e, inv) => (.error e, { c with inventory := inv })
  | (.ok removed, inv) =>
    let (result, c) := (c.commit inv [] removed.clients).forget outage id
    (result.map fun _ => removed, c)

/-- Replaces a device.  Its configuration becomes modified if the change can show in it. -/
def updateDevice (c : Controller) (outage : Outage) (device : Device) : Outcome Unit :=
  match c.inventory.replaceDevice device with
  | .error e => (.error e, c)
  | .ok (previous, change, inv) =>
    let c := c.commit inv [device.id] change.left
    if change.changed || device.affectsConfiguration previous then
      c.modify outage [device.id] .deviceIdentity
    else (.ok (), c)

/-! ## Templates -/

/-- Adds a template, which is attached wherever it is required. -/
def addTemplate (c : Controller) (outage : Outage) (t : Template) : Outcome Unit :=
  match c.inventory.insertTemplate t with
  | .error e => (.error e, c)
  | .ok (attached, inv) => (c.commit inv attached []).modify outage attached .templates

/-- Replaces a template.  If its content changed, the configurations that use it become modified. -/
def updateTemplate (c : Controller) (outage : Outage) (t : Template) : Outcome Unit :=
  match c.inventory.replaceTemplate t with
  | .error e => (.error e, c)
  | .ok (previous, attached, inv) =>
    let c := c.commit inv attached []
    let differs := (inv.templates.get? t.id).any fun current => current.contentDiffers previous
    let (result, c) :=
      if differs then c.modify outage (c.index.devicesForTemplate t.id) (.templateContent t.id)
      else (.ok (), c)
    match result with
    | .error e => (.error e, c)
    | .ok () => c.modify outage attached .templates

/-- Gives a configuration a new template list, which is computed from the catalog and the
organization. -/
def changeTemplates (c : Controller) (outage : Outage) (id : DeviceId)
    (compute : Catalog → Configuration → OrgId → Except Error (List TemplateId)) :
    Outcome Unit :=
  match (do
    let device ← c.inventory.device id
    let configuration ← c.inventory.configuration id
    let templates ← compute c.inventory.templates configuration device.organization
    c.inventory.setTemplates id templates) with
  | .error e => (.error e, c)
  | .ok (change, inv) =>
    if change.changed then (c.commit inv [id] change.left).modify outage [id] .templates
    else (.ok (), c.commit inv [] change.left)

/-- Attaches a template to a configuration. -/
def attachTemplate (c : Controller) (outage : Outage) (id : DeviceId) (t : TemplateId) :
    Outcome Unit :=
  c.changeTemplates outage id fun catalog configuration organization =>
    catalog.attach configuration organization t

/-- Detaches a template from a configuration. -/
def detachTemplate (c : Controller) (outage : Outage) (id : DeviceId) (t : TemplateId) :
    Outcome Unit :=
  c.changeTemplates outage id fun catalog configuration organization =>
    catalog.detach configuration organization t

/-- Gives a configuration the requested templates. -/
def setTemplates (c : Controller) (outage : Outage) (id : DeviceId) (ts : List TemplateId) :
    Outcome Unit :=
  c.changeTemplates outage id fun catalog configuration organization =>
    catalog.select configuration organization ts

/-- Detaches every template from a configuration but the required ones. -/
def clearTemplates (c : Controller) (outage : Outage) (id : DeviceId) : Outcome Unit :=
  c.changeTemplates outage id fun catalog configuration organization =>
    .ok (catalog.clear configuration organization)

/-! ## Configurations -/

/-- Edits a configuration; it becomes modified unless the edit gives nothing. -/
def editConfiguration (c : Controller) (outage : Outage) (id : DeviceId) (reason : Reason)
    (edit : Configuration → Option Configuration) : Outcome Unit :=
  match c.inventory.configuration id with
  | .error e => (.error e, c)
  | .ok configuration =>
    match edit configuration with
    | some edited =>
      { c with inventory := c.inventory.putConfiguration id edited }.modify outage [id] reason
    | none => (.ok (), c)

/-- Replaces the variables of a configuration. -/
def setContext (c : Controller) (outage : Outage) (id : DeviceId) (context : Context) :
    Outcome Unit :=
  c.editConfiguration outage id .context fun configuration =>
    if configuration.context = context then none else some { configuration with context }

/-- Replaces the base document of a configuration, which must be an object. -/
def setDocument (c : Controller) (outage : Outage) (id : DeviceId) (document : Json) :
    Outcome Unit :=
  if document.isObject then
    c.editConfiguration outage id .document fun configuration =>
      if configuration.document.same document then none else some { configuration with document }
  else (.error (.documentNotObject id.text), c)

/-- Moves a configuration to another backend. -/
def changeBackend (c : Controller) (outage : Outage) (id : DeviceId) (backend : Backend) :
    Outcome Unit :=
  match c.inventory.setBackend id backend with
  | .error e => (.error e, c)
  | .ok (change, inv) =>
    if change.changed then (c.commit inv [id] change.left).modify outage [id] .backend
    else (.ok (), c)

/-! ## VPN servers -/

/-- Adds a VPN server. -/
def addServer (c : Controller) (server : VpnServer) : Outcome Unit :=
  match c.inventory.insertServer server with
  | .error e => (.error e, c)
  | .ok inv => (.ok (), { c with inventory := inv })

/-- Replaces a VPN server.  Its clients become modified if it changed; with another backend its
peers are announced to have changed. -/
def updateServer (c : Controller) (outage : Outage) (server : VpnServer) : Outcome Unit :=
  match c.inventory.replaceServer server with
  | .error e => (.error e, c)
  | .ok (previous, inv) =>
    let c := { c with inventory := inv }
    let c :=
      if server.backend = previous.backend then c
      else { c with peerLists := c.peerLists.drop server.id }.publish (.peersChanged server.id)
    if server.same previous then (.ok (), c)
    else c.modify outage (c.index.devicesForServer server.id) (.vpnServer server.id)

/-- Joins a device to a VPN server; gives the membership as it is stored. -/
def attachClient (c : Controller) (settings : Settings) (outage : Outage) (client : VpnClient) :
    Outcome VpnClient :=
  match c.inventory.insertClient client settings.maxTunnelId with
  | .error e => (.error e, c)
  | .ok (stored, inv) =>
    let c := c.commit inv [stored.device] []
    let c := { c with peerLists := c.peerLists.attach stored }.publish (.peersChanged stored.server)
    let (result, c) := c.modify outage [stored.device] (.vpnMembership stored.server)
    (result.map fun _ => stored, c)

/-- Removes a device from a VPN server; gives the membership, if there was one. -/
def detachClient (c : Controller) (outage : Outage) (id : DeviceId) (server : ServerId) :
    Outcome (Option VpnClient) :=
  match c.inventory.device id with
  | .error e => (.error e, c)
  | .ok _ =>
    match c.inventory.removeClient id server with
    | (none, _) => (.ok none, c)
    | (some client, inv) =>
      let (result, c) :=
        (c.commit inv [id] [client]).modify outage [id] (.vpnMembership server)
      (result.map fun _ => some client, c)

/-- The peers of a VPN server. -/
def peersFor (c : Controller) (server : ServerId) : Outcome (List Peer) :=
  let (result, peerLists) := c.peerLists.peersFor c.inventory.peers? server
  (result, { c with peerLists })

/-- The canonical text of the document of a VPN server. -/
def renderServer (c : Controller) (id : ServerId) : Outcome String :=
  match c.inventory.server id with
  | .error e => (.error e, c)
  | .ok server =>
    let (result, c) := c.peersFor id
    (result.bind server.render, c)

/-! ## Organizations and groups -/

/-- Stores the settings of an organization and drops the checksums of its devices, if the
settings are new. -/
def setOrganization (c : Controller) (outage : Outage) (s : OrganizationSettings) : Outcome Unit :=
  let previous := c.inventory.organizations.get? s.organization
  let organizations := c.inventory.organizations.insert s.organization s
  let c := { c with inventory := { c.inventory with organizations } }
  if previous = some s then (.ok (), c)
  else
    let (result, c) := c.invalidateMany outage (c.index.devicesForOrganization s.organization)
    (result.map fun _ => (), c)

/-- Stores a group and drops the checksums of its devices, if the group is new.  Members whose
template list changed become modified. -/
def setGroup (c : Controller) (outage : Outage) (group : DeviceGroup) : Outcome Unit :=
  match c.inventory.setGroup group with
  | (.error e, inv) => (.error e, { c with inventory := inv })
  | (.ok change, inv) =>
    let c := c.commit inv change.retemplated change.left
    if change.previous = some group then (.ok (), c)
    else
      match c.invalidateMany outage (c.index.devicesForGroup group.id) with
      | (.error e, c) => (.error e, c)
      | (.ok _, c) => c.modify outage change.retemplated .templates

end Fleet.Controller
