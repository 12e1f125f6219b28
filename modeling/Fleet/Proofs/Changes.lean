/-
# What answering a request does

Every request edits the records of some devices, then makes configurations modified and drops
checksums.  `Controller.Makes` tells for each request what it may do, and `Controller.Answers` that
an answer does one of these things.
-/
import Fleet.Proofs.DeviceEdits
import Fleet.Proofs.Steps

namespace Fleet

open Outcomes

/-! ## Changes -/

/-- What answering a request does to a controller. -/
structure Change where
  /-- The devices whose records are edited. -/
  touched : List DeviceId
  /-- The records after the edit. -/
  edited : Inventory
  /-- The index after the edit. -/
  index : DependencyIndex
  /-- The devices whose configurations are made modified then. -/
  marked : List DeviceId
  /-- The devices whose checksums are dropped then. -/
  dropped : List DeviceId

namespace Request

/-- The template list that a request to change a list computes for a configuration. -/
inductive Lists (catalog : Catalog) (k : Configuration) (organization : OrgId) :
    Request → DeviceId → List TemplateId → Prop where
  /-- Attaching a template. -/
  | attach {id : DeviceId} {t : TemplateId} {ts : List TemplateId}
      (h : catalog.attach k organization t = .ok ts) :
      Lists catalog k organization (.attachTemplate id t) id ts
  /-- Detaching a template. -/
  | detach {id : DeviceId} {t : TemplateId} {ts : List TemplateId}
      (h : catalog.detach k organization t = .ok ts) :
      Lists catalog k organization (.detachTemplate id t) id ts
  /-- Choosing templates. -/
  | select {id : DeviceId} {requested ts : List TemplateId}
      (h : catalog.select k organization requested = .ok ts) :
      Lists catalog k organization (.setTemplates id requested) id ts
  /-- Detaching all templates. -/
  | clear {id : DeviceId} :
      Lists catalog k organization (.clearTemplates id) id (catalog.clear k organization)

/-- The configuration that a request to change variables or the base document leads to, if that is
another one. -/
inductive Edits (k : Configuration) : Request → DeviceId → Configuration → Prop where
  /-- Other variables. -/
  | context {id : DeviceId} {context : Context} (h : k.context ≠ context) :
      Edits k (.setContext id context) id { k with context }
  /-- Another base document. -/
  | document {id : DeviceId} {document : Json} (hobject : document.isObject = true)
      (h : k.document.same document = false) :
      Edits k (.setDocument id document) id { k with document }

/-- Whether a request looks checksums up and stores them. -/
def looksUp : Request → Bool
  | .checksum _ | .cached _ => true
  | _ => false

end Request

namespace Controller

/-- What a request may do to a controller. -/
inductive Makes (settings : Settings) (outage : Outage) (c : Controller) :
    Request → Change → Prop where
  /-- Nothing: it only asks, or it is refused, or everything is as requested already. -/
  | idle (r : Request) : Makes settings outage c r ⟨[], c.inventory, c.index, [], []⟩
  | invalidate (id : DeviceId) :
      Makes settings outage c (.invalidate id) ⟨[], c.inventory, c.index, [], [id]⟩
  | invalidateDependents (on : Dependency) :
      Makes settings outage c (.invalidateDependents on)
        ⟨[], c.inventory, c.index, [], c.index.devicesFor on⟩
  | addDevice {d : Device} {k : Configuration} {inv : Inventory}
      (h : c.inventory.insertDevice d k = .ok inv) :
      Makes settings outage c (.addDevice d k) ⟨[d.id], inv, c.indexed inv [d.id], [], [d.id]⟩
  | removeDevice {id : DeviceId} {removed : RemovedDevice} {inv : Inventory}
      (h : c.inventory.removeDevice id = (.ok removed, inv)) :
      Makes settings outage c (.removeDevice id)
        ⟨[id], inv,
          if (outage c.calls .delete (DeviceId.cacheKey id)).isSome then c.index
          else c.index.remove id, [], [id]⟩
  | updateDevice {d p : Device} {change : TemplateChange} {inv : Inventory} {told : List DeviceId}
      (h : c.inventory.replaceDevice d = .ok (p, change, inv))
      (htold : told = if change.changed || d.affectsConfiguration p then [d.id] else []) :
      Makes settings outage c (.updateDevice d) ⟨[d.id], inv, c.indexed inv [d.id], told, told⟩
  | addTemplate {t : Template} {ids : List DeviceId} {inv : Inventory}
      (h : c.inventory.insertTemplate t = .ok (ids, inv)) :
      Makes settings outage c (.addTemplate t) ⟨ids, inv, c.indexed inv ids, ids, ids⟩
  /-- The configurations that get the template are told after those that use it, unless the store
  fails before. -/
  | updateTemplate {t p : Template} {ids first second : List DeviceId} {inv : Inventory}
      (h : c.inventory.replaceTemplate t = .ok (p, ids, inv))
      (hfirst : first =
        if (inv.templates.get? t.id).any fun current => current.contentDiffers p
        then (c.indexed inv ids).devicesForTemplate t.id else [])
      (hsecond : second = ids ∨
        (second = [] ∧ first = (c.indexed inv ids).devicesForTemplate t.id ∧
          ∃ calls kind key, outage calls kind key ≠ none)) :
      Makes settings outage c (.updateTemplate t)
        ⟨ids, inv, c.indexed inv ids, first ++ second, first ++ second⟩
  | relist {r : Request} {id : DeviceId} {d : Device} {k : Configuration} {ts : List TemplateId}
      {change : TemplateChange} {inv : Inventory}
      (hd : c.inventory.devices.get? id = some d) (hk : c.inventory.configurations.get? id = some k)
      (hts : r.Lists c.inventory.templates k d.organization id ts)
      (h : c.inventory.setTemplates id ts = .ok (change, inv)) (hchanged : change.changed = true) :
      Makes settings outage c r ⟨[id], inv, c.indexed inv [id], [id], [id]⟩
  | edit {r : Request} {id : DeviceId} {k edited : Configuration}
      (hk : c.inventory.configurations.get? id = some k) (h : r.Edits k id edited) :
      Makes settings outage c r
        ⟨[id], c.inventory.putConfiguration id edited, c.index, [id], [id]⟩
  | changeBackend {id : DeviceId} {backend : Backend} {change : TemplateChange} {inv : Inventory}
      (h : c.inventory.setBackend id backend = .ok (change, inv))
      (hchanged : change.changed = true) :
      Makes settings outage c (.changeBackend id backend)
        ⟨[id], inv, c.indexed inv [id], [id], [id]⟩
  | addServer {s : VpnServer} {inv : Inventory} (h : c.inventory.insertServer s = .ok inv) :
      Makes settings outage c (.addServer s) ⟨[], inv, c.index, [], []⟩
  | updateServer {s p : VpnServer} {inv : Inventory} {told : List DeviceId}
      (h : c.inventory.replaceServer s = .ok (p, inv))
      (htold : told = if s.same p then [] else c.index.devicesForServer s.id) :
      Makes settings outage c (.updateServer s) ⟨[], inv, c.index, told, told⟩
  | attachClient {client stored : VpnClient} {inv : Inventory}
      (h : c.inventory.insertClient client settings.maxTunnelId = .ok (stored, inv)) :
      Makes settings outage c (.attachClient client)
        ⟨[stored.device], inv, c.indexed inv [stored.device], [stored.device], [stored.device]⟩
  | detachClient {id : DeviceId} {server : ServerId} {client : VpnClient} {inv : Inventory}
      (h : c.inventory.removeClient id server = (some client, inv)) :
      Makes settings outage c (.detachClient id server)
        ⟨[id], inv, c.indexed inv [id], [id], [id]⟩
  | setOrganization {s : OrganizationSettings}
      (hnew : c.inventory.organizations.get? s.organization ≠ some s) :
      Makes settings outage c (.setOrganization s)
        ⟨[], { c.inventory with
            organizations := c.inventory.organizations.insert s.organization s },
          c.index, [], c.index.devicesForOrganization s.organization⟩
  /-- The members are told after the checksums of the group are dropped, unless the store fails
  before. -/
  | setGroup {g : DeviceGroup} {change : GroupChange} {inv : Inventory} {told : List DeviceId}
      {dropped : Except Error Nat}
      (h : c.inventory.setGroup g = (.ok change, inv))
      (hnew : c.inventory.groups.get? g.id ≠ some g)
      (hdropped : ((c.commit inv change.retemplated change.left).invalidateMany outage
        ((c.indexed inv change.retemplated).devicesForGroup g.id)).1 = dropped)
      (htold : told = if dropped.isOk then change.retemplated else []) :
      Makes settings outage c (.setGroup g)
        ⟨change.retemplated, inv, c.indexed inv change.retemplated, told,
          (c.indexed inv change.retemplated).devicesForGroup g.id ++ told⟩
  /-- A signal that only moves the state. -/
  | signal {id : DeviceId} {signal : Signal} {d : Device} {k : Configuration} {s : Status}
      {inv : Inventory}
      (hd : c.inventory.devices.get? id = some d) (hk : c.inventory.configurations.get? id = some k)
      (hs : k.status.after d.active signal = .ok s) (hactivate : signal ≠ .activate)
      (hdeactivate : signal = .deactivate → s = k.status)
      (hinv : inv = c.inventory.putConfiguration id { k with status := s }) :
      Makes settings outage c (.send id signal)
        ⟨[id], inv, c.indexed inv [id], [], if changesDocument signal then [id] else []⟩
  | deactivate {id : DeviceId} {d : Device} {k : Configuration} {s : Status} {inv : Inventory}
      (hd : c.inventory.devices.get? id = some d) (hk : c.inventory.configurations.get? id = some k)
      (hs : k.status.after d.active .deactivate = .ok s)
      (hinv : inv = { (c.inventory.putConfiguration id
          { k with document := .emptyObject, templates := [], status := s }).putDevice id
            { d with active := false } with
        clients := c.inventory.clients.filter fun client => client.device != id }) :
      Makes settings outage c (.send id .deactivate)
        ⟨[id], inv, c.indexed inv [id], [], [id]⟩
  | activate {id : DeviceId} {d : Device} {k : Configuration} {s : Status} {inv : Inventory}
      (hd : c.inventory.devices.get? id = some d) (hk : c.inventory.configurations.get? id = some k)
      (hs : k.status.after d.active .activate = .ok s)
      (hinv : inv = (c.inventory.putConfiguration id
        { k with
          templates := c.inventory.startingTemplates k d.organization d.group
          status := s }).putDevice id { d with active := true }) :
      Makes settings outage c (.send id .activate)
        ⟨[id], inv, c.indexed inv [id], [], [id]⟩

/-- A controller after a change, up to peer lists and notices. -/
structure Follows (outage : Outage) (c : Controller) (r : Request) (change : Change)
    (c' : Controller) : Prop where
  /-- The records are those after the edit, with the configurations made modified. -/
  marks : Inventory.Marks change.edited change.marked c'.inventory
  /-- The index follows the edit. -/
  index : c'.index = change.index
  /-- The checksums are dropped, as far as the store does not fail. -/
  store : r.looksUp = false → c'.store = c.store.dropAll outage c.calls change.dropped
  /-- Each of them takes a call. -/
  calls : r.looksUp = false → c'.calls = c.calls + change.dropped.length

/-- A controller after a request that did what it may do. -/
def Answers (settings : Settings) (outage : Outage) (c : Controller) (r : Request)
    (c' : Controller) : Prop :=
  ∃ change, Makes settings outage c r change ∧ Follows outage c r change c'

end Controller

end Fleet
