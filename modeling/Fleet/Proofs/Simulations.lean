/-
# Controllers that answer alike

A relation of controllers with the same records and the same index, kept by each step that
operations are made of, is kept by the operations, which answer alike.  So whatever the
relation leaves open, such as peer lists that are kept or what lives in the store, has no
part in the answers.

Main statement: `Controller.Simulation.perform`.
-/
import Fleet.Controller.Request

namespace Fleet

/-- Whether a request reads checksums or peer lists that are kept. -/
def Request.readsKept : Request → Bool
  | .checksum _ | .cached _ | .peers _ | .renderServer _ | .serverChecksum _ => true
  | _ => false

namespace Controller

variable {R : Controller → Controller → Prop} {settings : Settings} {outage outage' : Outage}
  {c c' : Controller} {α β : Type}

/-! ## Outcomes -/

/-- Two outcomes answer the same and leave related controllers. -/
structure Matches (R : Controller → Controller → Prop) (o o' : Outcome α) : Prop where
  /-- The answers. -/
  answer : o'.1 = o.1
  /-- The controllers. -/
  related : R o.2 o'.2

namespace Matches

variable {o o' : Outcome α}

/-- The outcomes taken apart. -/
theorem parts (h : Matches R o o') :
    ∃ answer c₁ c₁', o = (answer, c₁) ∧ o' = (answer, c₁') ∧ R c₁ c₁' := by
  obtain ⟨answer, c₁⟩ := o
  obtain ⟨answer', c₁'⟩ := o'
  obtain ⟨rfl, hrelated⟩ := h
  exact ⟨_, _, _, rfl, rfl, hrelated⟩

/-- Other forms of the same answer are the same. -/
theorem map (h : Matches R o o') (f : α → β) : Matches R (o.1.map f, o.2) (o'.1.map f, o'.2) :=
  ⟨congrArg (Except.map f) h.answer, h.related⟩

/-- The same answer with both. -/
theorem of_related (h : R c c') (answer : Except Error α) : Matches R (answer, c) (answer, c') :=
  ⟨rfl, h⟩

end Matches

/-! ## Steps of operations -/

/-- A relation of controllers with the same records and the same index is kept by every step, while
calls of the store fail as they do for each of the two. -/
structure Simulation (R : Controller → Controller → Prop) (outage outage' : Outage) : Prop where
  /-- The records are the same. -/
  inventory : ∀ {c c'}, R c c' → c'.inventory = c.inventory
  /-- The index finds the same devices. -/
  devicesFor : ∀ {c c'}, R c c' → ∀ on, c'.index.devicesFor on = c.index.devicesFor on
  /-- The index knows the same dependencies. -/
  dependencies : ∀ {c c'}, R c c' → ∀ x, c'.index.dependencies x = c.index.dependencies x
  /-- The same records are taken over. -/
  withInventory : ∀ {c c'}, R c c' → ∀ inv,
    R { c with inventory := inv } { c' with inventory := inv }
  /-- Whatever peer lists are kept. -/
  withPeerLists : ∀ {c c'}, R c c' → ∀ lists lists',
    R { c with peerLists := lists } { c' with peerLists := lists' }
  /-- The same notices are published. -/
  publishAll : ∀ {c c'}, R c c' → ∀ ns,
    R { c with notices := c.notices ++ ns } { c' with notices := c'.notices ++ ns }
  /-- The same device is recorded. -/
  record : ∀ {c c'}, R c c' → ∀ x d,
    R { c with index := c.index.record x d } { c' with index := c'.index.record x d }
  /-- The same device is forgotten. -/
  remove : ∀ {c c'}, R c c' → ∀ x,
    R { c with index := c.index.remove x } { c' with index := c'.index.remove x }
  /-- The same checksum is dropped. -/
  invalidate : ∀ {c c'}, R c c' → ∀ x,
    Matches R (c.invalidate outage x) (c'.invalidate outage' x)

namespace Simulation

variable (sim : Simulation R outage outage')
include sim

theorem announceStatus (h : R c c') (x : DeviceId) (s t : Status) (cause : Signal) :
    R (c.announceStatus x s t cause) (c'.announceStatus x s t cause) := by
  unfold Controller.announceStatus
  split
  · exact h
  · exact sim.publishAll h _

theorem announceSteps (steps : List StatusStep) (cause : Signal) :
    ∀ {c c' : Controller}, R c c' →
      R (c.announceSteps steps cause) (c'.announceSteps steps cause) := by
  induction steps with
  | nil => exact fun h => h
  | cons step rest ih => exact fun h => ih (sim.announceStatus h _ _ _ cause)

theorem reindex (h : R c c') (x : DeviceId) : R (c.reindex x) (c'.reindex x) := by
  have hdepends : c'.inventory.dependencies x = c.inventory.dependencies x := by
    rw [sim.inventory h]
  unfold Controller.reindex
  rw [hdepends]
  split
  · exact sim.record h x _
  · exact sim.remove h x

theorem reindexAll (ids : List DeviceId) :
    ∀ {c c' : Controller}, R c c' → R (c.reindexAll ids) (c'.reindexAll ids) := by
  induction ids with
  | nil => exact fun h => h
  | cons x rest ih => exact fun h => ih (sim.reindex h x)

/-- Each drops the lists of those who left from its own, which are not seen. -/
theorem commit (h : R c c') (inv : Inventory) (ids : List DeviceId) (left : List VpnClient) :
    R (c.commit inv ids left) (c'.commit inv ids left) :=
  sim.publishAll (sim.withPeerLists (sim.reindexAll ids (sim.withInventory h inv)) _ _) _

theorem invalidateMany (ids : List DeviceId) :
    ∀ {c c' : Controller}, R c c' →
      Matches R (c.invalidateMany outage ids) (c'.invalidateMany outage' ids) := by
  induction ids with
  | nil => exact fun h => .of_related h _
  | cons x rest ih =>
      intro c c' h
      obtain ⟨answer, c₁, c₁', hc, hc', h₁⟩ := (sim.invalidate h x).parts
      obtain ⟨answer₁, c₂, c₂', hc₁, hc₁', h₂⟩ := (ih h₁).parts
      rw [Controller.invalidateMany, Controller.invalidateMany, hc, hc']
      -- The first failure is the answer; the devices after it are dropped all the same.
      cases answer with
      | error e => exact ⟨rfl, (ih h₁).related⟩
      | ok _ =>
          dsimp only
          rw [hc₁, hc₁']
          cases answer₁ <;> exact .of_related h₂ _

theorem forget (h : R c c') (x : DeviceId) :
    Matches R (c.forget outage x) (c'.forget outage' x) := by
  obtain ⟨answer, c₁, c₁', hc, hc', h₁⟩ := (sim.invalidate h x).parts
  unfold Controller.forget
  rw [hc, hc']
  cases answer with
  | error e => exact .of_related h₁ _
  | ok _ => exact .of_related (sim.remove h₁ x) _

theorem modify (h : R c c') (ids : List DeviceId) (reason : Reason) :
    Matches R (c.modify outage ids reason) (c'.modify outage' ids reason) := by
  unfold Controller.modify
  rw [sim.inventory h]
  split
  · exact .of_related h _
  · obtain ⟨answer, c₁, c₁', hc, hc', h₁⟩ := (sim.invalidateMany ids
      (sim.withInventory h (c.inventory.signalAll (.modified reason) ids).2)).parts
    dsimp only
    rw [hc, hc']
    exact ⟨rfl, sim.announceSteps _ _ h₁⟩

/-! ## Operations -/

variable (h : R c c')
include h

theorem addDevice (d : Device) (configuration : Configuration) :
    Matches R (c.addDevice outage d configuration) (c'.addDevice outage' d configuration) := by
  unfold Controller.addDevice
  rw [sim.inventory h]
  split
  · exact .of_related h _
  · exact sim.invalidate (sim.commit h _ _ _) _

theorem removeDevice (x : DeviceId) :
    Matches R (c.removeDevice outage x) (c'.removeDevice outage' x) := by
  unfold Controller.removeDevice
  rw [sim.inventory h]
  split
  · exact .of_related (sim.withInventory h _) _
  · exact (sim.forget (sim.commit h _ _ _) x).map _

theorem updateDevice (d : Device) :
    Matches R (c.updateDevice outage d) (c'.updateDevice outage' d) := by
  unfold Controller.updateDevice
  rw [sim.inventory h]
  split
  · exact .of_related h _
  · dsimp only
    split
    · exact sim.modify (sim.commit h _ _ _) _ _
    · exact .of_related (sim.commit h _ _ _) _

theorem addTemplate (t : Template) :
    Matches R (c.addTemplate outage t) (c'.addTemplate outage' t) := by
  unfold Controller.addTemplate
  rw [sim.inventory h]
  split
  · exact .of_related h _
  · exact sim.modify (sim.commit h _ _ _) _ _

theorem updateTemplate (t : Template) :
    Matches R (c.updateTemplate outage t) (c'.updateTemplate outage' t) := by
  unfold Controller.updateTemplate
  rw [sim.inventory h]
  split
  · exact .of_related h _
  · rename_i p ids inv _
    have hcommit := sim.commit h inv ids []
    have hids : (c'.commit inv ids []).index.devicesForTemplate t.id =
        (c.commit inv ids []).index.devicesForTemplate t.id :=
      sim.devicesFor hcommit (.template t.id)
    dsimp only
    rw [hids]
    generalize (inv.templates.get? t.id).any _ = differs
    cases differs with
    | false => exact sim.modify hcommit ids .templates
    | true =>
        obtain ⟨answer, c₁, c₁', hc, hc', h₁⟩ := (sim.modify hcommit
          ((c.commit inv ids []).index.devicesForTemplate t.id) (.templateContent t.id)).parts
        rw [if_pos rfl, if_pos rfl, hc, hc']
        cases answer with
        | error e => exact .of_related h₁ _
        | ok _ => exact sim.modify h₁ ids .templates

theorem changeTemplates (x : DeviceId)
    (compute : Catalog → Configuration → OrgId → Except Error (List TemplateId)) :
    Matches R (c.changeTemplates outage x compute) (c'.changeTemplates outage' x compute) := by
  unfold Controller.changeTemplates
  rw [sim.inventory h]
  split
  · exact .of_related h _
  · split
    · exact sim.modify (sim.commit h _ _ _) _ _
    · exact .of_related (sim.commit h _ _ _) _

theorem editConfiguration (x : DeviceId) (reason : Reason)
    (edit : Configuration → Option Configuration) :
    Matches R (c.editConfiguration outage x reason edit)
      (c'.editConfiguration outage' x reason edit) := by
  unfold Controller.editConfiguration
  rw [sim.inventory h]
  split
  · exact .of_related h _
  · split
    · exact sim.modify (sim.withInventory h _) _ _
    · exact .of_related h _

theorem setDocument (x : DeviceId) (document : Json) :
    Matches R (c.setDocument outage x document) (c'.setDocument outage' x document) := by
  unfold Controller.setDocument
  split
  · exact sim.editConfiguration h x .document _
  · exact .of_related h _

theorem changeBackend (x : DeviceId) (backend : Backend) :
    Matches R (c.changeBackend outage x backend) (c'.changeBackend outage' x backend) := by
  unfold Controller.changeBackend
  rw [sim.inventory h]
  split
  · exact .of_related h _
  · split
    · exact sim.modify (sim.commit h _ _ _) _ _
    · exact .of_related h _

theorem addServer (s : VpnServer) : Matches R (c.addServer s) (c'.addServer s) := by
  unfold Controller.addServer
  rw [sim.inventory h]
  split
  · exact .of_related h _
  · exact .of_related (sim.withInventory h _) _

theorem updateServer (s : VpnServer) :
    Matches R (c.updateServer outage s) (c'.updateServer outage' s) := by
  unfold Controller.updateServer
  rw [sim.inventory h]
  split
  · exact .of_related h _
  · rename_i p inv _
    dsimp only
    -- What comes before the signals: the list is dropped and the change published, or neither.
    generalize hc₁ : (if s.backend = p.backend then { c with inventory := inv } else _) = c₁
    generalize hc₁' : (if s.backend = p.backend then { c' with inventory := inv } else _) = c₁'
    have h₁ : R c₁ c₁' := by
      rw [← hc₁, ← hc₁']
      split
      · exact sim.withInventory h inv
      · exact sim.publishAll (sim.withPeerLists (sim.withInventory h inv) _ _) _
    have hids : c₁'.index.devicesForServer s.id = c₁.index.devicesForServer s.id :=
      sim.devicesFor h₁ (.server s.id)
    rw [hids]
    split
    · exact .of_related h₁ _
    · exact sim.modify h₁ _ _

theorem attachClient (settings : Settings) (client : VpnClient) :
    Matches R (c.attachClient settings outage client)
      (c'.attachClient settings outage' client) := by
  unfold Controller.attachClient
  rw [sim.inventory h]
  split
  · exact .of_related h _
  · rename_i stored inv _
    -- Each attaches the client to its own lists, which are not seen.
    have hjoined := sim.publishAll (sim.withPeerLists (sim.commit h inv [stored.device] [])
      ((c.commit inv [stored.device] []).peerLists.attach stored)
      ((c'.commit inv [stored.device] []).peerLists.attach stored)) [.peersChanged stored.server]
    exact (sim.modify hjoined [stored.device] (.vpnMembership stored.server)).map fun _ => stored

theorem detachClient (x : DeviceId) (server : ServerId) :
    Matches R (c.detachClient outage x server) (c'.detachClient outage' x server) := by
  unfold Controller.detachClient
  rw [sim.inventory h]
  split
  · exact .of_related h _
  · split
    · exact .of_related h _
    · rename_i client inv _
      exact (sim.modify (sim.commit h inv [x] [client]) [x] (.vpnMembership server)).map
        fun _ => some client

theorem setOrganization (s : OrganizationSettings) :
    Matches R (c.setOrganization outage s) (c'.setOrganization outage' s) := by
  have hstored := sim.withInventory h { c.inventory with
    organizations := c.inventory.organizations.insert s.organization s }
  have hids : c'.index.devicesForOrganization s.organization =
      c.index.devicesForOrganization s.organization :=
    sim.devicesFor h (.organization s.organization)
  unfold Controller.setOrganization
  dsimp only
  rw [hids, sim.inventory h]
  split
  · exact .of_related hstored _
  · exact (sim.invalidateMany _ hstored).map fun _ => ()

theorem setGroup (g : DeviceGroup) :
    Matches R (c.setGroup outage g) (c'.setGroup outage' g) := by
  unfold Controller.setGroup
  rw [sim.inventory h]
  split
  · exact .of_related (sim.withInventory h _) _
  · rename_i change inv _
    have hcommit := sim.commit h inv change.retemplated change.left
    have hids : (c'.commit inv change.retemplated change.left).index.devicesForGroup g.id =
        (c.commit inv change.retemplated change.left).index.devicesForGroup g.id :=
      sim.devicesFor hcommit (.group g.id)
    dsimp only
    rw [hids]
    split
    · exact .of_related hcommit _
    · obtain ⟨answer, c₁, c₁', hc, hc', h₁⟩ := (sim.invalidateMany
        ((c.commit inv change.retemplated change.left).index.devicesForGroup g.id) hcommit).parts
      rw [hc, hc']
      cases answer with
      | error e => exact .of_related h₁ _
      | ok _ => exact sim.modify h₁ _ _

theorem send (x : DeviceId) (signal : Signal) :
    Matches R (c.send outage x signal) (c'.send outage' x signal) := by
  unfold Controller.send
  rw [sim.inventory h]
  split
  · exact .of_related h _
  · split
    · exact .of_related h _
    · rename_i left inv _
      have hcommit := sim.commit h inv [x] left
      dsimp only
      split
      · obtain ⟨answer, c₁, c₁', hc, hc', h₁⟩ := (sim.invalidate hcommit x).parts
        rw [hc, hc']
        exact ⟨rfl, sim.announceStatus h₁ _ _ _ _⟩
      · exact ⟨rfl, sim.announceStatus hcommit _ _ _ _⟩

/-! ## Requests -/

/-- Rendering a server changes nothing but the peer lists that are kept. -/
theorem renderServer (s : ServerId) : R (c.renderServer s).2 (c'.renderServer s).2 := by
  unfold Controller.renderServer
  rw [sim.inventory h]
  split
  · exact h
  · exact sim.withPeerLists h _ _

/-- Both answer a request alike, unless it reads what is kept, and they are related afterwards. -/
theorem perform {r : Request} (hr : r.readsKept = false) :
    Matches R (c.perform settings outage r) (c'.perform settings outage' r) := by
  cases r with
  | checksum | cached | peers | renderServer | serverChecksum => cases hr
  | render | document | context | configuration | status | snapshot | check =>
      refine ⟨?_, h⟩
      simp only [Controller.perform, Controller.check, Controller.render, sim.inventory h]
  | dependents on =>
      exact ⟨congrArg (fun ids => Except.ok (Reply.devices ids)) (sim.devicesFor h on), h⟩
  | dependencies x =>
      exact ⟨congrArg (fun d => Except.ok (Reply.dependencies d)) (sim.dependencies h x), h⟩
  | invalidate x => exact (sim.invalidate h x).map _
  | invalidateDependents on =>
      unfold Controller.perform
      dsimp only
      rw [sim.devicesFor h]
      exact (sim.invalidateMany _ h).map _
  | send x signal => exact (sim.send h x signal).map _
  | attachClient client => exact (sim.attachClient h settings client).map _
  | detachClient x server => exact (sim.detachClient h x server).map _
  | addDevice d configuration => exact (sim.addDevice h d configuration).map _
  | removeDevice x => exact (sim.removeDevice h x).map _
  | updateDevice d => exact (sim.updateDevice h d).map _
  | addTemplate t => exact (sim.addTemplate h t).map _
  | updateTemplate t => exact (sim.updateTemplate h t).map _
  | attachTemplate x | detachTemplate x | setTemplates x | clearTemplates x =>
      exact (sim.changeTemplates h x _).map _
  | setContext x context => exact (sim.editConfiguration h x .context _).map _
  | setDocument x document => exact (sim.setDocument h x document).map _
  | changeBackend x backend => exact (sim.changeBackend h x backend).map _
  | addServer s => exact (sim.addServer h s).map _
  | updateServer s => exact (sim.updateServer h s).map _
  | setOrganization s => exact (sim.setOrganization h s).map _
  | setGroup g => exact (sim.setGroup h g).map _

end Simulation

end Controller

end Fleet
