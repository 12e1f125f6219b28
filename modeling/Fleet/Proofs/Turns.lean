/-
# What becomes of records

A request edits the records of the devices that it touches, and stores at most one record that
devices share.  What becomes of one device is one of a few things: it is added or removed, or its
record and its configuration are rewritten in one of a few ways.

Main statements: `Controller.Makes.agreesOff`, `Controller.Makes.stores`, `Controller.Makes.turns`,
`Controller.Rewrites.moves`, `Controller.Makes.counts`.
-/
import Fleet.Proofs.Changes

namespace Fleet

/-! ## Records that devices share -/

/-- Whether a request is about a record that devices share. -/
def Request.storesShared : Request → Bool
  | .addTemplate _ | .updateTemplate _ | .addServer _ | .updateServer _ | .setOrganization _
  | .setGroup _ => true
  | _ => false

/-- Requests that change a list store no shared record. -/
theorem Request.Lists.storesShared {catalog : Catalog} {k : Configuration} {organization : OrgId}
    {r : Request} {x : DeviceId} {ts : List TemplateId} (h : r.Lists catalog k organization x ts) :
    r.storesShared = false := by
  cases h <;> rfl

/-- Requests that edit a configuration store no shared record. -/
theorem Request.Edits.storesShared {k edited : Configuration} {r : Request} {x : DeviceId}
    (h : r.Edits k x edited) : r.storesShared = false := by
  cases h <;> rfl

namespace Controller

variable {settings : Settings} {outage : Outage} {c : Controller} {r : Request} {change : Change}

/-- Only the devices that are touched are concerned. -/
theorem Makes.agreesOff (hkeyed : c.inventory.DevicesKeyed)
    (h : Makes settings outage c r change) :
    Inventory.AgreesOff change.touched c.inventory change.edited := by
  cases h with
  | idle | invalidate | invalidateDependents => exact Inventory.AgreesOff.refl _ _
  | addDevice h => exact Inventory.agreesOff_insertDevice h
  | removeDevice h => exact Inventory.agreesOff_removeDevice h
  | updateDevice h => exact Inventory.agreesOff_replaceDevice h
  | addTemplate h =>
      obtain ⟨u, _, _, _, hr⟩ := Inventory.insertTemplate_eq_ok h
      have hoff := hr.agreesOff
      exact ⟨hoff.device, hoff.configuration, hoff.clients⟩
  | updateTemplate h =>
      obtain ⟨u, _, _, _, _, hr⟩ := Inventory.replaceTemplate_eq_ok h
      have hoff := hr.agreesOff
      exact ⟨hoff.device, hoff.configuration, hoff.clients⟩
  | relist _ _ _ h =>
      obtain ⟨_, _, hr, _⟩ := Inventory.setTemplates_eq_ok h
      exact hr.agreesOff
  | edit => exact Inventory.agreesOff_putConfiguration _
  | changeBackend h =>
      obtain ⟨d, k, _, _, ⟨_, rfl⟩ | ⟨_, _, hr⟩⟩ := Inventory.setBackend_eq_ok h
      · exact Inventory.AgreesOff.refl _ _
      · exact hr.agreesOff
  | addServer h =>
      obtain ⟨_, rfl⟩ := Inventory.insertServer_eq_ok h
      exact Inventory.AgreesOff.of_eq rfl rfl rfl
  | updateServer h =>
      obtain ⟨_, rfl⟩ := Inventory.replaceServer_eq_ok h
      exact Inventory.AgreesOff.of_eq rfl rfl rfl
  | attachClient h => exact Inventory.agreesOff_insertClient h
  | @detachClient id server client inv h =>
      have hoff := Inventory.agreesOff_removeClient c.inventory id server
      rwa [h] at hoff
  | setOrganization => exact Inventory.AgreesOff.of_eq rfl rfl rfl
  | setGroup h =>
      obtain ⟨_, _, ⟨_, _, _, rfl⟩ | ⟨_, hs⟩⟩ := Inventory.setGroup_eq_ok hkeyed h
      · exact Inventory.AgreesOff.of_eq rfl rfl rfl
      · have hoff := hs.agreesOff
        exact ⟨hoff.device, hoff.configuration, hoff.clients⟩
  | signal _ _ _ _ _ hinv =>
      rw [hinv]
      exact Inventory.agreesOff_putConfiguration _
  | deactivate _ _ _ hinv =>
      rw [hinv]
      exact ((Inventory.agreesOff_putConfiguration _).trans (Inventory.agreesOff_putDevice _)).trans
        Inventory.agreesOff_removeClientsOf
  | activate _ _ _ hinv =>
      rw [hinv]
      exact (Inventory.agreesOff_putConfiguration _).trans (Inventory.agreesOff_putDevice _)

/-- What a request may do to what devices share: it stores one record, or nothing. -/
inductive Stores (inv inv' : Inventory) : Request → Prop where
  | nothing {r : Request} (h : Inventory.SharesWith inv inv') : Stores inv inv' r
  | addTemplate {t T : Template} {n : Nat} (h : Inventory.SharesWith (inv.putTemplate T n) inv') :
      Stores inv inv' (.addTemplate t)
  | updateTemplate {t T : Template} {n : Nat}
      (h : Inventory.SharesWith (inv.putTemplate T n) inv') : Stores inv inv' (.updateTemplate t)
  | addServer {s : VpnServer}
      (h : Inventory.SharesWith { inv with servers := inv.servers.insert s.id s } inv') :
      Stores inv inv' (.addServer s)
  | updateServer {s : VpnServer}
      (h : Inventory.SharesWith { inv with servers := inv.servers.insert s.id s } inv') :
      Stores inv inv' (.updateServer s)
  | setOrganization {s : OrganizationSettings}
      (h : Inventory.SharesWith
        { inv with organizations := inv.organizations.insert s.organization s } inv') :
      Stores inv inv' (.setOrganization s)
  | setGroup {g : DeviceGroup}
      (h : Inventory.SharesWith { inv with groups := inv.groups.insert g.id g } inv') :
      Stores inv inv' (.setGroup g)

/-- A request that is not about a shared record stores none. -/
theorem Stores.shares {inv inv' : Inventory} (h : Stores inv inv' r) (hr : r.storesShared = false) :
    Inventory.SharesWith inv inv' := by
  cases h with
  | nothing h => exact h
  | _ => cases hr

/-- A request stores one record that devices share, or nothing. -/
theorem Makes.stores (hkeyed : c.inventory.DevicesKeyed) (h : Makes settings outage c r change) :
    Stores c.inventory change.edited r := by
  cases h with
  | idle | invalidate | invalidateDependents => exact .nothing (Inventory.SharesWith.refl _)
  | addDevice h =>
      obtain ⟨_, _, _, _, rfl⟩ := Inventory.insertDevice_eq_ok h
      exact .nothing ⟨rfl, rfl, rfl, rfl⟩
  | removeDevice h =>
      obtain ⟨_, _, _, _, _, rfl⟩ := Inventory.removeDevice_eq_ok h
      exact .nothing ⟨rfl, rfl, rfl, rfl⟩
  | updateDevice h =>
      obtain ⟨_, _, _, ⟨_, _, rfl⟩ | ⟨_, _, _, hr, _⟩⟩ := Inventory.replaceDevice_eq_ok h
      · exact .nothing ⟨rfl, rfl, rfl, rfl⟩
      · have hs := hr.shares
        exact .nothing ⟨hs.templates, hs.servers, hs.organizations, hs.groups⟩
  | addTemplate h =>
      obtain ⟨u, _, _, _, hr⟩ := Inventory.insertTemplate_eq_ok h
      exact .addTemplate hr.shares
  | updateTemplate h =>
      obtain ⟨u, _, _, _, _, hr⟩ := Inventory.replaceTemplate_eq_ok h
      exact .updateTemplate hr.shares
  | relist _ _ _ h =>
      obtain ⟨_, _, hr, _⟩ := Inventory.setTemplates_eq_ok h
      exact .nothing hr.shares
  | edit => exact .nothing ⟨rfl, rfl, rfl, rfl⟩
  | changeBackend h =>
      obtain ⟨d, k, _, _, ⟨_, rfl⟩ | ⟨_, _, hr⟩⟩ := Inventory.setBackend_eq_ok h
      · exact .nothing (Inventory.SharesWith.refl _)
      · exact .nothing hr.shares
  | addServer h =>
      obtain ⟨_, rfl⟩ := Inventory.insertServer_eq_ok h
      exact .addServer (Inventory.SharesWith.refl _)
  | updateServer h =>
      obtain ⟨_, rfl⟩ := Inventory.replaceServer_eq_ok h
      exact .updateServer (Inventory.SharesWith.refl _)
  | attachClient h =>
      obtain ⟨_, _, _, _, _, _, _, _, _, rfl⟩ := Inventory.insertClient_eq_ok h
      exact .nothing ⟨rfl, rfl, rfl, rfl⟩
  | @detachClient id server client inv h =>
      obtain ⟨cs, hcs, _⟩ := Inventory.removeClient_snd c.inventory id server
      rw [h] at hcs
      subst hcs
      exact .nothing ⟨rfl, rfl, rfl, rfl⟩
  | setOrganization => exact .setOrganization (Inventory.SharesWith.refl _)
  | setGroup h =>
      obtain ⟨_, _, ⟨_, _, _, rfl⟩ | ⟨_, hs⟩⟩ := Inventory.setGroup_eq_ok hkeyed h
      · exact .setGroup (Inventory.SharesWith.refl _)
      · exact .setGroup hs.shares
  | signal _ _ _ _ _ hinv | deactivate _ _ _ hinv | activate _ _ _ hinv =>
      rw [hinv]
      exact .nothing ⟨rfl, rfl, rfl, rfl⟩

/-- The catalog stays, or one template is stored and then attached wherever it is required. -/
theorem Makes.catalog (hkeyed : c.inventory.DevicesKeyed) (h : Makes settings outage c r change) :
    change.edited.templates = c.inventory.templates ∨
      (∃ t u n, r = .addTemplate t ∧ c.inventory.templates.get? u.id = none ∧
        Inventory.Requires (c.inventory.putTemplate u n) u change.touched change.edited) ∨
      ∃ t u p, r = .updateTemplate t ∧ t.normalize = .ok u ∧
        c.inventory.templates.get? u.id = some p ∧
        Inventory.Requires
          (c.inventory.putTemplate { u with created := p.created } c.inventory.templateSequence)
          { u with created := p.created } change.touched change.edited := by
  cases h.stores hkeyed with
  | nothing hs | addServer hs | updateServer hs | setOrganization hs | setGroup hs =>
      exact Or.inl hs.templates
  | addTemplate =>
      cases h with
      | idle => exact Or.inl rfl
      | addTemplate h =>
          obtain ⟨u, _, hnew, _, hr⟩ := Inventory.insertTemplate_eq_ok h
          exact Or.inr (Or.inl ⟨_, { u with created := c.inventory.templateSequence + 1 }, _, rfl,
            hnew, hr⟩)
      | relist _ _ hts => cases hts
      | edit _ hedit => cases hedit
  | updateTemplate =>
      cases h with
      | idle => exact Or.inl rfl
      | updateTemplate h =>
          obtain ⟨u, hu, hp, _, _, hr⟩ := Inventory.replaceTemplate_eq_ok h
          exact Or.inr (Or.inr ⟨_, _, _, rfl, hu, hp, hr⟩)
      | relist _ _ hts => cases hts
      | edit _ hedit => cases hedit

/-! ## One device -/

/-- How the record and the configuration of a device are rewritten by a request that leads to an
inventory: the first two are those before, the last two those after. -/
inductive Rewrites (inv : Inventory) (x : DeviceId) :
    Request → Device → Configuration → Device → Configuration → Prop where
  | same {r : Request} {p : Device} {k : Configuration} : Rewrites inv x r p k p k
  /-- The record is replaced and the list stays. -/
  | replaced {d p : Device} {k : Configuration} (hid : d.id = x)
      (h : ¬ Inventory.Rescopes p d k) :
      Rewrites inv x (.updateDevice d) p k { d with active := p.active } k
  /-- The record is replaced and the list follows. -/
  | followed {d p : Device} {k : Configuration} {dropped added : List TemplateId} (hid : d.id = x)
      (h : Inventory.Rescopes p d k) :
      Rewrites inv x (.updateDevice d) p k { d with active := p.active }
        { k with templates := inv.templates.rescope k d.organization dropped added }
  /-- The list is completed with a required template that is stored. -/
  | completed {r : Request} {p : Device} {k : Configuration} {t T : Template}
      (hT : inv.templates.get? T.id = some T) (hlacks : T.id ∉ k.templates)
      (hrequired : T.isRequiredFor k.backend p.organization = true)
      (huse : k.status.isDeactivation = false) (hid : T.id = t.id)
      (hr : r = .addTemplate t ∨ r = .updateTemplate t) :
      Rewrites inv x r p k p { k with templates := inv.templates.withRequired k p.organization }
  /-- The list is changed as requested. -/
  | relisted {r : Request} {p : Device} {k : Configuration} {ts : List TemplateId}
      (h : r.Lists inv.templates k p.organization x ts) :
      Rewrites inv x r p k p { k with templates := ts }
  | edited {r : Request} {p : Device} {k edited : Configuration} (h : r.Edits k x edited) :
      Rewrites inv x r p k p edited
  /-- The configuration moves to another backend. -/
  | rebacked {p : Device} {k : Configuration} {backend : Backend} (h : k.backend ≠ backend) :
      Rewrites inv x (.changeBackend x backend) p k p
        { k with backend, templates := inv.movedTemplates x p k backend }
  /-- The list of a member follows its group. -/
  | regrouped {g : DeviceGroup} {p : Device} {k : Configuration} {old : List TemplateId}
      (hactive : p.active = true) (hgroup : p.group = some g.id)
      (huse : k.status.isDeactivation = false) :
      Rewrites inv x (.setGroup g) p k p
        { k with templates := inv.templates.rescope k p.organization old g.templates }
  /-- A signal only moves the state. -/
  | signalled {signal : Signal} {p : Device} {k : Configuration} {s : Status}
      (h : k.status.after p.active signal = .ok s) (hactivate : signal ≠ .activate)
      (hdeactivate : signal = .deactivate → s = k.status) :
      Rewrites inv x (.send x signal) p k p { k with status := s }
  | deactivated {p : Device} {k : Configuration} {s : Status}
      (h : k.status.after p.active .deactivate = .ok s) :
      Rewrites inv x (.send x .deactivate) p k { p with active := false }
        { k with document := .emptyObject, templates := [], status := s }
  | activated {p : Device} {k : Configuration} {s : Status}
      (h : k.status.after p.active .activate = .ok s) :
      Rewrites inv x (.send x .activate) p k { p with active := true }
        { k with
          templates := inv.startingTemplates k p.organization p.group
          status := s }

/-- How activity and state move when the record and the configuration of a device are rewritten. -/
inductive Moves (x : DeviceId) (p : Device) (k : Configuration) (d : Device) (k' : Configuration) :
    Request → Prop where
  | stays {r : Request} (hactive : d.active = p.active) (hstatus : k'.status = k.status) :
      Moves x p k d k' r
  | signalled {signal : Signal} (hactive : d.active = p.active)
      (hstatus : k.status.after p.active signal = .ok k'.status) (hactivate : signal ≠ .activate)
      (hdeactivate : signal = .deactivate → k'.status = k.status) :
      Moves x p k d k' (.send x signal)
  /-- The configuration is emptied with the device taken out of use. -/
  | deactivated (hactive : d.active = false) (hstatus : k'.status = .deactivating)
      (hdocument : k'.document = .emptyObject) (htemplates : k'.templates = []) :
      Moves x p k d k' (.send x .deactivate)
  | activated (hactive : d.active = true) (hstatus : k'.status = .modified) :
      Moves x p k d k' (.send x .activate)

/-- Only signals move the state, and only deactivation and activation the activity. -/
theorem Rewrites.moves {inv : Inventory} {x : DeviceId} {p d : Device} {k k' : Configuration}
    (h : Rewrites inv x r p k d k') : Moves x p k d k' r := by
  cases h with
  | same | replaced | followed | completed | relisted | rebacked | regrouped => exact .stays rfl rfl
  | edited h =>
      cases h with
      | context => exact .stays rfl rfl
      | document => exact .stays rfl rfl
  | signalled hstatus hactivate hdeactivate => exact .signalled rfl hstatus hactivate hdeactivate
  | deactivated hstatus =>
      exact .deactivated rfl (Status.eq_deactivating_of_deactivate hstatus) rfl rfl
  | activated hstatus => exact .activated rfl (Status.eq_modified_of_activate hstatus)

/-- Base documents are replaced as requested, and emptied. -/
theorem Rewrites.document {inv : Inventory} {x : DeviceId} {p d : Device} {k k' : Configuration}
    (h : Rewrites inv x r p k d k') :
    k'.document = k.document ∨ k'.document = .emptyObject ∨ r = .setDocument x k'.document := by
  cases h with
  | same | replaced | followed | completed | relisted | rebacked | regrouped | signalled
  | activated => exact Or.inl rfl
  | edited h =>
      cases h with
      | context => exact Or.inl rfl
      | document => exact Or.inr (Or.inr rfl)
  | deactivated => exact Or.inr (Or.inl rfl)

/-- What becomes of a device when a request leads from one inventory to another. -/
inductive Turns (inv inv' : Inventory) (x : DeviceId) : Request → Prop where
  /-- There is no such device afterwards. -/
  | absent {r : Request} (hd : inv'.devices.get? x = none)
      (hk : inv'.configurations.get? x = none) : Turns inv inv' x r
  /-- The device is new, with the templates that it starts with. -/
  | added {d : Device} {k : Configuration} (hid : d.id = x) (hnew : inv.devices.get? x = none)
      (hobject : k.document.isObject = true)
      (husable : ∀ t ∈ k.templates, ∃ T, inv'.templates.get? t = some T ∧ T.backend = k.backend ∧
        T.isVisibleTo d.organization = true)
      (hd : inv'.devices.get? x = some d)
      (hk : inv'.configurations.get? x = some { k with
        templates := inv'.startingTemplates k d.organization d.group
        status := .modified }) : Turns inv inv' x (.addDevice d k)
  /-- The device is there before and afterwards. -/
  | rewritten {r : Request} {p d : Device} {k k' : Configuration}
      (hp : inv.devices.get? x = some p) (hk : inv.configurations.get? x = some k)
      (hd : inv'.devices.get? x = some d) (hk' : inv'.configurations.get? x = some k')
      (h : Rewrites inv' x r p k d k') : Turns inv inv' x r

/-- The list after a move is computed from what devices share. -/
theorem movedTemplates_of_shares {inv inv' : Inventory} (h : Inventory.SharesWith inv inv')
    (x : DeviceId) (d : Device) (k : Configuration) (backend : Backend) :
    inv'.movedTemplates x d k backend = inv.movedTemplates x d k backend := by
  unfold Inventory.movedTemplates Inventory.groupTemplates
  rw [h.templates, h.groups]

/-- Where nothing is rewritten a device stays as it is. -/
theorem turns_of_eq {inv inv' : Inventory} {x : DeviceId}
    (hd : inv'.devices.get? x = inv.devices.get? x)
    (hk : inv'.configurations.get? x = inv.configurations.get? x)
    (hpaired : (∃ d, inv.devices.get? x = some d) ↔ ∃ k, inv.configurations.get? x = some k) :
    Turns inv inv' x r := by
  cases hp : inv.devices.get? x with
  | none =>
      have hnone : inv.configurations.get? x = none := by
        apply Option.eq_none_iff_forall_ne_some.mpr
        intro k hk
        obtain ⟨d, hd⟩ := hpaired.mpr ⟨k, hk⟩
        rw [hp] at hd
        cases hd
      exact Turns.absent (hd.trans hp) (hk.trans hnone)
  | some p =>
      obtain ⟨k, hk₀⟩ := hpaired.mp ⟨p, hp⟩
      exact Turns.rewritten hp hk₀ (hd.trans hp) (hk.trans hk₀) Rewrites.same

/-- Devices that get a required template have their lists completed. -/
theorem turns_of_requires {inv inv' : Inventory} {t T : Template} {n : Nat} {ids : List DeviceId}
    {x : DeviceId} (hrequires : Inventory.Requires (inv.putTemplate T n) T ids inv') (hx : x ∈ ids)
    (hid : T.id = t.id) (hr : r = .addTemplate t ∨ r = .updateTemplate t) : Turns inv inv' x r := by
  obtain ⟨d, k, hd, hk, huse, hlacks, hrequired, hk'⟩ := hrequires.attached x hx
  rw [← hrequires.shares.templates] at hk'
  have hT : inv'.templates.get? T.id = some T := by
    rw [hrequires.shares.templates]
    exact SortedMap.get?_insert_self _ _ _
  have hd' : inv'.devices.get? x = some d := by
    rw [hrequires.eq]
    exact hd
  exact Turns.rewritten hd hk hd' hk' (Rewrites.completed hT hlacks hrequired huse hid hr)

section Devices

variable {inv inv' : Inventory} {x : DeviceId}

/-- A device that is replaced keeps its configuration, or its list follows its new scope. -/
theorem turns_replaceDevice {d p : Device} {change : TemplateChange}
    (h : inv.replaceDevice d = .ok (p, change, inv')) : Turns inv inv' d.id (.updateDevice d) := by
  obtain ⟨k, hp, hk, ⟨hstays, _, rfl⟩ | ⟨hmoves, dropped, added, hr, _⟩⟩ :=
    Inventory.replaceDevice_eq_ok h
  · exact Turns.rewritten hp hk Inventory.putDevice_get?_self hk (Rewrites.replaced rfl hstays)
  · have hd : inv'.devices.get? d.id = some { d with active := p.active } := by
      rw [hr.devices]
      exact Inventory.putDevice_get?_self
    have htemplates : inv'.templates = inv.templates := hr.shares.templates
    have hk' := hr.get?_self
    rw [← htemplates] at hk'
    exact Turns.rewritten hp hk hd hk' (Rewrites.followed rfl hmoves)

/-- A configuration gets the list that was asked for. -/
theorem turns_setTemplates {d : Device} {k : Configuration} {ts : List TemplateId}
    {change : TemplateChange} (hd : inv.devices.get? x = some d)
    (hk : inv.configurations.get? x = some k)
    (hts : r.Lists inv.templates k d.organization x ts)
    (h : inv.setTemplates x ts = .ok (change, inv')) : Turns inv inv' x r := by
  obtain ⟨k', hk', hr, _⟩ := Inventory.setTemplates_eq_ok h
  obtain rfl : k' = k := Option.some.inj (hk'.symm.trans hk)
  -- The list was asked for in the catalog before, which is the one afterwards.
  rw [← hr.shares.templates] at hts
  exact Turns.rewritten hd hk (hr.devices ▸ hd) hr.get?_self (Rewrites.relisted hts)

/-- A configuration stays with its backend or moves to another. -/
theorem turns_setBackend {backend : Backend} {change : TemplateChange}
    (h : inv.setBackend x backend = .ok (change, inv')) :
    Turns inv inv' x (.changeBackend x backend) := by
  obtain ⟨d, k, hd, hk, ⟨_, rfl⟩ | ⟨_, hne, hr⟩⟩ := Inventory.setBackend_eq_ok h
  · exact Turns.rewritten hd hk hd hk Rewrites.same
  · have hk' := hr.get?_self
    rw [← movedTemplates_of_shares hr.shares] at hk'
    exact Turns.rewritten hd hk (hr.devices ▸ hd) hk' (Rewrites.rebacked hne)

/-- The list of a member in use follows its group. -/
theorem turns_setGroup {g : DeviceGroup} {change : GroupChange} (hkeyed : inv.DevicesKeyed)
    (hpaired : ∀ x, (∃ d, inv.devices.get? x = some d) ↔ ∃ k, inv.configurations.get? x = some k)
    (h : inv.setGroup g = (.ok change, inv')) (hx : x ∈ change.retemplated) :
    Turns inv inv' x (.setGroup g) := by
  obtain ⟨_, _, ⟨_, hnone, _⟩ | ⟨_, hsw⟩⟩ := Inventory.setGroup_eq_ok hkeyed h
  · rw [hnone] at hx
    cases hx
  · obtain ⟨d, hd, hactive, hgroup⟩ := hkeyed.mem_membersOf.mp (hsw.subset x hx)
    obtain ⟨k, hk⟩ := (hpaired x).mp ⟨d, hd⟩
    have hk' := hsw.swapped x (hsw.subset x hx) d k hd hk
    rw [← hsw.shares.templates] at hk'
    -- The list of a member that is deactivated stays.
    cases huse : k.status.isDeactivation with
    | true =>
        rw [huse, if_pos rfl] at hk'
        exact Turns.rewritten hd hk (hsw.devices ▸ hd) hk' Rewrites.same
    | false =>
        rw [huse, if_neg Bool.false_ne_true] at hk'
        exact Turns.rewritten hd hk (hsw.devices ▸ hd) hk'
          (Rewrites.regrouped hactive hgroup huse)

end Devices

/-- What becomes of a device that a request touches. -/
theorem Makes.turns_touched (hkeyed : c.inventory.DevicesKeyed)
    (hpaired : ∀ x, (∃ d, c.inventory.devices.get? x = some d) ↔
      ∃ k, c.inventory.configurations.get? x = some k)
    (h : Makes settings outage c r change) {x : DeviceId} (hx : x ∈ change.touched) :
    Turns c.inventory change.edited x r := by
  cases h with
  | idle | invalidate | invalidateDependents | addServer | updateServer | setOrganization =>
    cases hx
  | addDevice h =>
      obtain rfl := List.mem_singleton.mp hx
      obtain ⟨hnew, _, hobject, husable, rfl⟩ := Inventory.insertDevice_eq_ok h
      exact Turns.added rfl hnew hobject husable Inventory.putDevice_get?_self
        Inventory.putConfiguration_get?_self
  | removeDevice h =>
      obtain rfl := List.mem_singleton.mp hx
      obtain ⟨_, _, _, _, _, rfl⟩ := Inventory.removeDevice_eq_ok h
      exact Turns.absent (SortedMap.get?_erase_self _ _) (SortedMap.get?_erase_self _ _)
  | updateDevice h =>
      obtain rfl := List.mem_singleton.mp hx
      exact turns_replaceDevice h
  | addTemplate h =>
      obtain ⟨u, hu, _, _, hrequires⟩ := Inventory.insertTemplate_eq_ok h
      exact turns_of_requires hrequires hx (Inventory.normalize_eq_ok hu).1 (Or.inl rfl)
  | updateTemplate h =>
      obtain ⟨u, hu, _, _, _, hrequires⟩ := Inventory.replaceTemplate_eq_ok h
      exact turns_of_requires hrequires hx (Inventory.normalize_eq_ok hu).1 (Or.inr rfl)
  | relist hd hk hts h =>
      obtain rfl := List.mem_singleton.mp hx
      exact turns_setTemplates hd hk hts h
  | edit hk h =>
      obtain rfl := List.mem_singleton.mp hx
      obtain ⟨d, hd⟩ := (hpaired _).mpr ⟨_, hk⟩
      exact Turns.rewritten hd hk hd Inventory.putConfiguration_get?_self (Rewrites.edited h)
  | changeBackend h =>
      obtain rfl := List.mem_singleton.mp hx
      exact turns_setBackend h
  | attachClient h =>
      obtain ⟨_, _, _, _, _, _, _, _, _, rfl⟩ := Inventory.insertClient_eq_ok h
      exact turns_of_eq rfl rfl (hpaired x)
  | @detachClient id server client inv h =>
      obtain ⟨cs, hcs, _⟩ := Inventory.removeClient_snd c.inventory id server
      rw [h] at hcs
      subst hcs
      exact turns_of_eq rfl rfl (hpaired x)
  | setGroup h => exact turns_setGroup hkeyed hpaired h hx
  | signal hd hk hstatus hactivate hdeactivate hinv =>
      obtain rfl := List.mem_singleton.mp hx
      rw [hinv]
      exact Turns.rewritten hd hk hd Inventory.putConfiguration_get?_self
        (Rewrites.signalled hstatus hactivate hdeactivate)
  | deactivate hd hk hstatus hinv =>
      obtain rfl := List.mem_singleton.mp hx
      rw [hinv]
      exact Turns.rewritten hd hk Inventory.putDevice_get?_self Inventory.putConfiguration_get?_self
        (Rewrites.deactivated hstatus)
  | activate hd hk hstatus hinv =>
      obtain rfl := List.mem_singleton.mp hx
      rw [hinv]
      exact Turns.rewritten hd hk Inventory.putDevice_get?_self Inventory.putConfiguration_get?_self
        (Rewrites.activated hstatus)

/-- What becomes of a device when a request is answered. -/
theorem Makes.turns (hkeyed : c.inventory.DevicesKeyed)
    (hpaired : ∀ x, (∃ d, c.inventory.devices.get? x = some d) ↔
      ∃ k, c.inventory.configurations.get? x = some k)
    (h : Makes settings outage c r change) (x : DeviceId) :
    Turns c.inventory change.edited x r := by
  -- What the request does is asked only where it edits; elsewhere the records are the same.
  by_cases hx : x ∈ change.touched
  · exact h.turns_touched hkeyed hpaired hx
  · have hoff := h.agreesOff hkeyed
    exact turns_of_eq (hoff.device x hx) (hoff.configuration x hx) (hpaired x)

/-- Memberships only end, unless a device joins a server that exists. -/
theorem Makes.clients (hkeyed : c.inventory.DevicesKeyed) (h : Makes settings outage c r change) :
    change.edited.clients.Sublist c.inventory.clients ∨
      ∃ client stored, r = .attachClient client ∧
        c.inventory.insertClient client settings.maxTunnelId = .ok (stored, change.edited) := by
  cases h with
  | idle | invalidate | invalidateDependents | edit | setOrganization =>
      exact Or.inl (List.Sublist.refl _)
  | addDevice h =>
      obtain ⟨_, _, _, _, rfl⟩ := Inventory.insertDevice_eq_ok h
      exact Or.inl (List.Sublist.refl _)
  | removeDevice h =>
      obtain ⟨_, _, _, _, _, rfl⟩ := Inventory.removeDevice_eq_ok h
      exact Or.inl List.filter_sublist
  | updateDevice h =>
      obtain ⟨_, _, _, ⟨_, _, rfl⟩ | ⟨_, _, _, hr, _⟩⟩ := Inventory.replaceDevice_eq_ok h
      · exact Or.inl (List.Sublist.refl _)
      · exact Or.inl hr.sublist
  | addTemplate h =>
      obtain ⟨_, _, _, _, hr⟩ := Inventory.insertTemplate_eq_ok h
      exact Or.inl (hr.clients ▸ List.Sublist.refl _)
  | updateTemplate h =>
      obtain ⟨_, _, _, _, _, hr⟩ := Inventory.replaceTemplate_eq_ok h
      exact Or.inl (hr.clients ▸ List.Sublist.refl _)
  | relist _ _ _ h =>
      obtain ⟨_, _, hr, _⟩ := Inventory.setTemplates_eq_ok h
      exact Or.inl hr.sublist
  | changeBackend h =>
      obtain ⟨_, _, _, _, ⟨_, rfl⟩ | ⟨_, _, hr⟩⟩ := Inventory.setBackend_eq_ok h
      · exact Or.inl (List.Sublist.refl _)
      · exact Or.inl hr.sublist
  | addServer h =>
      obtain ⟨_, rfl⟩ := Inventory.insertServer_eq_ok h
      exact Or.inl (List.Sublist.refl _)
  | updateServer h =>
      obtain ⟨_, rfl⟩ := Inventory.replaceServer_eq_ok h
      exact Or.inl (List.Sublist.refl _)
  | attachClient h => exact Or.inr ⟨_, _, rfl, h⟩
  | @detachClient id server client inv h =>
      obtain ⟨cs, hcs, hsub, _⟩ := Inventory.removeClient_snd c.inventory id server
      rw [h] at hcs
      subst hcs
      exact Or.inl hsub
  | setGroup h =>
      obtain ⟨_, _, ⟨_, _, _, rfl⟩ | ⟨_, hsw⟩⟩ := Inventory.setGroup_eq_ok hkeyed h
      · exact Or.inl (List.Sublist.refl _)
      · exact Or.inl hsw.sublist
  | signal _ _ _ _ _ hinv | activate _ _ _ hinv =>
      rw [hinv]
      exact Or.inl (List.Sublist.refl _)
  | deactivate _ _ _ hinv =>
      rw [hinv]
      exact Or.inl List.filter_sublist

/-- A member was one before, or joins a server. -/
theorem Makes.mem_clients (hkeyed : c.inventory.DevicesKeyed) (h : Makes settings outage c r change)
    {client : VpnClient} (hmem : client ∈ change.edited.clients) :
    client ∈ c.inventory.clients ∨ ∃ asked, r = .attachClient asked ∧
      c.inventory.insertClient asked settings.maxTunnelId = .ok (client, change.edited) := by
  rcases h.clients hkeyed with hsub | ⟨asked, stored, rfl, hinsert⟩
  · exact Or.inl (hsub.subset hmem)
  · obtain ⟨_, _, _, _, _, _, _, _, _, hinv⟩ := Inventory.insertClient_eq_ok hinsert
    rw [hinv, List.mem_append, List.mem_singleton] at hmem
    rcases hmem with hbefore | rfl
    · exact Or.inl hbefore
    · exact Or.inr ⟨asked, rfl, hinsert⟩

/-! ## What is counted -/

/-- No device is removed, no template stored, and no number handed out. -/
structure Keeps (inv inv' : Inventory) : Prop where
  /-- The devices go on existing. -/
  devices : ∀ x d, inv.devices.get? x = some d → ∃ d', inv'.devices.get? x = some d'
  /-- The templates stay. -/
  templates : inv'.templates = inv.templates
  /-- The tunnel ids stay. -/
  tunnelIds : inv'.tunnelIds = inv.tunnelIds
  /-- The number of templates stays. -/
  templateSequence : inv'.templateSequence = inv.templateSequence

/-- What a request may do to what is counted. -/
inductive Counts (maxTunnelId : Nat) (inv inv' : Inventory) : Prop where
  /-- Nothing. -/
  | kept (h : Keeps inv inv')
  /-- A device is removed. -/
  | removed {id : DeviceId} {removed : RemovedDevice}
      (h : inv.removeDevice id = (.ok removed, inv'))
  /-- A device joins a server. -/
  | joined {client stored : VpnClient}
      (h : inv.insertClient client maxTunnelId = .ok (stored, inv'))
  /-- A template is added. -/
  | added {t : Template} {ids : List DeviceId} (h : inv.insertTemplate t = .ok (ids, inv'))
  /-- A template is replaced. -/
  | replaced {t p : Template} {ids : List DeviceId} (h : inv.replaceTemplate t = .ok (p, ids, inv'))

namespace Keeps

variable {inv inv' : Inventory}

/-- Where the devices are the same they go on existing. -/
theorem of_devices_eq (hd : inv'.devices = inv.devices) (ht : inv'.templates = inv.templates)
    (hids : inv'.tunnelIds = inv.tunnelIds) (hn : inv'.templateSequence = inv.templateSequence) :
    Keeps inv inv' := by
  refine ⟨fun x d hx => ⟨d, ?_⟩, ht, hids, hn⟩
  rw [hd]
  exact hx

/-- A device that is stored hides none. -/
theorem of_putDevice {id : DeviceId} {d : Device} (hd : inv'.devices = inv.devices.insert id d)
    (ht : inv'.templates = inv.templates) (hids : inv'.tunnelIds = inv.tunnelIds)
    (hn : inv'.templateSequence = inv.templateSequence) : Keeps inv inv' := by
  refine ⟨fun x p hx => ?_, ht, hids, hn⟩
  rw [hd, SortedMap.get?_insert]
  split
  · exact ⟨d, rfl⟩
  · exact ⟨p, hx⟩

/-- Replacing a list counts nothing. -/
theorem of_relists {id : DeviceId} {k : Configuration} (h : Inventory.Relists inv id k inv') :
    Keeps inv inv' := by
  rw [h.eq]
  exact of_devices_eq rfl rfl rfl rfl

end Keeps

/-- A request keeps what is counted, or removes a device, lets one join a server or stores a
template. -/
theorem Makes.keeps_or (hkeyed : c.inventory.DevicesKeyed) (h : Makes settings outage c r change) :
    Keeps c.inventory change.edited ∨
      (∃ id removed, r = .removeDevice id ∧
        c.inventory.removeDevice id = (.ok removed, change.edited)) ∨
      (∃ client stored, r = .attachClient client ∧
        c.inventory.insertClient client settings.maxTunnelId = .ok (stored, change.edited)) ∨
      (∃ t ids, r = .addTemplate t ∧ c.inventory.insertTemplate t = .ok (ids, change.edited)) ∨
      ∃ t p ids, r = .updateTemplate t ∧
        c.inventory.replaceTemplate t = .ok (p, ids, change.edited) := by
  cases h with
  | idle | invalidate | invalidateDependents | edit | setOrganization =>
      exact Or.inl (Keeps.of_devices_eq rfl rfl rfl rfl)
  | addDevice h =>
      obtain ⟨_, _, _, _, rfl⟩ := Inventory.insertDevice_eq_ok h
      exact Or.inl (Keeps.of_putDevice rfl rfl rfl rfl)
  | removeDevice h => exact Or.inr (Or.inl ⟨_, _, rfl, h⟩)
  | updateDevice h =>
      obtain ⟨_, _, _, ⟨_, _, rfl⟩ | ⟨_, _, _, hr, _⟩⟩ := Inventory.replaceDevice_eq_ok h
      · exact Or.inl (Keeps.of_putDevice rfl rfl rfl rfl)
      · rw [hr.eq]
        exact Or.inl (Keeps.of_putDevice rfl rfl rfl rfl)
  | addTemplate h => exact Or.inr (Or.inr (Or.inr (Or.inl ⟨_, _, rfl, h⟩)))
  | updateTemplate h => exact Or.inr (Or.inr (Or.inr (Or.inr ⟨_, _, _, rfl, h⟩)))
  | relist _ _ _ h =>
      obtain ⟨_, _, hr, _⟩ := Inventory.setTemplates_eq_ok h
      exact Or.inl (Keeps.of_relists hr)
  | changeBackend h =>
      obtain ⟨_, _, _, _, ⟨_, rfl⟩ | ⟨_, _, hr⟩⟩ := Inventory.setBackend_eq_ok h
      · exact Or.inl (Keeps.of_devices_eq rfl rfl rfl rfl)
      · exact Or.inl (Keeps.of_relists hr)
  | addServer h =>
      obtain ⟨_, rfl⟩ := Inventory.insertServer_eq_ok h
      exact Or.inl (Keeps.of_devices_eq rfl rfl rfl rfl)
  | updateServer h =>
      obtain ⟨_, rfl⟩ := Inventory.replaceServer_eq_ok h
      exact Or.inl (Keeps.of_devices_eq rfl rfl rfl rfl)
  | attachClient h => exact Or.inr (Or.inr (Or.inl ⟨_, _, rfl, h⟩))
  | @detachClient id server client inv h =>
      obtain ⟨cs, hcs, _⟩ := Inventory.removeClient_snd c.inventory id server
      rw [h] at hcs
      subst hcs
      exact Or.inl (Keeps.of_devices_eq rfl rfl rfl rfl)
  | setGroup h =>
      obtain ⟨_, _, ⟨_, _, _, rfl⟩ | ⟨_, hsw⟩⟩ := Inventory.setGroup_eq_ok hkeyed h
      · exact Or.inl (Keeps.of_devices_eq rfl rfl rfl rfl)
      · rw [hsw.eq]
        exact Or.inl (Keeps.of_devices_eq rfl rfl rfl rfl)
  | signal _ _ _ _ _ hinv =>
      rw [hinv]
      exact Or.inl (Keeps.of_devices_eq rfl rfl rfl rfl)
  | deactivate _ _ _ hinv | activate _ _ _ hinv =>
      rw [hinv]
      exact Or.inl (Keeps.of_putDevice rfl rfl rfl rfl)

/-- What a request does to what is counted. -/
theorem Makes.counts (hkeyed : c.inventory.DevicesKeyed) (h : Makes settings outage c r change) :
    Counts settings.maxTunnelId c.inventory change.edited := by
  rcases h.keeps_or hkeyed with h | ⟨_, _, _, h⟩ | ⟨_, _, _, h⟩ | ⟨_, _, _, h⟩ | ⟨_, _, _, _, h⟩
  · exact .kept h
  · exact .removed h
  · exact .joined h
  · exact .added h
  · exact .replaced h

/-- A device goes on existing unless it is removed. -/
theorem Makes.removes (hkeyed : c.inventory.DevicesKeyed) (h : Makes settings outage c r change)
    {x : DeviceId} {p : Device} (hp : c.inventory.devices.get? x = some p)
    (hgone : change.edited.devices.get? x = none) :
    ∃ removed, r = .removeDevice x ∧
      c.inventory.removeDevice x = (.ok removed, change.edited) := by
  have hother : change.edited.devices ≠ c.inventory.devices := by
    intro hsame
    rw [hsame, hp] at hgone
    cases hgone
  rcases h.keeps_or hkeyed with hkeeps | ⟨id, removed, hr, hremove⟩ | ⟨_, _, _, hinsert⟩ |
    ⟨_, _, _, hinsert⟩ | ⟨_, _, _, _, hreplace⟩
  · obtain ⟨d, hd⟩ := hkeeps.devices x p hp
    rw [hgone] at hd
    cases hd
  · obtain ⟨_, _, _, _, _, hinv⟩ := Inventory.removeDevice_eq_ok hremove
    by_cases hx : id = x
    · subst hx
      exact ⟨removed, hr, hremove⟩
    · rw [hinv] at hgone
      dsimp only at hgone
      rw [SortedMap.get?_erase_ne hx, hp] at hgone
      cases hgone
  · obtain ⟨_, _, _, _, _, _, _, _, _, hinv⟩ := Inventory.insertClient_eq_ok hinsert
    exact absurd (congrArg Inventory.devices hinv) hother
  · obtain ⟨_, _, _, _, hrequires⟩ := Inventory.insertTemplate_eq_ok hinsert
    exact absurd (congrArg Inventory.devices hrequires.eq) hother
  · obtain ⟨_, _, _, _, _, hrequires⟩ := Inventory.replaceTemplate_eq_ok hreplace
    exact absurd (congrArg Inventory.devices hrequires.eq) hother

end Controller

end Fleet
