/-
# Lists that start afresh

The template list of a configuration is computed in three ways: for a device that is added, for a
configuration that moves to another backend, and for a device that is used again.  Nothing of the
list before survives the last two, so that they give the list that a new device would get.

Main statements: `Inventory.movedTemplates_eq_startingTemplates`, `Controller.run_retired`,
`Controller.Reachable.listsAsNew_of_reset`.
-/
import Fleet.Proofs.Locality
import Fleet.Proofs.Repeats
import Mathlib.Data.Fintype.EquivFin

namespace Fleet

open Outcomes

/-! ## Lists of defaults -/

namespace Catalog

variable {c : Catalog} {k k' : Configuration} {organization : OrgId}

/-- How a list is completed depends on the list and the backend. -/
theorem withRequired_congr (hbackend : k'.backend = k.backend)
    (hlist : k'.templates = k.templates) :
    c.withRequired k' organization = c.withRequired k organization := by
  unfold withRequired
  rw [hbackend, hlist]

/-- How a list moves to a scope depends on the list and the backend. -/
theorem rescope_congr {dropped added : List TemplateId} (hbackend : k'.backend = k.backend)
    (hlist : k'.templates = k.templates) :
    c.rescope k' organization dropped added = c.rescope k organization dropped added := by
  unfold rescope
  rw [hbackend, hlist]

/-- An empty list is completed with the defaults. -/
theorem withRequired_of_nil (hlist : k.templates = []) :
    c.withRequired k organization = Template.sortedIds (c.defaultFor k.backend organization) := by
  unfold withRequired
  rw [hlist]
  rfl

/-- The defaults of a scope stay as they are when they are moved to it. -/
theorem rescope_of_defaults (hc : c.Keyed)
    (hlist : k.templates = Template.sortedIds (c.defaultFor k.backend organization)) :
    c.rescope k organization [] [] = k.templates := by
  have hstored : ∀ t ∈ c.defaultFor k.backend organization, c.get? t.id = some t := by
    intro t ht
    obtain ⟨⟨id, hid⟩, _⟩ := mem_defaultFor.mp ht
    rw [hc id t hid]
    exact hid
  have hkept : ((c.present k.templates).filter fun t =>
      !([] : List TemplateId).contains t.id && t.isVisibleTo organization) =
      Template.sorted (c.defaultFor k.backend organization) := by
    rw [hlist, present_sortedIds hstored]
    refine List.filter_eq_self.mpr fun t ht => ?_
    obtain ⟨_, hdefault⟩ := mem_defaultFor.mp (Template.mem_of_mem_sorted ht)
    rw [(Template.of_isDefaultFor hdefault).2]
    rfl
  unfold rescope
  rw [hkept, hlist]
  show Template.sortedIds (Template.sorted _ ++ [] ++ _) = _
  rw [List.append_nil, Template.sortedIds_eq, Template.sortedIds_eq,
    Template.sorted_append_of_mem]
  -- What is required is a default.
  intro t ht
  obtain ⟨hfound, hrequired⟩ := mem_requiredFor.mp ht
  rw [← Template.sortedIds_eq, Template.mem_sortedIds]
  exact ⟨t, mem_defaultFor.mpr ⟨hfound, Template.isDefaultFor_of_isRequiredFor hrequired⟩, rfl⟩

/-- Of a list that fits its backend nothing survives a move to another one. -/
theorem rebackend_of_fits (hk : c.Fits k.backend k.templates) {backend : Backend}
    (hne : k.backend ≠ backend) :
    c.rebackend k organization backend =
      Template.sortedIds (c.defaultFor backend organization) := by
  have hnothing : ((c.present k.templates).filter fun t => t.backend == backend) = [] := by
    refine List.filter_eq_nil_iff.mpr fun t ht => ?_
    obtain ⟨id, hid, hget⟩ := mem_present.mp ht
    obtain ⟨T, hT, hbackend⟩ := hk id hid
    obtain rfl : t = T := Option.some.inj (hget.symm.trans hT)
    rw [hbackend, beq_iff_eq]
    exact hne
  unfold rebackend
  rw [hnothing]
  exact withRequired_of_nil rfl

end Catalog

namespace Inventory

variable {inv inv' : Inventory} {x : DeviceId} {d : Device} {k k' : Configuration}
  {organization : OrgId} {group : Option GroupId}

/-- What a configuration starts with depends on its list and its backend. -/
theorem startingTemplates_congr (hbackend : k'.backend = k.backend)
    (hlist : k'.templates = k.templates) :
    inv.startingTemplates k' organization group = inv.startingTemplates k organization group := by
  unfold startingTemplates
  rw [Catalog.withRequired_congr hbackend hlist]
  dsimp only
  split
  · rfl
  · exact Catalog.rescope_congr hbackend rfl

/-- What a configuration starts with is computed from what devices share. -/
theorem startingTemplates_of_shares (h : SharesWith inv inv') :
    inv'.startingTemplates k organization group = inv.startingTemplates k organization group := by
  unfold startingTemplates groupTemplates
  rw [h.templates, h.groups]

/-- The list after a move to another backend is the one that a configuration without templates
starts with there. -/
theorem movedTemplates_eq_startingTemplates (hc : inv.templates.Keyed)
    (hk : inv.templates.Fits k.backend k.templates) {backend : Backend}
    (hne : k.backend ≠ backend) :
    inv.movedTemplates x d k backend =
      inv.startingTemplates (Configuration.blank x backend) d.organization d.group := by
  unfold movedTemplates startingTemplates
  rw [Catalog.rebackend_of_fits hk hne, Catalog.withRequired_of_nil rfl]
  dsimp only
  split
  · -- Without templates of a group the list was already in the scope.
    rename_i hempty
    rw [List.isEmpty_iff.mp hempty]
    exact Catalog.rescope_of_defaults hc rfl
  · rfl

end Inventory

/-! ## New devices -/

namespace Inventory

variable {inv inv' : Inventory} {x : DeviceId} {d d' : Device} {k k' : Configuration}

/-- A device that can be added, in the place of another one and with a configuration for the same
backend that names no templates. -/
structure Newcomer (inv : Inventory) (d : Device) (k : Configuration) (d' : Device)
    (k' : Configuration) : Prop where
  /-- The record is valid. -/
  valid : d'.validate = .ok ()
  /-- The identifier is new. -/
  new : inv.devices.get? d'.id = none
  /-- The configuration is for the device. -/
  device : k'.device = d'.id
  /-- The configuration is valid. -/
  document : k'.validate = .ok ()
  /-- No templates are asked for. -/
  templates : k'.templates = []
  /-- The organization is the same. -/
  organization : d'.organization = d.organization
  /-- The group is the same. -/
  group : d'.group = d.group
  /-- The backend is the same. -/
  backend : k'.backend = k.backend

/-- There is always room for such a device. -/
theorem exists_newcomer (inv : Inventory) (d : Device) (k : Configuration) :
    ∃ d' k', inv.Newcomer d k d' k' := by
  obtain ⟨text, htext⟩ := Infinite.exists_notMem_finset
    (inv.devices.keys.map fun id => id.text.toList).toFinset
  have hnew : inv.devices.get? ⟨String.ofList text⟩ = none := by
    cases hget : inv.devices.get? ⟨String.ofList text⟩ with
    | none => rfl
    | some d' =>
        refine absurd (List.mem_toFinset.mpr (List.mem_map.mpr ?_)) htext
        exact ⟨_, SortedMap.mem_keys.mpr ⟨d', hget⟩, String.toList_ofList⟩
  have hvalid : Sample.device.validate = .ok () := by decide +kernel
  exact ⟨{ Sample.device with
      id := ⟨String.ofList text⟩, organization := d.organization, group := d.group },
    Configuration.blank ⟨String.ofList text⟩ k.backend,
    ⟨hvalid, hnew, rfl, rfl, rfl, rfl, rfl, rfl⟩⟩

/-- Such a device is added, with the templates that a configuration without
templates starts with. -/
theorem Newcomer.insertDevice_eq (h : Newcomer inv d k d' k') (x : DeviceId) :
    inv.insertDevice d' k' = .ok ((inv.putConfiguration d'.id { k' with
      templates := inv.startingTemplates (Configuration.blank x k.backend) d.organization d.group
      status := .modified }).putDevice d'.id d') := by
  have hstart : inv.startingTemplates k' d'.organization d'.group =
      inv.startingTemplates (Configuration.blank x k.backend) d.organization d.group := by
    rw [h.organization, h.group]
    exact startingTemplates_congr h.backend h.templates
  unfold insertDevice
  rw [h.valid, SortedMap.contains_eq_false.mpr h.new, h.document, h.templates, hstart]
  show (if k'.device ≠ d'.id then _ else _) = _
  rw [if_neg (not_not_intro h.device)]
  rfl

/-- The list of a device is the one that a configuration without templates starts with. -/
def StartsAfresh (inv : Inventory) (x : DeviceId) : Prop :=
  ∃ d k, inv.devices.get? x = some d ∧ inv.configurations.get? x = some k ∧
    k.templates = inv.startingTemplates (Configuration.blank x k.backend) d.organization d.group

/-- Making configurations modified changes no list. -/
theorem Marks.startsAfresh {ids : List DeviceId} (h : Marks inv ids inv')
    (hx : inv.StartsAfresh x) : inv'.StartsAfresh x := by
  obtain ⟨d, k, hd, hk, hlist⟩ := hx
  obtain ⟨s, hs⟩ := h.after hk
  refine ⟨d, _, by rw [h.devices, hd], hs, ?_⟩
  rw [startingTemplates_of_shares h.shares]
  exact hlist

end Inventory

namespace Controller

variable {settings : Settings} {outage : Outage} {c c' : Controller} {r : Request} {change : Change}
  {x : DeviceId}

/-- The list of a device is the one that any new device of its organization and its group would get
at this moment, with its backend and without templates of its own. -/
def ListsAsNew (settings : Settings) (c : Controller) (x : DeviceId) : Prop :=
  ∃ d k, c.inventory.devices.get? x = some d ∧ c.inventory.configurations.get? x = some k ∧
    (∃ d' k', c.inventory.Newcomer d k d' k') ∧ ∀ d' k', c.inventory.Newcomer d k d' k' →
      (c.perform settings .none (.addDevice d' k')).1 = .ok .done ∧
        ∃ k'', (c.perform settings .none (.addDevice d' k')).2.inventory.configurations.get? d'.id =
          some k'' ∧ k''.templates = k.templates

/-- A list that starts afresh is the one that a new device would get. -/
theorem listsAsNew_of_startsAfresh (h : c.inventory.StartsAfresh x) :
    c.ListsAsNew settings x := by
  obtain ⟨d, k, hd, hk, hlist⟩ := h
  refine ⟨d, k, hd, hk, c.inventory.exists_newcomer d k, fun d' k' hnew => ?_⟩
  have hadded := hnew.insertDevice_eq x
  show ((c.addDevice .none d' k').map fun _ => Reply.done).1 = .ok .done ∧
    ∃ k'', (c.addDevice .none d' k').2.inventory.configurations.get? d'.id = some k'' ∧ _
  unfold addDevice
  rw [hadded]
  have hstored : ∀ {inv ids left},
      ((c.commit inv ids left).invalidate .none d'.id).2.inventory = inv := by
    intro inv ids left
    rw [invalidate_snd]
    exact c.commit_inventory inv ids left
  refine ⟨rfl, ?_⟩
  dsimp only
  rw [hstored]
  exact ⟨_, Inventory.putConfiguration_get?_self, hlist.symm⟩

end Controller

/-! ## Devices out of use -/

/-- An event that does not name a device, unless it confirms that the device is deactivated. -/
def Event.Bypasses (x : DeviceId) : Event → Prop
  | .request _ r => r.device? = some x → r = .send x .confirmDeactivation
  | .pass _ => True

/-- A device is out of use, and its configuration is deactivated and names no templates. -/
def Inventory.Retired (inv : Inventory) (x : DeviceId) : Prop :=
  ∃ d k, inv.devices.get? x = some d ∧ inv.configurations.get? x = some k ∧ d.active = false ∧
    k.status.isDeactivation = true ∧ k.templates = []

/-- Making configurations modified leaves devices retired. -/
theorem Inventory.Marks.retired {inv inv' : Inventory} {ids : List DeviceId} {x : DeviceId}
    (h : Marks inv ids inv') (hx : inv.Retired x) : inv'.Retired x := by
  obtain ⟨d, k, hd, hk, hactive, hstatus, hlist⟩ := hx
  by_cases hmem : x ∈ ids
  · exact ⟨d, _, by rw [h.devices, hd], h.marked x hmem d k hd hk, hactive,
      (Status.isDeactivation_marked _ _).trans hstatus, hlist⟩
  · exact ⟨d, k, by rw [h.devices, hd], (h.kept x (Or.inl hmem)).trans hk, hactive, hstatus, hlist⟩

namespace Controller

variable {settings : Settings} {outage : Outage} {c : Controller} {r : Request} {change : Change}
  {x : DeviceId}

/-- Confirming a deactivation leaves the configuration deactivated. -/
theorem isDeactivation_of_confirm {active : Bool} {s t : Status}
    (h : s.after active .confirmDeactivation = .ok t) : t.isDeactivation = true := by
  cases active <;> cases s <;> cases h <;> rfl

/-- What bypasses a retired device writes nothing that matters. -/
theorem Rewrites.retired {inv : Inventory} {p d : Device} {k k' : Configuration}
    (h : Rewrites inv x r p k d k') (hr : r.device? = some x → r = .send x .confirmDeactivation)
    (hactive : p.active = false) (hstatus : k.status.isDeactivation = true)
    (hlist : k.templates = []) :
    d.active = false ∧ k'.status.isDeactivation = true ∧ k'.templates = [] := by
  cases h with
  | same => exact ⟨hactive, hstatus, hlist⟩
  | replaced hid => cases hr (congrArg some hid)
  | followed hid => cases hr (congrArg some hid)
  | completed _ _ _ huse => rw [hstatus] at huse; cases huse
  | relisted h =>
      cases hr h.device?_eq
      cases h
  | edited h =>
      cases hr h.device?_eq
      cases h
  | rebacked => cases hr rfl
  | regrouped hused => rw [hactive] at hused; cases hused
  | signalled h =>
      cases hr rfl
      exact ⟨hactive, isDeactivation_of_confirm h, hlist⟩
  | deactivated => cases hr rfl
  | activated => cases hr rfl

/-- A request that bypasses a retired device leaves it retired. -/
theorem Makes.retired (hs : c.inventory.Sound) (h : Makes settings outage c r change)
    (hr : r.device? = some x → r = .send x .confirmDeactivation) (hx : c.inventory.Retired x) :
    change.edited.Retired x := by
  obtain ⟨p, k, hp, hk, hactive, hstatus, hlist⟩ := hx
  cases h.turns hs.devicesKeyed (fun y => (hs.devices y).paired) x with
  | absent hd =>
      obtain ⟨_, rfl, _⟩ := h.removes hs.devicesKeyed hp hd
      cases hr rfl
  | added _ hnew => cases hnew.symm.trans hp
  | rewritten hp' hk' hd hk₁ hrewrites =>
      obtain rfl := Option.some.inj (hp'.symm.trans hp)
      obtain rfl := Option.some.inj (hk'.symm.trans hk)
      exact ⟨_, _, hd, hk₁, hrewrites.retired hr hactive hstatus hlist⟩

/-- Events that bypass a retired device leave it retired. -/
theorem after_retired (hs : c.inventory.Sound) {e : Event} (he : e.Bypasses x)
    (hx : c.inventory.Retired x) : (c.after settings e).inventory.Retired x := by
  cases e with
  | pass seconds => exact hx
  | request outage r =>
      obtain ⟨change, hmakes, hfollows⟩ := answers_of_sound hs settings outage r
      exact hfollows.marks.retired (hmakes.retired hs he hx)

/-- Runs of such events leave it retired. -/
theorem run_retired (hs : c.inventory.Sound) {events : List Event}
    (hevents : ∀ e ∈ events, e.Bypasses x) (hx : c.inventory.Retired x) :
    (c.run settings events).inventory.Retired x :=
  (run_keeps (I := fun c => c.inventory.Sound ∧ c.inventory.Retired x)
    (fun _ e he hc => ⟨after_sound hc.1 e, after_retired hc.1 he hc.2⟩) events hevents c
    ⟨hs, hx⟩).2

/-! ## Resets -/

/-- A device in use that is deactivated is retired. -/
theorem retired_of_deactivate (hs : c.inventory.Sound) {d : Device}
    (hd : c.inventory.devices.get? x = some d) (hactive : d.active = true) {s : Status}
    (h : (c.send outage x .deactivate).1 = .ok s) :
    (c.send outage x .deactivate).2.inventory.Retired x := by
  obtain ⟨d', k, left, inv, k₁, hd', hk, hafter, hprepare, hk₁, hinv⟩ := send_eq_ok h
  obtain rfl : d' = d := Option.some.inj (hd'.symm.trans hd)
  have hdeactivating := Status.eq_deactivating_of_deactivate hafter
  -- The configuration of a device in use was not deactivated before.
  have hchanges : (k.status != s) = true := by
    rw [bne_iff_ne, hdeactivating]
    intro hsame
    have huse := (hs.devices x).inUse d' k hd hk hactive
    rw [hsame] at huse
    cases huse
  unfold prepare at hprepare
  rw [hchanges] at hprepare
  obtain ⟨d₂, k₂, hd₂, hk₂, _, rfl⟩ := Inventory.deactivate_eq_ok hprepare
  obtain rfl : k₁ = _ := Option.some.inj (hk₁.symm.trans Inventory.putConfiguration_get?_self)
  rw [hinv]
  exact ⟨_, _, Inventory.putDevice_get?_self, Inventory.putConfiguration_get?_self, rfl,
    by rw [hdeactivating]; rfl, rfl⟩

/-- A retired device that is activated starts afresh. -/
theorem startsAfresh_of_activate (hx : c.inventory.Retired x) {s : Status}
    (h : (c.send outage x .activate).1 = .ok s) :
    (c.send outage x .activate).2.inventory.StartsAfresh x := by
  obtain ⟨_, k, _, hk, _, _, hlist⟩ := hx
  obtain ⟨d', k', left, inv, k₁, hd', hk', _, hprepare, hk₁, hinv⟩ := send_eq_ok h
  unfold prepare at hprepare
  obtain ⟨inv', hreactivate, hpair⟩ := map_eq_ok.mp hprepare
  obtain ⟨rfl, rfl⟩ := Prod.mk.inj hpair
  obtain ⟨d₂, k₂, hd₂, hk₂, rfl⟩ := Inventory.reactivate_eq_ok hreactivate
  obtain rfl : k₂ = k := Option.some.inj (hk₂.symm.trans hk)
  obtain rfl : k₁ = _ := Option.some.inj (hk₁.symm.trans Inventory.putConfiguration_get?_self)
  rw [hinv]
  refine ⟨_, _, Inventory.putDevice_get?_self, Inventory.putConfiguration_get?_self, ?_⟩
  rw [Inventory.startingTemplates_of_shares
    (show Inventory.SharesWith c.inventory _ from ⟨rfl, rfl, rfl, rfl⟩)]
  exact Inventory.startingTemplates_congr rfl hlist

/-- A device that moves to another backend starts afresh there. -/
theorem startsAfresh_of_changeBackend (hs : c.inventory.Sound) (hfit : c.inventory.ListsFit)
    {k : Configuration} {backend : Backend} (hk : c.inventory.configurations.get? x = some k)
    (hne : k.backend ≠ backend) (h : (c.changeBackend outage x backend).1 = .ok ()) :
    (c.changeBackend outage x backend).2.inventory.StartsAfresh x := by
  have htakes := c.changeBackend_takes outage x backend
  rcases hset : c.inventory.setBackend x backend with e | ⟨change, inv⟩
  · unfold changeBackend at h
    rw [hset] at h
    cases h
  rw [hset] at htakes
  have hholds : (c.changeBackend outage x backend).2.Holds inv := htakes
  obtain ⟨ids, hmarks⟩ := hholds
  refine hmarks.startsAfresh ?_
  obtain ⟨d, k', hd, hk', ⟨_, rfl⟩ | ⟨_, _, hr⟩⟩ := Inventory.setBackend_eq_ok hset
  · -- The configuration would have been there already.
    obtain ⟨k₁, hk₁, hbackend⟩ := Inventory.backend_of_setBackend hset
    obtain rfl := Option.some.inj (hk₁.symm.trans hk)
    exact absurd hbackend hne
  · obtain rfl := Option.some.inj (hk'.symm.trans hk)
    refine ⟨d, _, hr.devices ▸ hd, hr.get?_self, ?_⟩
    dsimp only
    rw [Inventory.startingTemplates_of_shares hr.shares]
    exact Inventory.movedTemplates_eq_startingTemplates hs.templates (hfit x k' hk).1 hne

/-- A device that moved to another backend, and a device that was deactivated and later
activated again while only confirmations of its deactivation named it, has the list that a new
device would get. -/
theorem Reachable.listsAsNew_of_reset (h : Reachable settings c) (x : DeviceId) :
    (∀ outage backend reply k, c.inventory.configurations.get? x = some k → k.backend ≠ backend →
        (c.perform settings outage (.changeBackend x backend)).1 = .ok reply →
        (c.perform settings outage (.changeBackend x backend)).2.ListsAsNew settings x) ∧
      ∀ outage outage' events reply reply' d c₁ c₂,
        c.inventory.devices.get? x = some d → d.active = true →
        c.perform settings outage (.send x .deactivate) = (.ok reply, c₁) →
        (∀ e ∈ events, e.Bypasses x) →
        (c₁.run settings events).perform settings outage' (.send x .activate) = (.ok reply', c₂) →
        c₂.ListsAsNew settings x := by
  have hs := h.sound
  constructor
  · intro outage backend reply k hk hne hok
    obtain ⟨⟨⟩, hok, _⟩ := map_eq_ok.mp hok
    exact listsAsNew_of_startsAfresh
      (startsAfresh_of_changeBackend hs h.orderly.lists hk hne hok)
  · intro outage outage' events reply reply' d c₁ c₂ hd hactive hdeactivate hevents hactivate
    have hc₁ : c₁ = (c.perform settings outage (.send x .deactivate)).2 := by rw [hdeactivate]
    have hc₂ : c₂ = ((c₁.run settings events).perform settings outage' (.send x .activate)).2 := by
      rw [hactivate]
    obtain ⟨s, hok, _⟩ := map_eq_ok.mp (congrArg Prod.fst hdeactivate)
    obtain ⟨s', hok', _⟩ := map_eq_ok.mp (congrArg Prod.fst hactivate)
    have hsound₁ : c₁.inventory.Sound :=
      hc₁ ▸ after_sound hs (.request outage (.send x .deactivate))
    have hretired₁ : c₁.inventory.Retired x := hc₁ ▸ retired_of_deactivate hs hd hactive hok
    have hretired : (c₁.run settings events).inventory.Retired x :=
      run_retired hsound₁ hevents hretired₁
    rw [hc₂]
    exact listsAsNew_of_startsAfresh (startsAfresh_of_activate hretired hok')

/-- A template for the other backend, which may be a default. -/
def otherTemplate (name : String) (default : Bool) : Template :=
  { Sample.template with id := ⟨name⟩, name, backend := ⟨"Y"⟩, default }

/-- A device with a template of its own, in a group with a template for another backend, where there
is a default. -/
def resetSample : List Request :=
  [.addTemplate Sample.template, .addTemplate (otherTemplate "group" false),
    .addTemplate (otherTemplate "default" true),
    .setGroup ⟨⟨"g"⟩, "group", Sample.device.organization, .empty, [⟨"group"⟩]⟩,
    .addDevice { Sample.device with group := some ⟨"g"⟩ }
      (Sample.configuration [Sample.template.id])]

/-- The device moves to the other backend. -/
def resetMove : Request :=
  .changeBackend Sample.device.id ⟨"Y"⟩

/-- Its template becomes a default of its backend, and its deactivation is confirmed. -/
def resetPause : List Event :=
  Sample.events [.updateTemplate { Sample.template with default := true },
    .send Sample.device.id .confirmDeactivation]

/-- The template list of the device. -/
def resetList (c : Controller) : Option (List TemplateId) :=
  (c.inventory.configurations.get? Sample.device.id).map Configuration.templates

/-- Either way its list is that of a new device: at the other backend the default and the template
of the group, and at its own backend the template that is a default now. -/
theorem listsAsNew_of_reset_sample :
    let c := Sample.controller resetSample
    let moved := (c.perform Sample.settings .none resetMove).2
    let paused := (c.perform Sample.settings .none (.send Sample.device.id .deactivate)).2.run
      Sample.settings resetPause
    let used := (paused.perform Sample.settings .none (.send Sample.device.id .activate)).2
    (moved.ListsAsNew Sample.settings Sample.device.id ∧
        resetList moved = some [⟨"default"⟩, ⟨"group"⟩]) ∧
      (used.ListsAsNew Sample.settings Sample.device.id ∧
        resetList paused = some [] ∧ resetList used = some [Sample.template.id]) := by
  have hok : ∀ {o : Outcome Reply}, o.1.isOk = true → ∃ reply, o = (.ok reply, o.2) := by
    rintro ⟨_ | reply, c⟩ h
    · cases h
    · exact ⟨reply, rfl⟩
  obtain ⟨hmoves, huses⟩ :=
    (Sample.reachable resetSample).listsAsNew_of_reset Sample.device.id
  obtain ⟨moved, hmoved⟩ : ∃ reply, (Sample.controller resetSample).perform Sample.settings .none
      resetMove = (.ok reply, _) := hok (by decide +kernel)
  obtain ⟨paused, hpaused⟩ : ∃ reply, (Sample.controller resetSample).perform Sample.settings .none
      (.send Sample.device.id .deactivate) = (.ok reply, _) := hok (by decide +kernel)
  obtain ⟨used, hused⟩ : ∃ reply, (((Sample.controller resetSample).perform Sample.settings .none
      (.send Sample.device.id .deactivate)).2.run Sample.settings resetPause).perform
        Sample.settings .none (.send Sample.device.id .activate) = (.ok reply, _) :=
    hok (by decide +kernel)
  have hevents : ∀ e ∈ resetPause, e.Bypasses Sample.device.id := by
    intro e he
    rcases List.mem_cons.mp he with rfl | he
    · exact nofun
    · rw [List.mem_singleton.mp he]
      exact fun _ => rfl
  refine ⟨⟨?_, by decide +kernel⟩, ?_, by decide +kernel, by decide +kernel⟩
  · exact hmoves .none ⟨"Y"⟩ moved (Sample.configuration [Sample.template.id]) (by decide +kernel)
      (by decide) (congrArg Prod.fst hmoved)
  · exact huses .none .none resetPause paused used { Sample.device with group := some ⟨"g"⟩ } _ _
      (by decide +kernel) rfl hpaused hevents hused

end Controller

end Fleet
