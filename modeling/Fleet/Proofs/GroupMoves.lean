/-
# Moves between groups

When a device in use changes its group, the templates of the old group leave its list and those of
the new one follow.  A move from one group to another leaves the same list as a way through no
group, and a group of which nothing is on the list can be joined and left again.

Main statements: `Catalog.rescope_rescope`, `Catalog.mem_rescope_back`,
`Controller.Reachable.validated`, `Controller.Reachable.regroup_composes`.
-/
import Fleet.Proofs.Attempts
import Fleet.Proofs.Required
import Fleet.Proofs.Selections

namespace Fleet

open Outcomes

/-! ## Lists that move twice -/

namespace Catalog

/-- The templates of a list that stay on it in another scope. -/
def staying (c : Catalog) (k : Configuration) (organization : OrgId) (dropped : List TemplateId) :
    List Template :=
  (c.present k.templates).filter fun t => !dropped.contains t.id && t.isVisibleTo organization

/-- The templates among those that are added that can be used in a scope. -/
def joining (c : Catalog) (backend : Backend) (organization : OrgId) (added : List TemplateId) :
    List Template :=
  (c.present added).filter fun t => t.backend == backend && t.isVisibleTo organization

/-- A list that moves consists of what stays, of what joins, and of what is required. -/
theorem rescope_eq (c : Catalog) (k : Configuration) (organization : OrgId)
    (dropped added : List TemplateId) :
    c.rescope k organization dropped added = Template.sortedIds (c.staying k organization dropped ++
      c.joining k.backend organization added ++ c.requiredFor k.backend organization) :=
  rfl

variable {c : Catalog} (hc : c.Keyed) {k k' : Configuration} {organization : OrgId}
  {dropped added : List TemplateId} {t : TemplateId}

include hc

/-- What stays is chosen from the catalog. -/
theorem chosen_staying (k : Configuration) (organization : OrgId) (dropped : List TemplateId) :
    Template.Chosen c (c.staying k organization dropped) :=
  fun _ ht => get?_of_mem_present hc (List.mem_filter.mp ht).1

/-- What joins is chosen from the catalog. -/
theorem chosen_joining (backend : Backend) (organization : OrgId) (added : List TemplateId) :
    Template.Chosen c (c.joining backend organization added) :=
  fun _ ht => get?_of_mem_present hc (List.mem_filter.mp ht).1

/-- What is required is chosen from the catalog. -/
theorem chosen_requiredFor (backend : Backend) (organization : OrgId) :
    Template.Chosen c (c.requiredFor backend organization) := by
  intro t ht
  obtain ⟨⟨id, hid⟩, _⟩ := mem_requiredFor.mp ht
  rwa [hc id t hid]

/-- All of a list that lost some templates stays in its scope. -/
theorem staying_of_rescope (hlist : k'.templates = c.rescope k organization dropped []) :
    c.staying k' organization [] =
      Template.sorted
        (c.staying k organization dropped ++ c.requiredFor k.backend organization) := by
  have hchosen := (chosen_staying hc k organization dropped).append
    (chosen_requiredFor hc k.backend organization)
  have hpresent : c.present k'.templates =
      Template.sorted
        (c.staying k organization dropped ++ c.requiredFor k.backend organization) := by
    rw [hlist, rescope_eq, show c.joining k.backend organization [] = [] from rfl, List.append_nil]
    exact present_sortedIds hchosen
  unfold staying at hpresent ⊢
  rw [hpresent]
  refine List.filter_eq_self.mpr fun t ht => ?_
  have hvisible : t.isVisibleTo organization = true := by
    rcases List.mem_append.mp (Template.mem_of_mem_sorted ht) with hold | hrequired
    · exact (Bool.and_eq_true_iff.mp (List.mem_filter.mp hold).2).2
    · exact (Template.isRequiredFor_iff.mp (mem_requiredFor.mp hrequired).2).2.2
  rw [hvisible]
  rfl

/-- A list that loses templates first and then gets others is the one that does both at once. -/
theorem rescope_rescope (hbackend : k'.backend = k.backend)
    (hlist : k'.templates = c.rescope k organization dropped []) :
    c.rescope k' organization [] added = c.rescope k organization dropped added := by
  rw [rescope_eq, rescope_eq, staying_of_rescope hc hlist, hbackend]
  have hstaying := chosen_staying hc k organization dropped
  have hjoining := chosen_joining hc k.backend organization added
  have hrequired := chosen_requiredFor hc k.backend organization
  rw [List.append_assoc,
    (hstaying.append hrequired).sortedIds_sorted_append (hjoining.append hrequired)]
  -- What is required may be selected twice, and is not explicit.
  refine Template.sortedIds_eq_of_same ((hstaying.append hjoining).append hrequired)
    ((hstaying.append hrequired).append (hjoining.append hrequired)) (fun id => ?_) ?_
  · simp only [List.map_append, List.mem_append]
    tauto
  · have hnone : (c.requiredFor k.backend organization).filter Template.isExplicit = [] := by
      refine List.filter_eq_nil_iff.mpr fun t ht => ?_
      obtain ⟨hr, _⟩ := Template.isRequiredFor_iff.mp (mem_requiredFor.mp ht).2
      simp [Template.isExplicit, hr]
    unfold Template.explicitIds
    simp only [List.filter_append, hnone, List.append_nil]

/-- A list that gets templates which are not on it and loses them again has the same templates. -/
theorem mem_rescope_back (hbackend : k'.backend = k.backend)
    (hlist : k'.templates = c.rescope k organization [] added)
    (hshows : ∀ t ∈ k.templates, c.Shows organization t)
    (hcovers : c.Covers k.backend organization k.templates) (hnew : ∀ t ∈ added, t ∉ k.templates) :
    t ∈ c.rescope k' organization added [] ↔ t ∈ k.templates := by
  rw [mem_rescope hc, hbackend, hlist]
  constructor
  · rintro ⟨T, hT, _, ⟨hmoved, hleft⟩ | ⟨hnone, _⟩ | hrequired⟩
    · obtain ⟨U, hU, _, ⟨hold, _⟩ | ⟨hadded, _⟩ | hrequired⟩ := (mem_rescope hc).mp hmoved
      · exact hold
      · exact absurd hadded hleft
      · exact hcovers t U hU hrequired
    · cases hnone
    · exact hcovers t T hT hrequired
  · intro ht
    obtain ⟨T, hT, hv⟩ := hshows t ht
    have hmoved : t ∈ c.rescope k organization [] added :=
      (mem_rescope hc).mpr ⟨T, hT, hv, Or.inl ⟨ht, List.not_mem_nil⟩⟩
    exact ⟨T, hT, hv, Or.inl ⟨hmoved, fun hadded => hnew t hadded ht⟩⟩

end Catalog

/-! ## Records that are stored -/

/-- The record of a device that a request asks to be stored. -/
def Request.record? : Request → Option Device
  | .addDevice d _ => some d
  | .updateDevice d => some d
  | _ => none

/-- Every record of a device passes the check. -/
def Inventory.DevicesValid (inv : Inventory) : Prop :=
  ∀ x d, inv.devices.get? x = some d → d.validate = .ok ()

namespace Controller

variable {settings : Settings} {outage : Outage} {c : Controller} {r : Request} {change : Change}
  {x : DeviceId} {d : Device} {k : Configuration}

/-- A record that is stored was checked. -/
theorem Makes.validated (h : Makes settings outage c r change) (hr : r.record? = some d) :
    change.edited = c.inventory ∨ d.validate = .ok () := by
  cases h with
  | idle => exact Or.inl rfl
  | addDevice h =>
      cases hr
      unfold Inventory.insertDevice at h
      exact Or.inr (seq_eq_ok.mp h).1
  | updateDevice h =>
      cases hr
      unfold Inventory.replaceDevice at h
      exact Or.inr (seq_eq_ok.mp h).1
  | relist _ _ hts => cases hts <;> cases hr
  | edit _ hedit => cases hedit <;> cases hr
  | _ => cases hr

/-- A request keeps the records of devices valid. -/
theorem Makes.devicesValid (hs : c.inventory.Sound) (hv : c.inventory.DevicesValid)
    (h : Makes settings outage c r change) : change.edited.DevicesValid := by
  intro x d hd
  cases h.turns hs.devicesKeyed (fun x => (hs.devices x).paired) x with
  | absent hnone =>
      rw [hnone] at hd
      cases hd
  | added _ hnew _ _ hd' =>
      rw [hd', Option.some.injEq] at hd
      subst hd
      rcases h.validated rfl with hsame | hvalid
      · rw [hsame, hnew] at hd'
        cases hd'
      · exact hvalid
  | rewritten hp _ hd' _ hrewrites =>
      have hold := hv x _ hp
      rw [hd', Option.some.injEq] at hd
      subst hd
      cases hrewrites with
      | replaced | followed =>
          -- Whether a device is active is not checked.
          rcases h.validated rfl with hsame | hvalid
          · rw [hsame] at hd'
            exact hv x _ hd'
          · exact hvalid
      | _ => exact hold

/-- In every reachable state the records of devices are valid. -/
theorem Reachable.validated (h : Reachable settings c) : c.inventory.DevicesValid := by
  have hboth : c.inventory.Sound ∧ c.inventory.DevicesValid := by
    refine h.keeps (I := fun c => c.inventory.Sound ∧ c.inventory.DevicesValid) ?_ ?_
    · refine fun now => ⟨start_sound now, fun x d hd => ?_⟩
      cases hd
    · rintro c e ⟨hs, hv⟩
      refine ⟨after_sound hs e, ?_⟩
      cases e with
      | request outage r =>
          obtain ⟨change, hmakes, hfollows⟩ := answers_of_sound hs settings outage r
          intro x d hd
          rw [Controller.after, hfollows.marks.devices] at hd
          exact hmakes.devicesValid hs hv x d hd
      | pass seconds => exact hv
  exact hboth.2

end Controller

/-! ## Moves -/

namespace Inventory

variable {inv inv' : Inventory} {x : DeviceId} {d : Device} {k : Configuration}
  {group : Option GroupId}

/-- Groups that are shared have the same templates. -/
theorem SharesWith.groupTemplates_eq (h : SharesWith inv inv') (group : Option GroupId) :
    inv'.groupTemplates group = inv.groupTemplates group := by
  unfold groupTemplates
  rw [h.groups]

/-- A device in use can change its group, and its list follows. -/
theorem exists_replaceDevice_eq_ok (hd : inv.devices.get? x = some d) (hid : d.id = x)
    (hk : inv.configurations.get? x = some k) (hvalid : d.validate = .ok ())
    (hactive : d.active = true) (huse : k.status.isDeactivation = false) (hne : d.group ≠ group) :
    ∃ change inv', inv.replaceDevice { d with group } = .ok (d, change, inv') ∧
      Relists (inv.putDevice x { d with group }) x
        { k with
          templates := inv.templates.rescope k d.organization (inv.groupTemplates d.group)
            (inv.groupTemplates group) } inv' := by
  subst hid
  have hk' : (inv.putDevice d.id { d with group }).configurations.get? d.id = some k := hk
  obtain ⟨change, inv', hset⟩ :=
    exists_setTemplates_eq_ok hk' (inv.templates.rescope k d.organization
      (inv.groupTemplates d.group) (inv.groupTemplates group))
  obtain ⟨k₀, hk₀, hr, _⟩ := setTemplates_eq_ok hset
  obtain rfl : k₀ = k := Option.some.inj (hk₀.symm.trans hk')
  refine ⟨change, inv', ?_, hr⟩
  have hchanged : (d.group != group) = true := bne_iff_ne.mpr hne
  unfold replaceDevice
  rw [seq_eq_ok]
  simp only [bind_eq_ok, device_eq_ok, configuration_eq_ok]
  refine ⟨hvalid, d, hd, k₀, hk, ?_⟩
  have hfollows : ((d.group != group || d.organization != d.organization) && d.active &&
      !k₀.status.isDeactivation) = true := by
    rw [hchanged, hactive, huse]
    rfl
  rw [if_pos hfollows, if_pos hchanged, if_pos hchanged, bind_eq_ok]
  exact ⟨(change, inv'), hset, rfl⟩

end Inventory

namespace Controller

variable {settings : Settings} {outage : Outage} {c : Controller} {x : DeviceId} {d : Device}
  {k : Configuration} {group : Option GroupId}

/-- The controller after the record of a device was replaced by one with another group,
or with none. -/
def regroup (settings : Settings) (outage : Outage) (c : Controller) (x : DeviceId)
    (group : Option GroupId) : Controller :=
  match c.inventory.devices.get? x with
  | some d => c.after settings (.request outage (.updateDevice { d with group }))
  | none => c

/-- A device is in a group, or in none, with a template list. -/
def ListsIn (c : Controller) (x : DeviceId) (group : Option GroupId) (ts : List TemplateId) :
    Prop :=
  ∃ d k, c.inventory.devices.get? x = some d ∧ c.inventory.configurations.get? x = some k ∧
    d.group = group ∧ k.templates = ts

/-- What a device in use becomes when it changes its group: its list follows, and what devices share
stays. -/
structure Regrouped (c c' : Controller) (x : DeviceId) (d : Device) (k : Configuration)
    (group : Option GroupId) (k' : Configuration) : Prop where
  /-- The record is in the new group. -/
  device : c'.inventory.devices.get? x = some { d with group }
  /-- There is a configuration. -/
  configuration : c'.inventory.configurations.get? x = some k'
  /-- It stays at its backend. -/
  backend : k'.backend = k.backend
  /-- The templates of the old group left, and those of the new one joined. -/
  templates : k'.templates = c.inventory.templates.rescope k d.organization
    (c.inventory.groupTemplates d.group) (c.inventory.groupTemplates group)
  /-- The templates and groups are the same. -/
  shares : Inventory.SharesWith c.inventory c'.inventory

/-- A reachable controller stays reachable. -/
theorem Reachable.regroup (h : Reachable settings c) (outage : Outage) (x : DeviceId)
    (group : Option GroupId) : Reachable settings (c.regroup settings outage x group) := by
  unfold Controller.regroup
  split
  · rename_i d _
    exact h.run [.request outage (.updateDevice { d with group })]
  · exact h

/-- A device in use changes its group, whatever the store does. -/
theorem Reachable.exists_regrouped (h : Reachable settings c)
    (hd : c.inventory.devices.get? x = some d) (hk : c.inventory.configurations.get? x = some k)
    (hactive : d.active = true) (hne : d.group ≠ group) (outage : Outage) :
    ∃ k', Regrouped c (c.regroup settings outage x group) x d k group k' := by
  have hat := h.sound.devices x
  obtain ⟨change, inv, hreplace, hr⟩ := Inventory.exists_replaceDevice_eq_ok hd (hat.keyed d hd) hk
    (h.validated x d hd) hactive (hat.inUse d k hd hk hactive) hne
  have htakes := updateDevice_takes outage c { d with group }
  rw [hreplace] at htakes
  obtain ⟨ids, hmarks⟩ := htakes
  obtain ⟨s, hk'⟩ := hmarks.after hr.get?_self
  have heq : (c.regroup settings outage x group).inventory =
      (c.updateDevice outage { d with group }).2.inventory := by
    unfold Controller.regroup
    rw [hd]
    rfl
  have hdevice : (c.updateDevice outage { d with group }).2.inventory.devices.get? x =
      some { d with group } := by
    rw [hmarks.devices, hr.devices]
    exact Inventory.putDevice_get?_self
  have hedit := hr.shares
  have hmark := hmarks.shares
  rw [← heq] at hk' hdevice hmark
  refine ⟨_, hdevice, hk', rfl, rfl, ?_⟩
  exact ⟨hmark.templates.trans hedit.templates, hmark.servers.trans hedit.servers,
    hmark.organizations.trans hedit.organizations, hmark.groups.trans hedit.groups⟩

/-- For a device in use, to move from one group to another is to leave the one and then join the
other, as to its list.  And if it is in no group, nothing of a group is on its list and its
organization sees all of the list, then joining that group and leaving it again brings back the
templates of the list. -/
theorem Reachable.regroup_composes (h : Reachable settings c)
    (hd : c.inventory.devices.get? x = some d) (hk : c.inventory.configurations.get? x = some k)
    (hactive : d.active = true) (outage outage₁ outage₂ : Outage) :
    (∀ g₁ g₂, d.group = some g₁ → g₁ ≠ g₂ →
      ∃ ts, (c.regroup settings outage x (some g₂)).ListsIn x (some g₂) ts ∧
        ((c.regroup settings outage₁ x none).regroup settings outage₂ x (some g₂)).ListsIn x
          (some g₂) ts) ∧
      ∀ g, d.group = none →
        (∀ t ∈ k.templates, c.inventory.templates.Shows d.organization t) →
        (∀ t ∈ c.inventory.groupTemplates (some g), t ∉ k.templates) →
        ∃ ts, ((c.regroup settings outage₁ x (some g)).regroup settings outage₂ x none).ListsIn x
            none ts ∧
          ∀ t, t ∈ ts ↔ t ∈ k.templates := by
  have hkeyed := h.sound.templates
  refine ⟨fun g₁ g₂ hgroup hne => ?_, fun g hgroup hshows hnew => ?_⟩
  · have hleaves : d.group ≠ none := by simp [hgroup]
    have hmoves : d.group ≠ some g₂ := by simpa [hgroup] using hne
    have hreturns : ({ d with group := none } : Device).group ≠ some g₂ := by simp
    obtain ⟨k₀, hdirect⟩ := h.exists_regrouped hd hk hactive hmoves outage
    obtain ⟨k₁, hleft⟩ := h.exists_regrouped hd hk hactive hleaves outage₁
    obtain ⟨k₂, hjoined⟩ := (h.regroup outage₁ x none).exists_regrouped hleft.device
      hleft.configuration hactive hreturns outage₂
    refine ⟨k₀.templates, ⟨_, _, hdirect.device, hdirect.configuration, rfl, rfl⟩,
      ⟨_, _, hjoined.device, hjoined.configuration, rfl, ?_⟩⟩
    rw [hjoined.templates, hleft.shares.templates, hleft.shares.groupTemplates_eq,
      hleft.shares.groupTemplates_eq, hdirect.templates]
    exact Catalog.rescope_rescope hkeyed hleft.backend hleft.templates
  · have hjoins : d.group ≠ some g := by simp [hgroup]
    have hleaves : ({ d with group := some g } : Device).group ≠ none := by simp
    obtain ⟨k₁, hjoined⟩ := h.exists_regrouped hd hk hactive hjoins outage₁
    obtain ⟨k₂, hleft⟩ := (h.regroup outage₁ x (some g)).exists_regrouped hjoined.device
      hjoined.configuration hactive hleaves outage₂
    refine ⟨k₂.templates, ⟨_, _, hleft.device, hleft.configuration, rfl, rfl⟩, fun t => ?_⟩
    have hlist := hjoined.templates
    rw [hgroup] at hlist
    rw [hleft.templates, hjoined.shares.templates, hjoined.shares.groupTemplates_eq,
      hjoined.shares.groupTemplates_eq]
    exact Catalog.mem_rescope_back hkeyed hjoined.backend hlist hshows
      (h.completeAt x d k hd hk hactive) hnew

/-- Two groups share a template, another one is required, and a device that may be in one of the
groups asks for a template of its own. -/
def movesSample (group : Option GroupId) : List Request :=
  let named id : Template := { Sample.template with id := ⟨id⟩, name := id }
  let holding id templates : DeviceGroup :=
    ⟨⟨id⟩, id, Sample.device.organization, .empty, templates⟩
  [.addTemplate { named "r" with required := true }, .addTemplate (named "a"),
    .addTemplate (named "s"), .addTemplate (named "b"), .addTemplate (named "u"),
    .setGroup (holding "g" [⟨"a"⟩, ⟨"s"⟩]), .setGroup (holding "h" [⟨"s"⟩, ⟨"b"⟩, ⟨"u"⟩]),
    .addDevice { Sample.device with group } (Sample.configuration [⟨"u"⟩])]

/-- A member of the first group moves to the second, while the store fails on one of the ways, and a
device in no group joins the first and leaves it. -/
theorem regroup_composes_sample :
    (∃ ts, ((Sample.controller (movesSample (some ⟨"g"⟩))).regroup Sample.settings .none
          Sample.device.id (some ⟨"h"⟩)).ListsIn Sample.device.id (some ⟨"h"⟩) ts ∧
        (((Sample.controller (movesSample (some ⟨"g"⟩))).regroup Sample.settings Sample.deletesFail
          Sample.device.id none).regroup Sample.settings .none Sample.device.id
            (some ⟨"h"⟩)).ListsIn Sample.device.id (some ⟨"h"⟩) ts) ∧
      ∃ ts, (((Sample.controller (movesSample none)).regroup Sample.settings .none
          Sample.device.id (some ⟨"g"⟩)).regroup Sample.settings .none
            Sample.device.id none).ListsIn Sample.device.id none ts ∧
        ∀ t, t ∈ ts ↔ t ∈ [⟨"r"⟩, ⟨"u"⟩] := by
  constructor
  · exact ((Sample.reachable (movesSample (some ⟨"g"⟩))).regroup_composes
      (d := { Sample.device with group := some ⟨"g"⟩ })
      (k := Sample.configuration [⟨"r"⟩, ⟨"u"⟩, ⟨"a"⟩, ⟨"s"⟩])
      (by decide +kernel) (by decide +kernel) rfl .none Sample.deletesFail .none).1
        ⟨"g"⟩ ⟨"h"⟩ rfl (by decide)
  · have hvisible : ∀ t ∈ ([⟨"r"⟩, ⟨"u"⟩] : List TemplateId),
        ((Sample.controller (movesSample none)).inventory.templates.get? t).any
          (·.isVisibleTo Sample.device.organization) = true := by
      decide +kernel
    exact ((Sample.reachable (movesSample none)).regroup_composes (d := Sample.device)
      (k := Sample.configuration [⟨"r"⟩, ⟨"u"⟩]) (by decide +kernel) (by decide +kernel) rfl
      .none .none .none).2 ⟨"g"⟩ rfl (fun t ht => (Option.any_eq_true ..).mp (hvisible t ht))
      (by decide +kernel)

end Controller

end Fleet
