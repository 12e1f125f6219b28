/-
# Organizations see the templates they use

Whatever puts a template on the list of a device, the template is visible to the organization of the
device then.  Two requests can hide a template that is on a list: one that moves a device which is
not in use to another organization, and one that hands the template over to another owner.

Main statement: `Controller.listed_visible_or_leftover`.
-/
import Fleet.Proofs.Sound

namespace Fleet

/-! ## Visible templates -/

namespace Inventory

variable {inv inv' : Inventory} {x : DeviceId} {t : TemplateId} {d : Device} {k : Configuration}

/-- If a template is on the list of a device, it is visible to the organization of the device. -/
def VisibleAt (inv : Inventory) (x : DeviceId) (t : TemplateId) : Prop :=
  ∀ d k, inv.devices.get? x = some d → inv.configurations.get? x = some k → t ∈ k.templates →
    inv.templates.Shows d.organization t

namespace VisibleAt

/-- A device and its configuration decide. -/
theorem intro (hd : inv.devices.get? x = some d) (hk : inv.configurations.get? x = some k)
    (h : t ∈ k.templates → inv.templates.Shows d.organization t) : inv.VisibleAt x t := by
  intro d' k' hd' hk' ht
  rw [hd, Option.some.injEq] at hd'
  rw [hk, Option.some.injEq] at hk'
  subst hd' hk'
  exact h ht

/-- A device that does not exist uses nothing. -/
theorem of_none (hd : inv.devices.get? x = none) : inv.VisibleAt x t := by
  intro d k hd'
  rw [hd] at hd'
  cases hd'

/-- Storing a template hides at most that template, and attaching it attaches visible ones. -/
theorem requires {T : Template} {n : Nat} {ids : List DeviceId} (hs : inv.Sound)
    (h : inv.VisibleAt x t) (hr : Requires (inv.putTemplate T n) T ids inv')
    (hstored : T.id = t → ∀ d k, inv.devices.get? x = some d →
      inv.configurations.get? x = some k → t ∈ k.templates →
      T.isVisibleTo d.organization = true) : inv'.VisibleAt x t := by
  have hkeep : ∀ d k, inv.devices.get? x = some d → inv.configurations.get? x = some k →
      t ∈ k.templates → (inv.putTemplate T n).templates.Shows d.organization t := by
    intro d k hd hk ht
    by_cases hT : T.id = t
    · exact ⟨T, hT ▸ SortedMap.get?_insert_self _ _ _, hstored hT d k hd hk ht⟩
    · obtain ⟨U, hU, hv⟩ := h d k hd hk ht
      exact ⟨U, (SortedMap.get?_insert_ne hT _ _).trans hU, hv⟩
  intro d k' hd hk' ht
  rw [hr.eq] at hd
  rw [hr.shares.templates]
  by_cases hx : x ∈ ids
  · obtain ⟨d', k, hd', hk, _, _, _, hget⟩ := hr.attached x hx
    rw [hk', Option.some.injEq] at hget
    have : d' = d := Option.some.inj (hd'.symm.trans hd)
    subst this hget
    rcases Catalog.shows_withRequired (hs.templates.insert rfl) ht with hold | hshows
    · exact hkeep d' k hd hk hold
    · exact hshows
  · rw [hr.kept x hx] at hk'
    exact hkeep d k' hd hk' ht

end VisibleAt

/-- A template is on the list of a device whose organization does not see it. -/
def HiddenAt (inv : Inventory) (x : DeviceId) (t : TemplateId) : Prop :=
  ∃ d k, inv.devices.get? x = some d ∧ inv.configurations.get? x = some k ∧ t ∈ k.templates ∧
    ¬ inv.templates.Shows d.organization t

/-- A template is hidden exactly when it is not visible. -/
theorem hiddenAt_iff : inv.HiddenAt x t ↔ ¬ inv.VisibleAt x t := by
  constructor
  · rintro ⟨d, k, hd, hk, ht, hhidden⟩ hvisible
    exact hhidden (hvisible d k hd hk ht)
  · intro hnot
    apply Classical.byContradiction
    intro hnone
    refine hnot fun d k hd hk ht => Classical.byContradiction fun hhidden => ?_
    exact hnone ⟨d, k, hd, hk, ht, hhidden⟩

/-- Making configurations modified keeps templates visible. -/
theorem Marks.visibleAt {ids : List DeviceId} (h : Marks inv ids inv') (hv : inv.VisibleAt x t) :
    inv'.VisibleAt x t := by
  intro d k' hd hk' ht
  rw [h.devices] at hd
  rw [h.shares.templates]
  obtain ⟨k, hk, rfl | ⟨_, _, rfl⟩⟩ := h.before hk'
  · exact hv d k' hd hk ht
  · exact hv d k hd hk ht

end Inventory

/-! ## Hiding a template -/

namespace Controller

/-- Whether a request hides a template from the organization of a device that has it on its list. -/
inductive Hides (c : Controller) (x : DeviceId) (t : TemplateId) : Request → Prop where
  /-- The device is not in use and moves to an organization that does not see the template. -/
  | move {d p : Device} {k : Configuration} (hid : d.id = x)
      (hp : c.inventory.devices.get? x = some p) (hk : c.inventory.configurations.get? x = some k)
      (ht : t ∈ k.templates) (hinactive : p.active = false)
      (hhidden : ¬ c.inventory.templates.Shows d.organization t) : Hides c x t (.updateDevice d)
  /-- The template goes to an owner other than the organization. -/
  | handOver {u : Template} {d : Device} {k : Configuration} (hid : u.id = t)
      (hd : c.inventory.devices.get? x = some d) (hk : c.inventory.configurations.get? x = some k)
      (ht : t ∈ k.templates) (hhidden : u.isVisibleTo d.organization = false) :
      Hides c x t (.updateTemplate u)

variable {settings : Settings} {outage : Outage} {c : Controller} {r : Request} {change : Change}
  {x : DeviceId} {t : TemplateId}

/-- A template that is added hides none, since it is on no list. -/
theorem visibleAt_added {u : Template} {n : Nat} {ids : List DeviceId} {inv : Inventory}
    (hs : c.inventory.Sound) (hv : c.inventory.VisibleAt x t)
    (hnew : c.inventory.templates.get? u.id = none)
    (hr : Inventory.Requires (c.inventory.putTemplate u n) u ids inv) : inv.VisibleAt x t := by
  refine hv.requires hs hr ?_
  rintro rfl d k _ hk ht
  obtain ⟨T, hT⟩ := (hs.devices x).listed k hk _ ht
  rw [hnew] at hT
  cases hT

/-- A template that is replaced hides nothing else. -/
theorem visibleAt_replaced {u v : Template} {m n : Nat} {ids : List DeviceId} {inv : Inventory}
    (hs : c.inventory.Sound) (hv : c.inventory.VisibleAt x t)
    (hhides : ¬ c.Hides x t (.updateTemplate u)) (hu : u.normalize = .ok v)
    (hr : Inventory.Requires (c.inventory.putTemplate { v with created := m } n)
      { v with created := m } ids inv) : inv.VisibleAt x t := by
  obtain ⟨hid, howner⟩ := Inventory.normalize_eq_ok hu
  refine hv.requires hs hr ?_
  intro hv d k hd hk ht
  have hsame : ({ v with created := m } : Template).isVisibleTo d.organization =
      u.isVisibleTo d.organization := by
    unfold Template.isVisibleTo
    rw [← howner]
  rw [hsame]
  apply Decidable.byContradiction
  intro hhidden
  exact hhides (Hides.handOver (hid.symm.trans hv) hd hk ht (Bool.not_eq_true _ ▸ hhidden))

/-- What a request that does not hide a template puts on a list is visible. -/
theorem Rewrites.shows {inv : Inventory} {p d : Device} {k k' : Configuration}
    (h : Rewrites inv x r p k d k') (hc : inv.templates.Keyed)
    (hp : c.inventory.devices.get? x = some p) (hk : c.inventory.configurations.get? x = some k)
    (huse : p.active = true → k.status.isDeactivation = false)
    (htemplates : inv.templates = c.inventory.templates) (hhides : ¬ c.Hides x t r)
    (hshows : t ∈ k.templates → inv.templates.Shows p.organization t) :
    t ∈ k'.templates → inv.templates.Shows d.organization t := by
  intro ht
  cases h with
  | same | signalled => exact hshows ht
  | @replaced d _ _ hid hstays =>
      by_cases hactive : p.active = true
      · -- The list of a device in use stays only where the organization stays.
        have hsame : p.organization = d.organization := by
          apply Decidable.byContradiction
          intro hne
          exact hstays ⟨Or.inr hne, hactive, huse hactive⟩
        have hold := hshows ht
        rw [hsame] at hold
        exact hold
      · apply Classical.byContradiction
        intro hhidden
        rw [htemplates] at hhidden
        exact hhides (Hides.move hid hp hk ht (Bool.not_eq_true _ ▸ hactive) hhidden)
  | followed | regrouped => exact Catalog.shows_rescope hc ht
  | completed =>
      rcases Catalog.shows_withRequired hc ht with hlisted | hshown
      · exact hshows hlisted
      · exact hshown
  | relisted hts =>
      rcases hts.shows hc ht with hlisted | hshown
      · exact hshows hlisted
      · exact hshown
  | edited h =>
      cases h with
      | context => exact hshows ht
      | document => exact hshows ht
  | rebacked =>
      dsimp only at ht
      exact Inventory.shows_movedTemplates hc ht
  | deactivated => cases ht
  | activated =>
      dsimp only at ht
      rcases Inventory.shows_startingTemplates hc ht with hlisted | hshown
      · exact hshows hlisted
      · exact hshown

/-- A request that does not hide a template keeps it visible. -/
theorem Makes.visibleAt (hs : c.inventory.Sound) (hv : c.inventory.VisibleAt x t)
    (hhides : ¬ c.Hides x t r) (h : Makes settings outage c r change) :
    change.edited.VisibleAt x t := by
  rcases h.catalog hs.devicesKeyed with
    htemplates | ⟨_, u, _, rfl, hnew, hr⟩ | ⟨_, u, _, rfl, hu, _, hr⟩
  · have hkeyed : change.edited.templates.Keyed := htemplates ▸ hs.templates
    cases h.turns hs.devicesKeyed (fun x => (hs.devices x).paired) x with
    | absent hd => exact Inventory.VisibleAt.of_none hd
    | added _ _ _ husable hd hk =>
        refine Inventory.VisibleAt.intro hd hk fun ht => ?_
        rcases Inventory.shows_startingTemplates hkeyed ht with hasked | hshows
        · obtain ⟨T, hT, _, hvisible⟩ := husable t hasked
          exact ⟨T, hT, hvisible⟩
        · exact hshows
    | rewritten hp hk hd hk' hrewrites =>
        have hshows := hv _ _ hp hk
        rw [← htemplates] at hshows
        exact Inventory.VisibleAt.intro hd hk' (hrewrites.shows hkeyed hp hk
          ((hs.devices x).inUse _ _ hp hk) htemplates hhides hshows)
  · exact visibleAt_added hs hv hnew hr
  · exact visibleAt_replaced hs hv hhides hu hr

/-- Whether an event hides a template from the organization of a device. -/
def HidesAt (c : Controller) (x : DeviceId) (t : TemplateId) : Event → Prop
  | .request _ r => c.Hides x t r
  | .pass _ => False

/-- An event that does not hide a template keeps it visible. -/
theorem after_visibleAt (hs : c.inventory.Sound) (hv : c.inventory.VisibleAt x t) {e : Event}
    (hhides : ¬ c.HidesAt x t e) : (c.after settings e).inventory.VisibleAt x t := by
  cases e with
  | request outage r =>
      obtain ⟨change, hmakes, hfollows⟩ := answers_of_sound hs settings outage r
      exact hfollows.marks.visibleAt (hmakes.visibleAt hs hv hhides)
  | pass seconds => exact hv

/-! ## Leftovers -/

/-- A template that was visible was hidden by an event of a run, and it has been on the list and
hidden ever since. -/
def Leftover (settings : Settings) (c : Controller) (events : List Event) (x : DeviceId)
    (t : TemplateId) : Prop :=
  EverSince settings (fun c e => c.inventory.VisibleAt x t ∧ c.HidesAt x t e)
    (fun c => c.inventory.HiddenAt x t) c events

/-- Throughout a run a hidden template is a leftover. -/
theorem leftover_of_hiddenAt {events : List Event} (hs : c.inventory.Sound)
    (hv : c.inventory.VisibleAt x t) (h : (c.run settings events).inventory.HiddenAt x t) :
    Leftover settings c events x t := by
  refine everSince_of_holds (I := fun c => c.inventory.Sound) (fun _ e hs => after_sound hs e) ?_ hs
    (fun hhidden => Inventory.hiddenAt_iff.mp hhidden hv) h
  intro c e hs hafter
  by_cases hvisible : c.inventory.VisibleAt x t
  · right
    refine ⟨hvisible, Classical.byContradiction fun hhides => ?_⟩
    exact Inventory.hiddenAt_iff.mp hafter (after_visibleAt hs hvisible hhides)
  · exact Or.inl (Inventory.hiddenAt_iff.mpr hvisible)

/-- After every run from an empty inventory, every template on a list exists, and it is visible to
the organization of the device or a leftover. -/
theorem listed_visible_or_leftover (now : Nat) (events : List Event) {d : Device}
    {k : Configuration}
    (hd : ((start .empty now).run settings events).inventory.devices.get? x = some d)
    (hk : ((start .empty now).run settings events).inventory.configurations.get? x = some k)
    (ht : t ∈ k.templates) :
    ∃ T, ((start .empty now).run settings events).inventory.templates.get? t = some T ∧
      (T.isVisibleTo d.organization = true ∨ Leftover settings (start .empty now) events x t) := by
  obtain ⟨T, hT⟩ := ((run_sound (start_sound now) events).devices x).listed k hk t ht
  refine ⟨T, hT, ?_⟩
  by_cases hvisible : T.isVisibleTo d.organization = true
  · exact Or.inl hvisible
  · right
    refine leftover_of_hiddenAt (start_sound now) (Inventory.VisibleAt.of_none rfl)
      ⟨d, k, hd, hk, ht, ?_⟩
    rintro ⟨U, hU, hshows⟩
    rw [hT, Option.some.injEq] at hU
    exact hvisible (hU ▸ hshows)

/-- A template is added and then a device that asks for it. -/
def listedSample : List Request :=
  [.addTemplate Sample.template,
    .addDevice Sample.device (Sample.configuration [Sample.template.id])]

/-- The template is visible then. -/
theorem listed_visible_or_leftover_sample :
    ∃ T, (Sample.controller listedSample).inventory.templates.get? Sample.template.id = some T ∧
      (T.isVisibleTo Sample.device.organization = true ∨
        Leftover Sample.settings (start .empty 0) (Sample.events listedSample) Sample.device.id
          Sample.template.id) :=
  listed_visible_or_leftover 0 (Sample.events listedSample) (d := Sample.device)
    (k := Sample.configuration [Sample.template.id]) (by decide +kernel) (by decide +kernel)
    List.mem_cons_self

/-- A device is taken out of use, gets a template of its organization, and moves to another one. -/
def movedSample : List Request :=
  [.addTemplate { Sample.template with organization := some Sample.device.organization },
    .addDevice Sample.device (Sample.configuration []),
    .send Sample.device.id .deactivate,
    .attachTemplate Sample.device.id Sample.template.id,
    .updateDevice { Sample.device with organization := ⟨"other"⟩ }]

/-- A template on a list need not be visible to the organization of the device. -/
theorem moved_device_keeps_hidden_template :
    ¬ ∀ (settings : Settings) (c : Controller), Reachable settings c →
      ∀ x d k t, c.inventory.devices.get? x = some d → c.inventory.configurations.get? x = some k →
        t ∈ k.templates →
        ∃ T, c.inventory.templates.get? t = some T ∧ T.isVisibleTo d.organization = true := by
  intro h
  obtain ⟨T, hT, hvisible⟩ := h Sample.settings _ (Sample.reachable movedSample) Sample.device.id
    { Sample.device with organization := ⟨"other"⟩, active := false }
    { Sample.configuration [Sample.template.id] with status := .deactivating }
    Sample.template.id (by decide +kernel) (by decide +kernel) List.mem_cons_self
  have hstored : (Sample.controller movedSample).inventory.templates.get? Sample.template.id =
      some { Sample.template with
        organization := some Sample.device.organization, created := 1 } := by
    decide +kernel
  rw [hstored, Option.some.injEq] at hT
  subst hT
  exact absurd hvisible (by decide +kernel)

end Controller

end Fleet
