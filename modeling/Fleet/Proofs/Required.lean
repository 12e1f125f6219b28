/-
# Required templates are on every list

A device in use has every template on its list that is required in its scope: for the backend of its
configuration and visible to its organization.  While a device is out of use nothing is promised;
its list is completed when it is used again.

Main statement: `Controller.Reachable.required_mem`.
-/
import Fleet.Proofs.Sound

namespace Fleet

/-! ## Complete lists -/

namespace Inventory

variable {inv inv' : Inventory} {x : DeviceId} {d : Device} {k : Configuration}

/-- The list of a device in use holds what is required in its scope. -/
def CompleteAt (inv : Inventory) (x : DeviceId) : Prop :=
  ∀ d k, inv.devices.get? x = some d → inv.configurations.get? x = some k → d.active = true →
    inv.templates.Covers k.backend d.organization k.templates

namespace CompleteAt

/-- A device and its configuration decide. -/
theorem intro (hd : inv.devices.get? x = some d) (hk : inv.configurations.get? x = some k)
    (h : d.active = true → inv.templates.Covers k.backend d.organization k.templates) :
    inv.CompleteAt x := by
  intro d' k' hd' hk' ha
  rw [hd, Option.some.injEq] at hd'
  rw [hk, Option.some.injEq] at hk'
  subst hd' hk'
  exact h ha

/-- Nothing is promised to a device that does not exist. -/
theorem of_none (hd : inv.devices.get? x = none) : inv.CompleteAt x := by
  intro d k hd'
  rw [hd] at hd'
  cases hd'

/-- A required template is attached to the lists that lack it. -/
theorem requires {T : Template} {n : Nat} {ids : List DeviceId} (hs : inv.Sound)
    (h : inv.CompleteAt x) (hr : Requires (inv.putTemplate T n) T ids inv') :
    inv'.CompleteAt x := by
  intro d k hd hk ha
  have htemplates := hr.shares.templates
  rw [hr.eq] at hd
  rw [htemplates]
  by_cases hx : x ∈ ids
  · obtain ⟨d', k', hd', _, _, _, _, hget⟩ := hr.attached x hx
    rw [hk, Option.some.injEq] at hget
    have : d' = d := Option.some.inj (hd'.symm.trans hd)
    subst this hget
    dsimp only
    exact Catalog.covers_withRequired (hs.templates.insert rfl)
  · rw [hr.kept x hx] at hk
    intro t U hU hrequired
    by_cases ht : T.id = t
    · -- The stored template is on the list already.
      have hUT : U = T := by
        rw [← ht] at hU
        exact Option.some.inj (hU.symm.trans (SortedMap.get?_insert_self _ _ _))
      subst hUT
      rw [← ht]
      exact hr.present x hx d k hd hk ((hs.devices x).inUse d k hd hk ha) hrequired
    · have hold : inv.templates.get? t = some U :=
        (SortedMap.get?_insert_ne ht _ _).symm.trans hU
      exact h d k hd hk ha t U hold hrequired

end CompleteAt

/-- Making configurations modified keeps lists complete. -/
theorem Marks.completeAt {ids : List DeviceId} (h : Marks inv ids inv') (hc : inv.CompleteAt x) :
    inv'.CompleteAt x := by
  intro d k' hd hk' ha
  rw [h.devices] at hd
  rw [h.shares.templates]
  obtain ⟨k, hk, rfl | ⟨_, _, rfl⟩⟩ := h.before hk'
  · exact hc d k' hd hk ha
  · exact hc d k hd hk ha

end Inventory

/-! ## What requests keep -/

namespace Controller

variable {settings : Settings} {outage : Outage} {c : Controller} {r : Request} {change : Change}
  {x : DeviceId}

/-- A list that is complete stays complete, or the device gets another one that is. -/
theorem Rewrites.covers {inv : Inventory} {p d : Device} {k k' : Configuration}
    (h : Rewrites inv x r p k d k') (hc : inv.templates.Keyed)
    (huse : p.active = true → k.status.isDeactivation = false)
    (hcovers : p.active = true → inv.templates.Covers k.backend p.organization k.templates) :
    d.active = true → inv.templates.Covers k'.backend d.organization k'.templates := by
  intro ha
  cases h with
  | same | signalled => exact hcovers ha
  | @replaced d _ _ _ hstays =>
      -- The list of a device in use stays only where the organization stays.
      have hsame : p.organization = d.organization := by
        apply Decidable.byContradiction
        intro hne
        exact hstays ⟨Or.inr hne, ha, huse ha⟩
      have hold := hcovers ha
      rw [hsame] at hold
      exact hold
  | followed | regrouped =>
      dsimp only
      exact Catalog.covers_rescope hc
  | completed =>
      dsimp only
      exact Catalog.covers_withRequired hc
  | relisted hts => exact hts.covers hc (hcovers ha)
  | edited h =>
      cases h with
      | context => exact hcovers ha
      | document => exact hcovers ha
  | rebacked =>
      dsimp only
      exact Inventory.covers_movedTemplates hc _ _ _ _
  | deactivated => cases ha
  | activated =>
      dsimp only
      exact Inventory.covers_startingTemplates hc

/-- A request keeps lists complete. -/
theorem Makes.completeAt (hs : c.inventory.Sound) (hc : c.inventory.CompleteAt x)
    (h : Makes settings outage c r change) : change.edited.CompleteAt x := by
  -- Where the catalog stays each device is looked at by itself; a template that is stored is
  -- attached to all of them at once.
  rcases h.catalog hs.devicesKeyed with htemplates | ⟨_, _, _, _, _, hr⟩ | ⟨_, _, _, _, _, _, hr⟩
  · have hkeyed : change.edited.templates.Keyed := htemplates ▸ hs.templates
    cases h.turns hs.devicesKeyed (fun x => (hs.devices x).paired) x with
    | absent hd => exact Inventory.CompleteAt.of_none hd
    | added _ _ _ _ hd hk =>
        refine Inventory.CompleteAt.intro hd hk fun _ => ?_
        dsimp only
        exact Inventory.covers_startingTemplates hkeyed
    | rewritten hp hk hd hk' hrewrites =>
        have hcovers := hc _ _ hp hk
        rw [← htemplates] at hcovers
        exact Inventory.CompleteAt.intro hd hk'
          (hrewrites.covers hkeyed ((hs.devices x).inUse _ _ hp hk) hcovers)
  · exact hc.requires hs hr
  · exact hc.requires hs hr

/-- Every event keeps lists complete. -/
theorem after_completeAt (hs : c.inventory.Sound) (hc : c.inventory.CompleteAt x) (e : Event) :
    (c.after settings e).inventory.CompleteAt x := by
  cases e with
  | request outage r =>
      obtain ⟨change, hmakes, hfollows⟩ := answers_of_sound hs settings outage r
      exact hfollows.marks.completeAt (hmakes.completeAt hs hc)
  | pass seconds => exact hc

/-- In every reachable state the list of a device in use is complete. -/
theorem Reachable.completeAt (h : Reachable settings c) (x : DeviceId) :
    c.inventory.CompleteAt x := by
  have hcomplete : c.inventory.Sound ∧ ∀ x, c.inventory.CompleteAt x := by
    refine h.keeps (I := fun c => c.inventory.Sound ∧ ∀ x, c.inventory.CompleteAt x) ?_ ?_
    · exact fun now => ⟨start_sound now, fun x => Inventory.CompleteAt.of_none rfl⟩
    · exact fun c e hinv =>
        ⟨after_sound hinv.1 e, fun x => after_completeAt hinv.1 (hinv.2 x) e⟩
  exact hcomplete.2 x

/-- In every reachable state a device in use has every template on its list that is required for its
backend and visible to its organization. -/
theorem Reachable.required_mem (h : Reachable settings c) {d : Device} {k : Configuration}
    {t : TemplateId} {T : Template} (hd : c.inventory.devices.get? x = some d)
    (hk : c.inventory.configurations.get? x = some k) (ha : d.active = true)
    (ht : c.inventory.templates.get? t = some T) (hrequired : T.required = true)
    (hbackend : T.backend = k.backend) (hvisible : T.isVisibleTo d.organization = true) :
    t ∈ k.templates :=
  h.completeAt x d k hd hk ha t T ht
    (Template.isRequiredFor_iff.mpr ⟨hrequired, hbackend, hvisible⟩)

/-- A required template is added and then a device that asks for nothing. -/
def requiredSample : List Request :=
  [.addTemplate { Sample.template with required := true },
    .addDevice Sample.device (Sample.configuration [])]

/-- The device has the template then. -/
theorem required_mem_sample :
    ∃ k,
      (Sample.controller requiredSample).inventory.configurations.get? Sample.device.id = some k ∧
      Sample.template.id ∈ k.templates := by
  refine ⟨Sample.configuration [Sample.template.id], by decide +kernel, ?_⟩
  exact (Sample.reachable requiredSample).required_mem (x := Sample.device.id) (d := Sample.device)
    (T := { Sample.template with required := true, default := true, created := 1 })
    (by decide +kernel) (by decide +kernel) rfl (by decide +kernel) rfl rfl rfl

end Controller

end Fleet
