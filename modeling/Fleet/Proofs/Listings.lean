/-
# What every computed template list guarantees

However a list is computed, its templates exist; it holds every template that is required in its
scope, or at least loses none; and what is new on it is visible to the organization.

Main statements: `Inventory.knows_startingTemplates`, `Inventory.covers_startingTemplates`,
`Request.Lists.knows`, `Request.Lists.covers`, `Request.Lists.shows`.
-/
import Fleet.Proofs.Changes

namespace Fleet

/-! ## Guarantees -/

namespace Catalog

/-- Every template of a list exists. -/
def Knows (c : Catalog) (ts : List TemplateId) : Prop :=
  ∀ t ∈ ts, ∃ T, c.get? t = some T

/-- Every template that is required in a scope is on a list. -/
def Covers (c : Catalog) (backend : Backend) (organization : OrgId) (ts : List TemplateId) : Prop :=
  ∀ t T, c.get? t = some T → T.isRequiredFor backend organization = true → t ∈ ts

/-- A template exists and is visible to an organization. -/
def Shows (c : Catalog) (organization : OrgId) (t : TemplateId) : Prop :=
  ∃ T, c.get? t = some T ∧ T.isVisibleTo organization = true

/-- What is required in a scope is visible there. -/
theorem shows_of_isRequiredFor {c : Catalog} {backend : Backend} {organization : OrgId}
    {t : TemplateId} {T : Template} (ht : c.get? t = some T)
    (h : T.isRequiredFor backend organization = true) : c.Shows organization t :=
  ⟨T, ht, (Template.isRequiredFor_iff.mp h).2.2⟩

section Lists

variable {c : Catalog} (hc : c.Keyed) {k : Configuration} {organization : OrgId}

include hc

/-! ## Completed lists -/

theorem knows_withRequired : c.Knows (c.withRequired k organization) := by
  intro t ht
  obtain ⟨T, hT, _⟩ := (mem_withRequired hc).mp ht
  exact ⟨T, hT⟩

theorem covers_withRequired : c.Covers k.backend organization (c.withRequired k organization) := by
  intro t T hT hr
  exact (mem_withRequired hc).mpr ⟨T, hT, Or.inr (Or.inl hr)⟩

theorem shows_withRequired {t : TemplateId} (ht : t ∈ c.withRequired k organization) :
    t ∈ k.templates ∨ c.Shows organization t := by
  obtain ⟨T, hT, h | h | ⟨_, h⟩⟩ := (mem_withRequired hc).mp ht
  · exact Or.inl h
  · exact Or.inr (shows_of_isRequiredFor hT h)
  · exact Or.inr ⟨T, hT, (Template.of_isDefaultFor h).2⟩

/-! ## Lists that moved to a scope -/

variable {dropped added : List TemplateId}

theorem shows_rescope {t : TemplateId} (ht : t ∈ c.rescope k organization dropped added) :
    c.Shows organization t := by
  obtain ⟨T, hT, hv, _⟩ := (mem_rescope hc).mp ht
  exact ⟨T, hT, hv⟩

theorem knows_rescope : c.Knows (c.rescope k organization dropped added) := by
  intro t ht
  obtain ⟨T, hT, _⟩ := shows_rescope hc ht
  exact ⟨T, hT⟩

theorem covers_rescope :
    c.Covers k.backend organization (c.rescope k organization dropped added) := by
  intro t T hT hr
  exact (mem_rescope hc).mpr
    ⟨T, hT, (Template.isRequiredFor_iff.mp hr).2.2, Or.inr (Or.inr hr)⟩

end Lists

end Catalog

/-! ## Lists of configurations that come into use or move -/

namespace Inventory

variable {inv : Inventory} (hc : inv.templates.Keyed) {k : Configuration} {organization : OrgId}
  {group : Option GroupId}

include hc

theorem knows_startingTemplates :
    inv.templates.Knows (inv.startingTemplates k organization group) := by
  unfold startingTemplates
  dsimp only
  split
  · exact Catalog.knows_withRequired hc
  · exact Catalog.knows_rescope hc

theorem covers_startingTemplates :
    inv.templates.Covers k.backend organization (inv.startingTemplates k organization group) := by
  unfold startingTemplates
  dsimp only
  split
  · exact Catalog.covers_withRequired hc
  · exact Catalog.covers_rescope hc (k := { k with
      templates := inv.templates.withRequired k organization })

theorem shows_startingTemplates {t : TemplateId}
    (ht : t ∈ inv.startingTemplates k organization group) :
    t ∈ k.templates ∨ inv.templates.Shows organization t := by
  unfold startingTemplates at ht
  dsimp only at ht
  split at ht
  · exact Catalog.shows_withRequired hc ht
  · exact Or.inr (Catalog.shows_rescope hc ht)

omit hc in
/-- The list after a move is the one of a scope without dropped templates. -/
theorem movedTemplates_eq (id : DeviceId) (d : Device) (k : Configuration) (backend : Backend) :
    ∃ moved : Configuration, moved.backend = backend ∧ inv.movedTemplates id d k backend =
      inv.templates.rescope moved d.organization [] (inv.groupTemplates d.group) := by
  unfold movedTemplates
  exact ⟨_, rfl, rfl⟩

theorem shows_movedTemplates {id : DeviceId} {d : Device} {backend : Backend} {t : TemplateId}
    (ht : t ∈ inv.movedTemplates id d k backend) : inv.templates.Shows d.organization t := by
  obtain ⟨moved, _, heq⟩ := inv.movedTemplates_eq id d k backend
  rw [heq] at ht
  exact Catalog.shows_rescope hc ht

theorem knows_movedTemplates (id : DeviceId) (d : Device) (k : Configuration) (backend : Backend) :
    inv.templates.Knows (inv.movedTemplates id d k backend) := by
  intro t ht
  obtain ⟨T, hT, _⟩ := shows_movedTemplates hc ht
  exact ⟨T, hT⟩

theorem covers_movedTemplates (id : DeviceId) (d : Device) (k : Configuration) (backend : Backend) :
    inv.templates.Covers backend d.organization (inv.movedTemplates id d k backend) := by
  obtain ⟨moved, hbackend, heq⟩ := inv.movedTemplates_eq id d k backend
  rw [heq, ← hbackend]
  exact Catalog.covers_rescope hc

end Inventory

/-! ## Lists that got a required template -/

/-- A required template is on the lists that were completed with it. -/
theorem Inventory.Requires.mem_of_attached {inv inv' : Inventory} {t : Template}
    {ids : List DeviceId} (h : Requires inv t ids inv') (hc : inv.templates.Keyed)
    (ht : inv.templates.get? t.id = some t) {x : DeviceId} (hx : x ∈ ids) {k : Configuration}
    (hk : inv'.configurations.get? x = some k) : t.id ∈ k.templates := by
  obtain ⟨d, k₀, _, _, _, _, hrequired, hget⟩ := h.attached x hx
  rw [Option.some.inj (hk.symm.trans hget)]
  exact Catalog.covers_withRequired hc t.id t ht hrequired

/-! ## Lists that are asked for -/

namespace Request.Lists

variable {c : Catalog} (hc : c.Keyed) {k : Configuration} {organization : OrgId} {r : Request}
  {id : DeviceId} {ts : List TemplateId} (h : r.Lists c k organization id ts)

include hc h

theorem knows : c.Knows ts := by
  intro t ht
  cases h with
  | attach h =>
      obtain ⟨⟨T, hT, _⟩, hmem⟩ := Catalog.mem_of_attach hc t h
      rcases hmem.mp ht with ⟨_, hknown⟩ | rfl
      · exact hknown
      · exact ⟨T, hT⟩
  | detach h => exact ((Catalog.mem_of_detach hc _ h).2.mp ht).1.2
  | select h =>
      obtain ⟨husable, _, hmem⟩ := Catalog.mem_of_select hc t h
      obtain ⟨T, hT, _⟩ := husable t (hmem.mp ht)
      exact ⟨T, hT⟩
  | clear =>
      obtain ⟨T, hT, _⟩ := (Catalog.mem_clear hc).mp ht
      exact ⟨T, hT⟩

/-- No request takes a required template away. -/
theorem covers (hk : c.Covers k.backend organization k.templates) :
    c.Covers k.backend organization ts := by
  intro t T hT hr
  cases h with
  | attach h => exact (Catalog.mem_of_attach hc _ h).2.mpr (Or.inl ⟨hk t T hT hr, T, hT⟩)
  | @detach _ removed _ h =>
      obtain ⟨⟨R, hR, hfree⟩, hmem⟩ := Catalog.mem_of_detach hc t h
      refine hmem.mpr ⟨⟨hk t T hT hr, T, hT⟩, ?_⟩
      rintro rfl
      rw [hT, Option.some.injEq] at hR
      subst hR
      rw [hr] at hfree
      cases hfree
  | select h =>
      obtain ⟨_, hrequired, hmem⟩ := Catalog.mem_of_select hc t h
      exact hmem.mpr (hrequired t T hT hr)
  | clear => exact (Catalog.mem_clear hc).mpr ⟨T, hT, hr⟩

/-- No request adds a template that the organization cannot see. -/
theorem shows {t : TemplateId} (ht : t ∈ ts) : t ∈ k.templates ∨ c.Shows organization t := by
  cases h with
  | attach h =>
      obtain ⟨⟨T, hT, _, hv⟩, hmem⟩ := Catalog.mem_of_attach hc t h
      rcases hmem.mp ht with ⟨hold, _⟩ | rfl
      · exact Or.inl hold
      · exact Or.inr ⟨T, hT, hv⟩
  | detach h => exact Or.inl ((Catalog.mem_of_detach hc _ h).2.mp ht).1.1
  | select h =>
      obtain ⟨husable, _, hmem⟩ := Catalog.mem_of_select hc t h
      obtain ⟨T, hT, _, hv⟩ := husable t (hmem.mp ht)
      exact Or.inr ⟨T, hT, hv⟩
  | clear =>
      obtain ⟨T, hT, hr⟩ := (Catalog.mem_clear hc).mp ht
      exact Or.inr (Catalog.shows_of_isRequiredFor hT hr)

end Request.Lists

end Fleet
