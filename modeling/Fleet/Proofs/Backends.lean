/-
# Lists fit their backend

However a list is computed, its templates exist and are written for the backend of the
configuration, if those of the list before were; and every list names each template once.

Main statements: `Template.nodup_sortedIds`, `Inventory.fits_startingTemplates`,
`Inventory.fits_movedTemplates`, `Request.Lists.fits`.
-/
import Fleet.Proofs.Listings

namespace Fleet

open Outcomes

/-! ## Each template once -/

namespace Template

/-- The templates that are kept have identifiers that differ and have not been seen. -/
theorem nodup_distinct (seen : List TemplateId) (l : List Template) :
    ((distinct seen l).map Template.id).Nodup ∧ ∀ t ∈ distinct seen l, t.id ∉ seen := by
  induction l generalizing seen with
  | nil => exact ⟨List.nodup_nil, fun t ht => by cases ht⟩
  | cons a rest ih =>
      rw [distinct]
      split
      · exact ih seen
      · rename_i hfresh
        obtain ⟨hnodup, hunseen⟩ := ih (a.id :: seen)
        constructor
        · rw [List.map_cons, List.nodup_cons]
          refine ⟨fun hmem => ?_, hnodup⟩
          obtain ⟨t, ht, hid⟩ := List.mem_map.mp hmem
          exact hunseen t ht (hid ▸ List.mem_cons_self)
        · intro t ht
          rcases List.mem_cons.mp ht with rfl | ht
          · exact fun hseen => hfresh (List.contains_iff_mem.mpr hseen)
          · exact fun hseen => hunseen t ht (List.mem_cons_of_mem _ hseen)

/-- The final order names each template once. -/
theorem nodup_sortedIds (selection : List Template) : (sortedIds selection).Nodup := by
  unfold sortedIds
  dsimp only
  have hnumbered : (((distinct [] selection).zipIdx.map Prod.swap).map fun e => e.2.id) =
      (distinct [] selection).map Template.id := by
    rw [List.map_map]
    show (distinct [] selection).zipIdx.map (Template.id ∘ Prod.fst) = _
    rw [← List.map_map, List.zipIdx_map_fst]
  have hperm := (Ordered.sortBy_perm precedes
    ((distinct [] selection).zipIdx.map Prod.swap)).map fun e => e.2.id
  rw [hperm.nodup_iff, hnumbered]
  exact (nodup_distinct [] selection).1

end Template

/-! ## Lists that fit -/

namespace Catalog

/-- Every template of a list exists and is written for a backend. -/
def Fits (c : Catalog) (backend : Backend) (ts : List TemplateId) : Prop :=
  ∀ t ∈ ts, ∃ T, c.get? t = some T ∧ T.backend = backend

section Lists

variable {c : Catalog} (hc : c.Keyed) {k : Configuration} {organization : OrgId}

include hc

/-- What a list is completed with is written for its backend. -/
theorem fits_withRequired (hk : c.Fits k.backend k.templates) :
    c.Fits k.backend (c.withRequired k organization) := by
  intro t ht
  obtain ⟨T, hT, hlisted | hrequired | ⟨_, hdefault⟩⟩ := (mem_withRequired hc).mp ht
  · exact hk t hlisted
  · exact ⟨T, hT, (Template.isRequiredFor_iff.mp hrequired).2.1⟩
  · exact ⟨T, hT, (Template.of_isDefaultFor hdefault).1⟩

/-- What a list gets in another scope is written for its backend. -/
theorem fits_rescope (hk : c.Fits k.backend k.templates) (dropped added : List TemplateId) :
    c.Fits k.backend (c.rescope k organization dropped added) := by
  intro t ht
  obtain ⟨T, hT, _, ⟨hlisted, _⟩ | ⟨_, hbackend⟩ | hrequired⟩ := (mem_rescope hc).mp ht
  · exact hk t hlisted
  · exact ⟨T, hT, hbackend⟩
  · exact ⟨T, hT, (Template.isRequiredFor_iff.mp hrequired).2.1⟩

/-- What is left of a list at another backend is written for that. -/
theorem fits_rebackend (k : Configuration) (organization : OrgId) (backend : Backend) :
    c.Fits backend (c.rebackend k organization backend) := by
  unfold rebackend
  apply fits_withRequired hc
  intro t ht
  obtain ⟨T, hT, rfl⟩ := List.mem_map.mp ht
  obtain ⟨hpresent, hbackend⟩ := List.mem_filter.mp hT
  obtain ⟨id, _, hid⟩ := mem_present.mp hpresent
  have hkey := hc id T hid
  exact ⟨T, hkey ▸ hid, beq_iff_eq.mp hbackend⟩

end Lists

variable {c : Catalog} {k : Configuration} {organization : OrgId}

/-- A list that is completed names each template once. -/
theorem nodup_withRequired : (c.withRequired k organization).Nodup :=
  Template.nodup_sortedIds _

/-- A list that is moved to a scope names each template once. -/
theorem nodup_rescope {dropped added : List TemplateId} :
    (c.rescope k organization dropped added).Nodup :=
  Template.nodup_sortedIds _

end Catalog

/-! ## Lists of configurations that come into use or move -/

namespace Inventory

variable {inv : Inventory} {k : Configuration}

/-- A configuration that comes into use starts with templates of its backend. -/
theorem fits_startingTemplates (hc : inv.templates.Keyed)
    (hk : inv.templates.Fits k.backend k.templates)
    (organization : OrgId) (group : Option GroupId) :
    inv.templates.Fits k.backend (inv.startingTemplates k organization group) := by
  have hcompleted : inv.templates.Fits k.backend (inv.templates.withRequired k organization) :=
    Catalog.fits_withRequired hc hk
  unfold startingTemplates
  dsimp only
  split
  · exact hcompleted
  · exact Catalog.fits_rescope hc
      (k := { k with templates := inv.templates.withRequired k organization }) hcompleted _ _

/-- A configuration that comes into use starts with each template once. -/
theorem nodup_startingTemplates {organization : OrgId} {group : Option GroupId} :
    (inv.startingTemplates k organization group).Nodup := by
  unfold startingTemplates
  dsimp only
  split
  · exact Catalog.nodup_withRequired
  · exact Catalog.nodup_rescope

/-- A configuration that moves to another backend gets templates of that. -/
theorem fits_movedTemplates (hc : inv.templates.Keyed) (id : DeviceId) (d : Device)
    (k : Configuration) (backend : Backend) :
    inv.templates.Fits backend (inv.movedTemplates id d k backend) :=
  Catalog.fits_rescope hc (k := { Configuration.blank id backend with
    templates := inv.templates.rebackend k d.organization backend })
    (Catalog.fits_rebackend hc k d.organization backend) _ _

/-- A configuration that moves to another backend gets each template once. -/
theorem nodup_movedTemplates {id : DeviceId} {d : Device} {backend : Backend} :
    (inv.movedTemplates id d k backend).Nodup := by
  unfold movedTemplates
  exact Catalog.nodup_rescope

end Inventory

/-! ## Lists that are asked for -/

namespace Request.Lists

variable {c : Catalog} {k : Configuration} {organization : OrgId} {r : Request} {id : DeviceId}
  {ts : List TemplateId}

/-- A list that is asked for keeps to the backend. -/
theorem fits (hc : c.Keyed) (hk : c.Fits k.backend k.templates)
    (h : r.Lists c k organization id ts) : c.Fits k.backend ts := by
  intro t ht
  cases h with
  | attach h =>
      obtain ⟨⟨T, hT, hbackend, _⟩, hmem⟩ := Catalog.mem_of_attach hc t h
      rcases hmem.mp ht with ⟨hlisted, _⟩ | rfl
      · exact hk t hlisted
      · exact ⟨T, hT, hbackend⟩
  | detach h => exact hk t ((Catalog.mem_of_detach hc t h).2.mp ht).1.1
  | select h =>
      obtain ⟨husable, _, hmem⟩ := Catalog.mem_of_select hc t h
      obtain ⟨T, hT, hbackend, _⟩ := husable t (hmem.mp ht)
      exact ⟨T, hT, hbackend⟩
  | clear =>
      obtain ⟨T, hT, hrequired⟩ := (Catalog.mem_clear hc).mp ht
      exact ⟨T, hT, (Template.isRequiredFor_iff.mp hrequired).2.1⟩

/-- A list that is asked for names each template once. -/
theorem nodup (h : r.Lists c k organization id ts) : ts.Nodup := by
  cases h with
  | attach h =>
      unfold Catalog.attach at h
      simp only [bind_eq_ok, pure_eq_ok] at h
      obtain ⟨T, _, rfl⟩ := h
      exact Template.nodup_sortedIds _
  | detach h =>
      unfold Catalog.detach at h
      simp only [bind_eq_ok, ite_error_eq_ok, Except.ok.injEq] at h
      obtain ⟨T, _, _, rfl⟩ := h
      exact Template.nodup_sortedIds _
  | select h =>
      unfold Catalog.select at h
      rw [bind_eq_ok] at h
      obtain ⟨selection, _, h⟩ := h
      split at h
      · cases h
      · cases h
        exact Template.nodup_sortedIds _
  | clear => exact Template.nodup_sortedIds _

end Request.Lists

end Fleet
