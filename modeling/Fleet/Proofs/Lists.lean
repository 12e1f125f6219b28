/-
# What is on a template list

The members of each list that the catalog computes, read off the templates that were put together.
A catalog is keyed when every template is stored under its own identifier.

Main statements: `Template.mem_sortedIds`, `Catalog.mem_withRequired`, `Catalog.mem_rescope`.
-/
import Fleet.Catalog
import Fleet.Proofs.Maps
import Fleet.Proofs.Outcomes

namespace Fleet

open Outcomes

/-! ## Sorting keeps the identifiers -/

namespace Template

/-- What is kept was there. -/
theorem mem_of_mem_distinct {seen : List TemplateId} {l : List Template} {t : Template}
    (h : t ∈ distinct seen l) : t ∈ l := by
  induction l generalizing seen with
  | nil => cases h
  | cons a rest ih =>
      rw [distinct] at h
      split at h
      · exact List.mem_cons_of_mem a (ih h)
      · rcases List.mem_cons.mp h with rfl | h
        · exact List.mem_cons_self
        · exact List.mem_cons_of_mem a (ih h)

/-- Each identifier that has not been seen is kept once. -/
theorem exists_mem_distinct {seen : List TemplateId} {l : List Template} {t : Template}
    (ht : t ∈ l) (hseen : t.id ∉ seen) : ∃ u ∈ distinct seen l, u.id = t.id := by
  induction l generalizing seen with
  | nil => cases ht
  | cons a rest ih =>
      rw [distinct]
      by_cases ha : t.id = a.id
      · rw [if_neg (by simpa [← ha] using hseen)]
        exact ⟨a, List.mem_cons_self, ha.symm⟩
      · have hrest : t ∈ rest := by
          rcases List.mem_cons.mp ht with rfl | hrest
          · exact absurd rfl ha
          · exact hrest
        split
        · exact ih hrest hseen
        · obtain ⟨u, hu, hid⟩ := @ih (a.id :: seen) hrest (by simp [ha, hseen])
          exact ⟨u, List.mem_cons_of_mem a hu, hid⟩

/-- The final order holds the identifiers of the selection. -/
theorem mem_sortedIds {selection : List Template} {id : TemplateId} :
    id ∈ sortedIds selection ↔ ∃ t ∈ selection, t.id = id := by
  unfold sortedIds
  simp only [List.mem_map, Ordered.mem_sortBy]
  constructor
  · rintro ⟨e, ⟨p, hp, rfl⟩, rfl⟩
    have hmem := List.mem_of_getElem? (List.mem_zipIdx_iff_getElem?.mp hp)
    exact ⟨p.1, mem_of_mem_distinct hmem, rfl⟩
  · rintro ⟨t, ht, rfl⟩
    obtain ⟨u, hu, hid⟩ := exists_mem_distinct ht (List.not_mem_nil : t.id ∉ [])
    obtain ⟨n, hn, rfl⟩ := List.getElem_of_mem hu
    refine ⟨(n, _), ⟨(_, n), ?_, rfl⟩, hid⟩
    rw [List.mk_mem_zipIdx_iff_getElem?]
    exact List.getElem?_eq_getElem hn

end Template

/-! ## Looking templates up -/

namespace Template

/-- What is required in a scope is written for its backend and visible there. -/
theorem isRequiredFor_iff {t : Template} {backend : Backend} {organization : OrgId} :
    t.isRequiredFor backend organization = true ↔
      t.required = true ∧ t.backend = backend ∧ t.isVisibleTo organization = true := by
  simp [isRequiredFor, and_assoc]

/-- What is required in a scope is a default there. -/
theorem isDefaultFor_of_isRequiredFor {t : Template} {backend : Backend} {organization : OrgId}
    (h : t.isRequiredFor backend organization = true) :
    t.isDefaultFor backend organization = true := by
  obtain ⟨hr, hb, hv⟩ := isRequiredFor_iff.mp h
  simp [isDefaultFor, hr, hb, hv]

/-- What is a default in a scope is written for its backend and visible there. -/
theorem of_isDefaultFor {t : Template} {backend : Backend} {organization : OrgId}
    (h : t.isDefaultFor backend organization = true) :
    t.backend = backend ∧ t.isVisibleTo organization = true := by
  simp only [isDefaultFor, Bool.and_eq_true, beq_iff_eq] at h
  exact ⟨h.1.2, h.2⟩

end Template

namespace Catalog

variable {c : Catalog} {backend : Backend} {organization : OrgId}

/-- Every template is stored under its own identifier. -/
def Keyed (c : Catalog) : Prop :=
  ∀ id t, c.get? id = some t → t.id = id

/-- A template that is stored under its own identifier leaves the catalog keyed. -/
theorem Keyed.insert (h : c.Keyed) {id : TemplateId} {t : Template} (ht : t.id = id) :
    Keyed (SortedMap.insert c id t) := by
  intro q u hu
  rw [SortedMap.get?_insert] at hu
  split at hu
  · rename_i hq
    cases hu
    rw [ht, hq]
  · exact h q u hu

/-- The templates of a list that exist are those that are found. -/
theorem mem_present {ids : List TemplateId} {t : Template} :
    t ∈ c.present ids ↔ ∃ id ∈ ids, c.get? id = some t :=
  List.mem_filterMap

/-- The required templates are those that are found and required. -/
theorem mem_requiredFor {t : Template} :
    t ∈ c.requiredFor backend organization ↔
      (∃ id, c.get? id = some t) ∧ t.isRequiredFor backend organization = true := by
  rw [requiredFor, List.mem_filter, SortedMap.mem_values]

/-- The default templates are those that are found and defaults. -/
theorem mem_defaultFor {t : Template} :
    t ∈ c.defaultFor backend organization ↔
      (∃ id, c.get? id = some t) ∧ t.isDefaultFor backend organization = true := by
  rw [defaultFor, List.mem_filter, SortedMap.mem_values]

/-- A template is found under its identifier. -/
theorem find_eq_ok {id : TemplateId} {t : Template} : c.find id = .ok t ↔ c.get? id = some t := by
  unfold find
  cases c.get? id <;> simp

/-- The check of the backend passes for templates of that backend. -/
theorem checkBackend_eq_ok {t : Template} :
    checkBackend t backend = .ok () ↔ t.backend = backend := by
  unfold checkBackend
  split <;> simp [*]

/-- A usable template exists, is written for the backend and is visible to the organization. -/
theorem usable_eq_ok {id : TemplateId} {t : Template} :
    c.usable id backend organization = .ok t ↔
      c.get? id = some t ∧ t.backend = backend ∧ t.isVisibleTo organization = true := by
  unfold usable
  rw [bind_eq_ok]
  constructor
  · rintro ⟨u, hu, h⟩
    obtain ⟨hb, h⟩ := seq_eq_ok.mp h
    split at h
    · rename_i hv
      cases h
      exact ⟨find_eq_ok.mp hu, checkBackend_eq_ok.mp hb, hv⟩
    · cases h
  · rintro ⟨ht, hb, hv⟩
    refine ⟨t, find_eq_ok.mpr ht, seq_eq_ok.mpr ⟨checkBackend_eq_ok.mpr hb, ?_⟩⟩
    rw [if_pos hv]

/-! ## The members of the lists -/

section Members

variable (hc : c.Keyed) {k : Configuration} {id : TemplateId}

include hc

/-- The identifiers of the templates of a list that exist. -/
theorem exists_mem_present {ids : List TemplateId} :
    (∃ t ∈ c.present ids, t.id = id) ↔ id ∈ ids ∧ ∃ t, c.get? id = some t := by
  constructor
  · rintro ⟨t, ht, rfl⟩
    obtain ⟨i, hi, hit⟩ := mem_present.mp ht
    have := hc i t hit
    subst this
    exact ⟨hi, t, hit⟩
  · rintro ⟨hid, t, ht⟩
    exact ⟨t, mem_present.mpr ⟨id, hid, ht⟩, hc id t ht⟩

/-- The identifiers of the required templates. -/
theorem exists_mem_requiredFor :
    (∃ t ∈ c.requiredFor backend organization, t.id = id) ↔
      ∃ t, c.get? id = some t ∧ t.isRequiredFor backend organization = true := by
  constructor
  · rintro ⟨t, ht, rfl⟩
    obtain ⟨⟨i, hi⟩, hr⟩ := mem_requiredFor.mp ht
    have := hc i t hi
    subst this
    exact ⟨t, hi, hr⟩
  · rintro ⟨t, ht, hr⟩
    exact ⟨t, mem_requiredFor.mpr ⟨⟨id, ht⟩, hr⟩, hc id t ht⟩

/-- A list that is completed keeps what exists of it, gets every required template, and nothing but
defaults. -/
theorem mem_withRequired :
    id ∈ c.withRequired k organization ↔
      ∃ t, c.get? id = some t ∧ (id ∈ k.templates ∨
        t.isRequiredFor k.backend organization = true ∨
        (c.present k.templates = [] ∧ t.isDefaultFor k.backend organization = true)) := by
  unfold withRequired
  rw [Template.mem_sortedIds]
  constructor
  · rintro ⟨t, ht, rfl⟩
    rcases List.mem_append.mp ht with ht | ht
    · obtain ⟨hid, u, hu⟩ := (exists_mem_present hc).mp ⟨t, ht, rfl⟩
      exact ⟨u, hu, Or.inl hid⟩
    · split at ht
      · rename_i hempty
        obtain ⟨⟨i, hi⟩, hd⟩ := mem_defaultFor.mp ht
        have := hc i t hi
        subst this
        exact ⟨t, hi, Or.inr (Or.inr ⟨List.isEmpty_iff.mp hempty, hd⟩)⟩
      · obtain ⟨u, hu, hr⟩ := (exists_mem_requiredFor hc).mp ⟨t, ht, rfl⟩
        exact ⟨u, hu, Or.inr (Or.inl hr)⟩
  · rintro ⟨t, ht, h⟩
    have hid := hc id t ht
    refine ⟨t, ?_, hid⟩
    rw [List.mem_append]
    rcases h with h | h | ⟨hempty, hd⟩
    · exact Or.inl (mem_present.mpr ⟨id, h, ht⟩)
    · right
      split
      · exact mem_defaultFor.mpr ⟨⟨id, ht⟩, Template.isDefaultFor_of_isRequiredFor h⟩
      · exact mem_requiredFor.mpr ⟨⟨id, ht⟩, h⟩
    · right
      rw [if_pos (by rw [hempty]; rfl)]
      exact mem_defaultFor.mpr ⟨⟨id, ht⟩, hd⟩

/-- A list that is moved to a scope keeps what is visible there and not dropped, gets what is added
and can be used there, and every required template. -/
theorem mem_rescope {dropped added : List TemplateId} :
    id ∈ c.rescope k organization dropped added ↔
      ∃ t, c.get? id = some t ∧ t.isVisibleTo organization = true ∧
        ((id ∈ k.templates ∧ id ∉ dropped) ∨ (id ∈ added ∧ t.backend = k.backend) ∨
          t.isRequiredFor k.backend organization = true) := by
  unfold rescope
  rw [Template.mem_sortedIds]
  simp only [List.mem_append, List.mem_filter, Bool.and_eq_true, Bool.not_eq_true',
    List.contains_eq_mem, decide_eq_false_iff_not, beq_iff_eq, mem_present, mem_requiredFor]
  constructor
  · rintro ⟨t, h, rfl⟩
    rcases h with (⟨⟨i, hi, hit⟩, hd, hv⟩ | ⟨⟨i, hi, hit⟩, hb, hv⟩) | ⟨⟨i, hit⟩, hr⟩
    · have := hc i t hit
      subst this
      exact ⟨t, hit, hv, Or.inl ⟨hi, hd⟩⟩
    · have := hc i t hit
      subst this
      exact ⟨t, hit, hv, Or.inr (Or.inl ⟨hi, hb⟩)⟩
    · have := hc i t hit
      subst this
      exact ⟨t, hit, (Template.isRequiredFor_iff.mp hr).2.2, Or.inr (Or.inr hr)⟩
  · rintro ⟨t, ht, hv, h⟩
    have hid := hc id t ht
    refine ⟨t, ?_, hid⟩
    rw [← hid] at h ht
    rcases h with ⟨hk, hd⟩ | ⟨ha, hb⟩ | hr
    · exact Or.inl (Or.inl ⟨⟨t.id, hk, ht⟩, hd, hv⟩)
    · exact Or.inl (Or.inr ⟨⟨t.id, ha, ht⟩, hb, hv⟩)
    · exact Or.inr ⟨⟨t.id, ht⟩, hr⟩

/-- Attaching adds one template to what exists of the list. -/
theorem mem_of_attach (id : TemplateId) {added : TemplateId} {l : List TemplateId}
    (h : c.attach k organization added = .ok l) :
    (∃ t, c.get? added = some t ∧ t.backend = k.backend ∧ t.isVisibleTo organization = true) ∧
      (id ∈ l ↔ (id ∈ k.templates ∧ ∃ t, c.get? id = some t) ∨ id = added) := by
  unfold attach at h
  simp only [bind_eq_ok, usable_eq_ok, pure_eq_ok] at h
  obtain ⟨t, ⟨ht, hb, hv⟩, rfl⟩ := h
  refine ⟨⟨t, ht, hb, hv⟩, ?_⟩
  rw [Template.mem_sortedIds]
  simp only [List.mem_append, List.mem_singleton, or_and_right, exists_or, exists_eq_left]
  rw [exists_mem_present hc, hc added t ht, eq_comm (a := added)]

/-- Detaching takes one template away, which is not required, from what exists of the list. -/
theorem mem_of_detach (id : TemplateId) {removed : TemplateId} {l : List TemplateId}
    (h : c.detach k organization removed = .ok l) :
    (∃ t, c.get? removed = some t ∧ t.isRequiredFor k.backend organization = false) ∧
      (id ∈ l ↔ (id ∈ k.templates ∧ ∃ t, c.get? id = some t) ∧ id ≠ removed) := by
  unfold detach at h
  simp only [bind_eq_ok, find_eq_ok] at h
  obtain ⟨t, ht, h⟩ := h
  rw [ite_error_eq_ok, Except.ok.injEq, Bool.not_eq_true] at h
  obtain ⟨hr, rfl⟩ := h
  refine ⟨⟨t, ht, hr⟩, ?_⟩
  rw [Template.mem_sortedIds, ← exists_mem_present hc]
  simp only [List.mem_filter, bne_iff_ne]
  constructor
  · rintro ⟨u, ⟨hu, hne⟩, rfl⟩
    exact ⟨⟨u, hu, rfl⟩, hne⟩
  · rintro ⟨⟨u, hu, rfl⟩, hne⟩
    exact ⟨u, ⟨hu, hne⟩, rfl⟩

/-- The requested templates are the list, if all of them are usable and no required
one is missing. -/
theorem mem_of_select (id : TemplateId) {requested l : List TemplateId}
    (h : c.select k organization requested = .ok l) :
    (∀ i ∈ requested, ∃ t, c.get? i = some t ∧ t.backend = k.backend ∧
      t.isVisibleTo organization = true) ∧
      (∀ i t, c.get? i = some t → t.isRequiredFor k.backend organization = true → i ∈ requested) ∧
      (id ∈ l ↔ id ∈ requested) := by
  unfold select at h
  rw [bind_eq_ok] at h
  obtain ⟨selection, hsel, h⟩ := h
  split at h
  · cases h
  rename_i hnone
  rw [Except.ok.injEq] at h
  subst h
  refine ⟨fun i hi => ?_, fun i t hit hr => ?_, ?_⟩
  · obtain ⟨t, _, ht⟩ := ok_of_mapM hsel hi
    exact ⟨t, usable_eq_ok.mp ht⟩
  · have hall := List.find?_eq_none.mp hnone t (mem_requiredFor.mpr ⟨⟨i, hit⟩, hr⟩)
    rw [hc i t hit] at hall
    simpa using hall
  · rw [Template.mem_sortedIds]
    constructor
    · rintro ⟨t, ht, rfl⟩
      obtain ⟨i, hi, hit⟩ := (mem_of_mapM hsel).mp ht
      rw [hc i t (usable_eq_ok.mp hit).1]
      exact hi
    · intro hid
      obtain ⟨t, ht, hit⟩ := ok_of_mapM hsel hid
      exact ⟨t, ht, hc id t (usable_eq_ok.mp hit).1⟩

/-- A list that is cleared holds the required templates. -/
theorem mem_clear :
    id ∈ c.clear k organization ↔
      ∃ t, c.get? id = some t ∧ t.isRequiredFor k.backend organization = true := by
  rw [clear, Template.mem_sortedIds, exists_mem_requiredFor hc]

end Members

end Catalog

end Fleet
