/-
# The order of template lists

Sorting puts the templates of a selection in an order that does not depend on where they stood,
except for explicit templates among each other.  A list that is sorted already stays as it is, also
if templates that are on it are selected once more.

Main statements: `Template.sorted_pairwise`, `Template.sorted_append_of_mem`,
`Catalog.attach_again`, `Catalog.detach_again`.
-/
import Mathlib.Data.List.Basic
import Fleet.Proofs.Backends

namespace Fleet

open Outcomes

/-! ## Lists in order -/

namespace Ordered

variable {α : Type} {before : α → α → Bool} {R : α → α → Prop} {l : List α} {a : α}

/-- An item that is placed in a list in order leaves it in order. -/
theorem place_pairwise (htrans : ∀ a b c, R a b → R b c → R a c)
    (hbefore : ∀ b ∈ l, before a b = true → R a b) (hafter : ∀ b ∈ l, before a b = false → R b a)
    (h : l.Pairwise R) : (place before a l).Pairwise R := by
  induction l with
  | nil => exact List.pairwise_singleton R a
  | cons b rest ih =>
      obtain ⟨hb, hrest⟩ := List.pairwise_cons.mp h
      rw [place]
      split
      · -- It comes first, and before the rest by way of the head.
        rename_i hab
        have hR := hbefore b List.mem_cons_self hab
        refine List.pairwise_cons.mpr ⟨fun c hc => ?_, h⟩
        rcases List.mem_cons.mp hc with rfl | hc
        · exact hR
        · exact htrans a b c hR (hb c hc)
      · rename_i hab
        have hR := hafter b List.mem_cons_self (Bool.not_eq_true _ ▸ hab)
        refine List.pairwise_cons.mpr ⟨fun c hc => ?_, ?_⟩
        · rcases List.mem_cons.mp ((place_perm before a rest).mem_iff.mp hc) with rfl | hc
          · exact hR
          · exact hb c hc
        · exact ih (fun c hc => hbefore c (List.mem_cons_of_mem b hc))
            (fun c hc => hafter c (List.mem_cons_of_mem b hc)) hrest

/-- Sorting puts a list in order, where the comparison decides the order of any two of its items. -/
theorem sortBy_pairwise (htrans : ∀ a b c, R a b → R b c → R a c)
    (h : l.Pairwise fun a b => (before a b = true → R a b) ∧ (before a b = false → R b a)) :
    (sortBy before l).Pairwise R := by
  induction l with
  | nil => exact List.Pairwise.nil
  | cons a rest ih =>
      obtain ⟨ha, hrest⟩ := List.pairwise_cons.mp h
      refine place_pairwise htrans (fun b hb => ?_) (fun b hb => ?_) (ih hrest)
      · exact (ha b (mem_sortBy.mp hb)).1
      · exact (ha b (mem_sortBy.mp hb)).2

/-- Sorting a list that is in order changes nothing. -/
theorem sortBy_eq_self (h : l.Pairwise fun a b => before a b = true) : sortBy before l = l := by
  induction l with
  | nil => rfl
  | cons a rest ih =>
      obtain ⟨ha, hrest⟩ := List.pairwise_cons.mp h
      rw [sortBy, ih hrest]
      cases rest with
      | nil => rfl
      | cons b rest => rw [place, if_pos (ha b List.mem_cons_self)]

end Ordered

/-! ## Templates in order -/

namespace Template

/-- A template at a position belongs before another one, whatever their identifiers. -/
def Before (a b : Nat × Template) : Prop :=
  a.2.rank < b.2.rank ∨
    (a.2.rank = b.2.rank ∧ if a.2.rank < 2 then a.2.createdBefore b.2 = true else a.1 ≤ b.1)

variable {a b c : Nat × Template}

/-- Creations are ordered by number and then by identifier. -/
theorem createdBefore_iff {t u : Template} : t.createdBefore u = true ↔
    t.created < u.created ∨ (t.created = u.created ∧ t.id.text < u.id.text) := by
  unfold createdBefore
  rw [Bool.or_eq_true, Bool.and_eq_true, decide_eq_true_eq, beq_iff_eq, decide_eq_true_eq]

/-- The order of creations is transitive. -/
theorem createdBefore_trans {t u v : Template} (h : t.createdBefore u = true)
    (h' : u.createdBefore v = true) : t.createdBefore v = true := by
  rw [createdBefore_iff] at h h' ⊢
  rcases h with h | ⟨heq, h⟩
  · rcases h' with h' | ⟨heq', _⟩
    · exact Or.inl (Nat.lt_trans h h')
    · exact Or.inl (heq' ▸ h)
  · rcases h' with h' | ⟨heq', h'⟩
    · exact Or.inl (heq ▸ h')
    · exact Or.inr ⟨heq.trans heq', String.lt_trans h h'⟩

/-- Of two creations with different identifiers one is before the other. -/
theorem createdBefore_total {t u : Template} (hne : t.id ≠ u.id) :
    t.createdBefore u = true ∨ u.createdBefore t = true := by
  rw [createdBefore_iff, createdBefore_iff]
  rcases Nat.lt_trichotomy t.created u.created with hlt | heq | hlt
  · exact Or.inl (Or.inl hlt)
  · by_cases htext : t.id.text < u.id.text
    · exact Or.inl (Or.inr ⟨heq, htext⟩)
    · refine Or.inr (Or.inr ⟨heq.symm, ?_⟩)
      apply Classical.byContradiction
      intro htext'
      exact hne (Key.text_injective (String.le_antisymm htext' htext))
  · exact Or.inr (Or.inl hlt)

/-- The order is transitive. -/
theorem Before.trans (h : Before a b) (h' : Before b c) : Before a c := by
  unfold Before at h h' ⊢
  rcases h with h | ⟨hrank, h⟩
  · rcases h' with h' | ⟨hrank', _⟩
    · exact Or.inl (Nat.lt_trans h h')
    · exact Or.inl (hrank' ▸ h)
  · rcases h' with h' | ⟨hrank', h'⟩
    · exact Or.inl (hrank ▸ h')
    · refine Or.inr ⟨hrank.trans hrank', ?_⟩
      rw [← hrank] at h'
      split at h
      · rename_i hranked
        rw [if_pos hranked] at h' ⊢
        exact createdBefore_trans h h'
      · rename_i hranked
        rw [if_neg hranked] at h' ⊢
        exact Nat.le_trans h h'

/-- Of two templates with different identifiers one is before the other. -/
theorem Before.total (hne : a.2.id ≠ b.2.id) : Before a b ∨ Before b a := by
  unfold Before
  rcases Nat.lt_trichotomy a.2.rank b.2.rank with hlt | heq | hlt
  · exact Or.inl (Or.inl hlt)
  · rw [heq]
    by_cases hranked : b.2.rank < 2
    · rw [if_pos hranked, if_pos hranked]
      exact (createdBefore_total hne).imp (fun h => Or.inr ⟨rfl, h⟩) fun h => Or.inr ⟨rfl, h⟩
    · rw [if_neg hranked, if_neg hranked]
      exact (Nat.le_total a.1 b.1).imp (fun h => Or.inr ⟨rfl, h⟩) fun h => Or.inr ⟨rfl, h⟩
  · exact Or.inr (Or.inl hlt)

/-- A template precedes those that it is before, and those with its rank and its identifier. -/
theorem precedes_iff : precedes a b = true ↔
    Before a b ∨ (a.2.rank = b.2.rank ∧ a.2.rank < 2 ∧ a.2.id = b.2.id) := by
  unfold precedes Before
  rw [Bool.or_eq_true, Bool.and_eq_true, decide_eq_true_eq, beq_iff_eq]
  by_cases hranked : a.2.rank < 2
  · rw [if_pos hranked, if_pos hranked, Bool.or_eq_true, beq_iff_eq, and_or_left, or_assoc,
      and_iff_right hranked]
  · rw [if_neg hranked, if_neg hranked, decide_eq_true_eq]
    simp only [hranked, false_and, and_false, or_false]

/-! ## Sorted selections -/

/-- The templates of a selection, each once and with its position. -/
def numbered (selection : List Template) : List (Nat × Template) :=
  (distinct [] selection).zipIdx.map Prod.swap

/-- The templates of a selection in their final order, each once. -/
def sorted (selection : List Template) : List Template :=
  (Ordered.sortBy precedes (numbered selection)).map Prod.snd

variable {selection extra l : List Template} {seen : List TemplateId} {t : Template}

/-- The final order of identifiers is that of the templates. -/
theorem sortedIds_eq (selection : List Template) :
    sortedIds selection = (sorted selection).map Template.id := by
  unfold sortedIds sorted numbered
  rw [List.map_map]
  rfl

/-- Numbering leaves the templates. -/
theorem map_snd_zipIdx_swap (l : List Template) : (l.zipIdx.map Prod.swap).map Prod.snd = l := by
  rw [List.map_map]
  show l.zipIdx.map Prod.fst = l
  exact List.zipIdx_map_fst 0 l

/-- What is sorted was selected. -/
theorem mem_of_mem_sorted (h : t ∈ sorted selection) : t ∈ selection := by
  obtain ⟨e, he, rfl⟩ := List.mem_map.mp h
  have hmem : e.2 ∈ (numbered selection).map Prod.snd :=
    List.mem_map_of_mem (Ordered.mem_sortBy.mp he)
  rw [numbered, map_snd_zipIdx_swap] at hmem
  exact mem_of_mem_distinct hmem

/-- A sorted selection names each template once. -/
theorem nodup_sorted (selection : List Template) :
    ((sorted selection).map Template.id).Nodup := by
  rw [← sortedIds_eq]
  exact nodup_sortedIds selection

/-- A sorted selection is in order. -/
theorem sorted_pairwise (selection : List Template) :
    (Ordered.sortBy precedes (numbered selection)).Pairwise Before := by
  have hnodup : ((numbered selection).map fun e => e.2.id).Nodup := by
    have hids := (nodup_distinct [] selection).1
    rw [← map_snd_zipIdx_swap (distinct [] selection), List.map_map] at hids
    exact hids
  -- Where identifiers differ, a template that does not precede another one comes after it.
  refine Ordered.sortBy_pairwise (fun _ _ _ => Before.trans) ?_
  refine (List.pairwise_map.mp hnodup).imp fun {a b} hne => ?_
  rw [← Bool.not_eq_true, precedes_iff, not_or]
  refine ⟨fun h => h.resolve_right fun hsame => hne hsame.2.2, fun h => ?_⟩
  exact (Before.total hne).resolve_left h.1

/-- Templates that differ from one another and have not been seen are all kept, and what is selected
once more is not. -/
theorem distinct_append_of_mem (hnodup : (l.map Template.id).Nodup) (hseen : ∀ t ∈ l, t.id ∉ seen)
    (hextra : ∀ t ∈ extra, t.id ∈ seen ∨ t.id ∈ l.map Template.id) :
    distinct seen (l ++ extra) = l := by
  induction l generalizing seen with
  | nil =>
      -- All that is left was seen.
      rw [List.nil_append]
      induction extra with
      | nil => rfl
      | cons e rest ih =>
          have he : e.id ∈ seen := (hextra e List.mem_cons_self).resolve_right List.not_mem_nil
          rw [distinct, if_pos (List.contains_iff_mem.mpr he)]
          exact ih fun t ht => hextra t (List.mem_cons_of_mem e ht)
  | cons a rest ih =>
      rw [List.map_cons, List.nodup_cons] at hnodup
      rw [List.cons_append, distinct,
        if_neg fun h => hseen a List.mem_cons_self (List.contains_iff_mem.mp h)]
      congr 1
      apply ih hnodup.2
      · intro t ht hmem
        rcases List.mem_cons.mp hmem with hid | hmem
        · exact hnodup.1 (hid ▸ List.mem_map_of_mem ht)
        · exact hseen t (List.mem_cons_of_mem a ht) hmem
      · intro t ht
        rcases hextra t ht with hold | hnew
        · exact Or.inl (List.mem_cons_of_mem _ hold)
        · rcases List.mem_cons.mp hnew with hid | hnew
          · exact Or.inl (hid ▸ List.mem_cons_self)
          · exact Or.inr hnew

/-- Templates in order are in order by their positions among themselves. -/
theorem pairwise_zipIdx {P : List (Nat × Template)} (h : P.Pairwise Before) :
    ((P.map Prod.snd).zipIdx.map Prod.swap).Pairwise fun a b => precedes a b = true := by
  rw [List.pairwise_iff_getElem] at h ⊢
  intro i j hi hj hij
  simp only [List.length_map, List.length_zipIdx] at hi hj
  simp only [List.getElem_map, List.getElem_zipIdx, Prod.swap_prod_mk, Nat.zero_add]
  have hbefore := h i j hi hj hij
  apply precedes_iff.mpr
  left
  unfold Before at hbefore ⊢
  rcases hbefore with hlt | ⟨heq, hrest⟩
  · exact Or.inl hlt
  · refine Or.inr ⟨heq, ?_⟩
    dsimp only
    split
    · rename_i hranked
      rw [if_pos hranked] at hrest
      exact hrest
    · -- Explicit templates are ordered by the positions they have now.
      exact Nat.le_of_lt hij

/-- A sorted selection stays as it is when templates of it are selected once more. -/
theorem sorted_append_of_mem (h : ∀ t ∈ extra, t.id ∈ (sorted selection).map Template.id) :
    sorted (sorted selection ++ extra) = sorted selection := by
  have hdistinct : distinct [] (sorted selection ++ extra) = sorted selection :=
    distinct_append_of_mem (nodup_sorted selection) (fun _ _ => List.not_mem_nil)
      fun t ht => Or.inr (h t ht)
  have horder : (numbered (sorted selection ++ extra)).Pairwise fun a b => precedes a b = true := by
    unfold numbered
    rw [hdistinct]
    exact pairwise_zipIdx (sorted_pairwise selection)
  show (Ordered.sortBy precedes (numbered (sorted selection ++ extra))).map Prod.snd = _
  rw [Ordered.sortBy_eq_self horder, numbered, hdistinct, map_snd_zipIdx_swap]

/-- Sorting a sorted selection changes nothing. -/
theorem sorted_sorted (selection : List Template) :
    sorted (sorted selection) = sorted selection := by
  have h : sorted (sorted selection ++ []) = sorted selection :=
    sorted_append_of_mem fun t ht => by cases ht
  rwa [List.append_nil] at h

end Template

/-! ## Lists that are computed once more -/

namespace Catalog

variable {c : Catalog} {k k' : Configuration} {organization : OrgId} {id : TemplateId}
  {ts : List TemplateId}

/-- The templates of a sorted list are the sorted templates. -/
theorem present_sortedIds {selection : List Template}
    (h : ∀ t ∈ selection, c.get? t.id = some t) :
    c.present (Template.sortedIds selection) = Template.sorted selection := by
  unfold present
  rw [Template.sortedIds_eq, List.filterMap_map]
  have hfound : ∀ t ∈ Template.sorted selection, (c.get? ∘ Template.id) t = some t :=
    fun t ht => h t (Template.mem_of_mem_sorted ht)
  rw [List.filterMap_congr hfound, List.filterMap_some]

section Lists

variable (hc : c.Keyed)

include hc

/-- What is found of a list is found under its identifiers. -/
theorem get?_of_mem_present {ids : List TemplateId} {t : Template} (h : t ∈ c.present ids) :
    c.get? t.id = some t := by
  obtain ⟨i, _, hi⟩ := mem_present.mp h
  rw [hc i t hi]
  exact hi

/-- A template that was attached is on the list, and the list stays as it is. -/
theorem attach_again (h : c.attach k organization id = .ok ts) (hk : k'.backend = k.backend)
    (hts : k'.templates = ts) : c.attach k' organization id = .ok ts := by
  unfold attach at h ⊢
  simp only [bind_eq_ok, pure_eq_ok] at h ⊢
  obtain ⟨t, ht, rfl⟩ := h
  obtain ⟨hget, _⟩ := usable_eq_ok.mp ht
  refine ⟨t, hk ▸ ht, ?_⟩
  have hfound : ∀ u ∈ c.present k.templates ++ [t], c.get? u.id = some u := by
    intro u hu
    rcases List.mem_append.mp hu with hu | hu
    · exact get?_of_mem_present hc hu
    · rw [List.mem_singleton.mp hu, hc id t hget]
      exact hget
  rw [hts, present_sortedIds hfound, Template.sortedIds_eq, Template.sorted_append_of_mem,
    Template.sortedIds_eq]
  intro u hu
  rw [List.mem_singleton.mp hu, ← Template.sortedIds_eq]
  exact Template.mem_sortedIds.mpr ⟨t, by simp, rfl⟩

/-- A template that was detached is not on the list, and the list stays as it is. -/
theorem detach_again (h : c.detach k organization id = .ok ts) (hk : k'.backend = k.backend)
    (hts : k'.templates = ts) : c.detach k' organization id = .ok ts := by
  unfold detach at h ⊢
  simp only [bind_eq_ok] at h ⊢
  obtain ⟨t, ht, h⟩ := h
  refine ⟨t, ht, ?_⟩
  rw [ite_error_eq_ok, Except.ok.injEq] at h ⊢
  obtain ⟨hfree, rfl⟩ := h
  refine ⟨hk ▸ hfree, ?_⟩
  have hfound : ∀ u ∈ (c.present k.templates).filter fun u => u.id != id, c.get? u.id = some u :=
    fun u hu => get?_of_mem_present hc (List.mem_filter.mp hu).1
  have hnone : ∀ u ∈ Template.sorted ((c.present k.templates).filter fun u => u.id != id),
      (u.id != id) = true :=
    fun u hu => (List.mem_filter.mp (Template.mem_of_mem_sorted hu)).2
  rw [hts, present_sortedIds hfound, List.filter_eq_self.mpr hnone, Template.sortedIds_eq,
    Template.sorted_sorted, Template.sortedIds_eq]

end Lists

/-- What is requested of a list does not depend on the list. -/
theorem select_congr {requested : List TemplateId} (hk : k'.backend = k.backend) :
    c.select k' organization requested = c.select k organization requested := by
  unfold select
  rw [hk]

/-- What is left of a list that is cleared does not depend on the list. -/
theorem clear_congr (hk : k'.backend = k.backend) :
    c.clear k' organization = c.clear k organization := by
  unfold clear
  rw [hk]

end Catalog

end Fleet
