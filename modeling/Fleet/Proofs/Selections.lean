/-
# Sorted selections

A selection of templates has one final order: the required ones by creation, then the other default
ones by creation, then the explicit ones by where each is selected first.  That order is described
without sorting, and sorting gives it.

Main statements: `Template.InOrder.unique`, `Template.inOrder_sortedIds`,
`Template.Chosen.sortedIds_sorted_append`, `Template.sortedIds_determined`.
-/
import Fleet.Proofs.Ordering
import Fleet.Proofs.Runs
import Mathlib.Data.List.Sort

namespace Fleet

namespace Template

/-! ## The order of a selection -/

/-- One template was created before another: it has the smaller number, or the same number and the
smaller identifier. -/
def Earlier (t u : Template) : Prop :=
  t.created < u.created ∨ (t.created = u.created ∧ t.id.text < u.id.text)

/-- Neither required nor a default. -/
def isExplicit (t : Template) : Bool :=
  !t.required && !t.default

/-- The explicit templates of a selection, each where it is selected first. -/
def explicitIds (selection : List Template) : List TemplateId :=
  ((selection.filter isExplicit).map Template.id).eraseDups

/-- A list of identifiers is a selection in its final order: the required templates and the other
default ones, both by their creation, and the explicit ones as they were selected. -/
def InOrder (selection : List Template) (ids : List TemplateId) : Prop :=
  ∃ required defaults : List Template,
    ids = required.map Template.id ++ defaults.map Template.id ++ explicitIds selection ∧
      (∀ t, t ∈ required ↔ t ∈ selection ∧ t.required = true) ∧
      (∀ t, t ∈ defaults ↔ t ∈ selection ∧ t.required = false ∧ t.default = true) ∧
      required.Pairwise Earlier ∧ defaults.Pairwise Earlier

variable {selection other l : List Template} {seen : List TemplateId} {t u : Template}

instance : Std.Irrefl Earlier :=
  ⟨fun _ h => h.elim (Nat.lt_irrefl _) fun h => String.lt_irrefl _ h.2⟩

instance : Std.Antisymm Earlier := by
  refine ⟨fun t _ h h' => absurd (?_ : Earlier t t) (irrefl t)⟩
  exact createdBefore_iff.mp
    (createdBefore_trans (createdBefore_iff.mpr h) (createdBefore_iff.mpr h'))

/-- A selection has one final order. -/
theorem InOrder.unique {ids ids' : List TemplateId} (h : InOrder selection ids)
    (h' : InOrder selection ids') : ids = ids' := by
  obtain ⟨required, defaults, rfl, hrequired, hdefaults, hfirst, hsecond⟩ := h
  obtain ⟨required', defaults', rfl, hrequired', hdefaults', hfirst', hsecond'⟩ := h'
  have heq : required = required' :=
    hfirst.eq_of_mem_iff hfirst' fun t => (hrequired t).trans (hrequired' t).symm
  have heq' : defaults = defaults' :=
    hsecond.eq_of_mem_iff hsecond' fun t => (hdefaults t).trans (hdefaults' t).symm
  rw [heq, heq']

/-! ## Ranks -/

/-- Required templates have the first rank. -/
theorem rank_eq_zero : t.rank = 0 ↔ t.required = true := by
  unfold rank
  cases t.required <;> cases t.default <;> decide

/-- Other default templates have the second. -/
theorem rank_eq_one : t.rank = 1 ↔ t.required = false ∧ t.default = true := by
  unfold rank
  cases t.required <;> cases t.default <;> decide

/-- Explicit templates have the third. -/
theorem isExplicit_eq : isExplicit = fun t => decide (t.rank = 2) := by
  funext t
  unfold rank isExplicit
  cases t.required <;> cases t.default <;> decide

/-- There are three ranks. -/
theorem rank_cases (t : Template) : t.rank = 0 ∨ t.rank = 1 ∨ t.rank = 2 := by
  unfold rank
  cases t.required <;> cases t.default <;> decide

/-- A list that is ordered by rank consists of the templates of each rank. -/
theorem eq_filter_rank (h : l.Pairwise fun t u => t.rank ≤ u.rank) :
    l = l.filter (·.rank = 0) ++ l.filter (·.rank = 1) ++ l.filter (·.rank = 2) := by
  induction l with
  | nil => rfl
  | cons a rest ih =>
      obtain ⟨ha, hrest⟩ := List.pairwise_cons.mp h
      have hnone : ∀ n < a.rank, rest.filter (·.rank = n) = [] := by
        intro n hn
        refine List.filter_eq_nil_iff.mpr fun t ht => ?_
        have hle := ha t ht
        rw [decide_eq_true_eq]
        omega
      have hrest := ih hrest
      rcases a.rank_cases with hr | hr | hr
      · simpa [hr] using hrest
      · rw [hnone 0 (by omega)] at hrest
        simpa [hr, hnone 0] using hrest
      · rw [hnone 0 (by omega), hnone 1 (by omega)] at hrest
        simpa [hr, hnone 0, hnone 1] using hrest

/-- A sorted selection is ordered by rank, and by creation among the templates of one of
the first two. -/
theorem sorted_pairwise_rank (selection : List Template) :
    (sorted selection).Pairwise fun t u =>
      t.rank ≤ u.rank ∧ (t.rank = u.rank → t.rank < 2 → Earlier t u) := by
  unfold sorted
  refine List.pairwise_map.mpr ((sorted_pairwise selection).imp fun {a b} h => ?_)
  rcases h with h | ⟨heq, h⟩
  · exact ⟨Nat.le_of_lt h, fun heq => absurd heq (Nat.ne_of_lt h)⟩
  · refine ⟨Nat.le_of_eq heq, fun _ hranked => ?_⟩
    rw [if_pos hranked] at h
    exact createdBefore_iff.mp h

/-! ## Explicit templates -/

/-- The positions of a selection ascend. -/
theorem numbered_pairwise (selection : List Template) :
    (numbered selection).Pairwise fun a b => a.1 < b.1 := by
  unfold numbered
  refine List.pairwise_map.mpr ?_
  rw [List.pairwise_iff_getElem]
  intro i j hi hj hij
  simpa using hij

/-- A position of a selection holds one template. -/
theorem eq_of_mem_numbered {a b : Nat × Template} (ha : a ∈ numbered selection)
    (hb : b ∈ numbered selection) (h : a.1 = b.1) : a = b := by
  obtain ⟨e, he, rfl⟩ := List.mem_map.mp ha
  obtain ⟨e', he', rfl⟩ := List.mem_map.mp hb
  rw [List.mem_zipIdx_iff_getElem?] at he he'
  have hindex : e.2 = e'.2 := h
  rw [hindex, he'] at he
  exact congrArg Prod.swap (Prod.ext (Option.some.inj he).symm hindex)

/-- The explicit templates of a sorted selection stand as they were selected. -/
theorem filter_sorted (selection : List Template) :
    (sorted selection).filter (·.rank = 2) = (distinct [] selection).filter (·.rank = 2) := by
  have hperm : (Ordered.sortBy precedes (numbered selection)).Perm (numbered selection) :=
    Ordered.sortBy_perm precedes (numbered selection)
  have hselected : ((numbered selection).filter fun e => e.2.rank = 2).Pairwise fun a b =>
      a.1 ≤ b.1 :=
    ((numbered_pairwise selection).imp Nat.le_of_lt).filter _
  have hsorted : ((Ordered.sortBy precedes (numbered selection)).filter fun e =>
      e.2.rank = 2).Pairwise fun a b => a.1 ≤ b.1 := by
    refine ((sorted_pairwise selection).filter _).imp_of_mem fun {a b} ha hb h => ?_
    have hra : a.2.rank = 2 := by simpa using (List.mem_filter.mp ha).2
    have hrb : b.2.rank = 2 := by simpa using (List.mem_filter.mp hb).2
    rcases h with h | ⟨_, h⟩
    · omega
    · rwa [if_neg (by omega)] at h
  -- The positions tell the templates apart, so that there is one way to put them in order.
  have hsame : (Ordered.sortBy precedes (numbered selection)).filter (fun e => e.2.rank = 2) =
      (numbered selection).filter fun e => e.2.rank = 2 := by
    refine (hperm.filter _).eq_of_pairwise (fun a b ha hb hab hba => ?_) hsorted hselected
    have ha' := hperm.mem_iff.mp (List.mem_filter.mp ha).1
    exact eq_of_mem_numbered ha' (List.mem_filter.mp hb).1 (Nat.le_antisymm hab hba)
  have htemplates := congrArg (List.map Prod.snd) hsame
  unfold sorted
  rw [List.filter_map]
  refine htemplates.trans ?_
  conv_rhs => rw [← map_snd_zipIdx_swap (distinct [] selection), List.filter_map]
  rfl

/-- The templates of some sort that are kept are those of that sort, each where it stands first, if
those with one identifier are of one sort. -/
theorem map_id_filter_distinct {p : Template → Bool}
    (hp : ∀ t ∈ l, ∀ u ∈ l, t.id = u.id → p t = p u) (seen : List TemplateId) :
    ((distinct seen l).filter p).map Template.id =
      (((l.filter p).map Template.id).filter fun id => !seen.contains id).eraseDups := by
  induction l generalizing seen with
  | nil => rfl
  | cons a rest ih =>
      have hrest := ih fun t ht u hu =>
        hp t (List.mem_cons_of_mem a ht) u (List.mem_cons_of_mem a hu)
      rw [distinct]
      by_cases hseen : a.id ∈ seen
      · rw [if_pos (List.contains_iff_mem.mpr hseen), hrest]
        cases hpa : p a <;> simp [hpa, hseen]
      · rw [if_neg fun h => hseen (List.contains_iff_mem.mp h)]
        cases hpa : p a with
        | true =>
            have hskip : ((rest.filter p).map Template.id).filter
                  (fun id => !(a.id :: seen).contains id) =
                (((rest.filter p).map Template.id).filter fun id => !seen.contains id).filter
                  fun id => !id == a.id := by
              rw [List.filter_filter]
              exact List.filter_congr fun id _ => by simp [Bool.not_or, Bool.beq_eq_decide_eq]
            rw [List.filter_cons_of_pos hpa, List.filter_cons_of_pos hpa, List.map_cons,
              List.map_cons, hrest, hskip, List.filter_cons_of_pos (by simpa using hseen),
              List.eraseDups_cons]
        | false =>
            -- No template of the sort has the identifier that is seen now.
            have hskip : ((rest.filter p).map Template.id).filter
                  (fun id => !(a.id :: seen).contains id) =
                ((rest.filter p).map Template.id).filter fun id => !seen.contains id := by
              refine List.filter_congr fun id hid => ?_
              obtain ⟨t, ht, rfl⟩ := List.mem_map.mp hid
              obtain ⟨ht, hpt⟩ := List.mem_filter.mp ht
              have hne : t.id ≠ a.id := by
                intro heq
                rw [hp t (List.mem_cons_of_mem a ht) a List.mem_cons_self heq, hpa] at hpt
                cases hpt
              simp [hne]
            rw [List.filter_cons_of_neg (by simp [hpa]), List.filter_cons_of_neg (by simp [hpa]),
              hrest, hskip]

/-- Identifiers without repetition stay as they are. -/
theorem eraseDups_of_nodup {ids : List TemplateId} (h : ids.Nodup) : ids.eraseDups = ids := by
  induction ids with
  | nil => rfl
  | cons id rest ih =>
      obtain ⟨hid, hrest⟩ := List.nodup_cons.mp h
      have hothers : rest.filter (fun other => !other == id) = rest := by
        refine List.filter_eq_self.mpr fun other hother => ?_
        have hne : other ≠ id := fun heq => hid (heq ▸ hother)
        simpa using hne
      rw [List.eraseDups_cons, hothers, ih hrest]

/-! ## Selections of a catalog -/

/-- The templates of a selection are those that a catalog holds under their identifiers. -/
def Chosen (c : Catalog) (selection : List Template) : Prop :=
  ∀ t ∈ selection, c.get? t.id = some t

section Catalog

variable {c : Catalog}

/-- A template that is chosen is known by its identifier. -/
theorem Chosen.eq_of_id (h : Chosen c selection) (ht : t ∈ selection) (hu : c.get? u.id = some u)
    (hid : t.id = u.id) : t = u := by
  have hfound := h t ht
  rw [hid, hu] at hfound
  exact (Option.some.inj hfound).symm

/-- What is sorted is what was chosen. -/
theorem Chosen.mem_sorted (h : Chosen c selection) : t ∈ sorted selection ↔ t ∈ selection := by
  constructor
  · exact mem_of_mem_sorted
  · intro ht
    have hid : t.id ∈ (sorted selection).map Template.id := by
      rw [← sortedIds_eq]
      exact mem_sortedIds.mpr ⟨t, ht, rfl⟩
    obtain ⟨u, hu, hid⟩ := List.mem_map.mp hid
    obtain rfl := h.eq_of_id (mem_of_mem_sorted hu) (h t ht) hid
    exact hu

/-- The explicit templates of a sorted selection stand where they are selected first. -/
theorem Chosen.map_id_explicit (h : Chosen c selection) :
    ((sorted selection).filter isExplicit).map Template.id = explicitIds selection := by
  have hfilter : (sorted selection).filter isExplicit =
      (distinct [] selection).filter isExplicit := by
    rw [isExplicit_eq]
    exact filter_sorted selection
  have hfirst := map_id_filter_distinct (p := isExplicit)
    (fun t ht u hu hid => by rw [h.eq_of_id ht (h u hu) hid]) []
  rw [hfilter, hfirst]
  unfold explicitIds
  simp

/-- Sorting gives the final order of a selection. -/
theorem inOrder_sortedIds (h : Chosen c selection) : InOrder selection (sortedIds selection) := by
  have hranked := sorted_pairwise_rank selection
  have hearlier : ∀ n < 2, ((sorted selection).filter (·.rank = n)).Pairwise Earlier := by
    intro n hn
    refine (hranked.filter _).imp_of_mem fun {t u} ht hu hbefore => ?_
    have hrt : t.rank = n := by simpa using (List.mem_filter.mp ht).2
    have hru : u.rank = n := by simpa using (List.mem_filter.mp hu).2
    exact hbefore.2 (hrt.trans hru.symm) (hrt ▸ hn)
  refine ⟨(sorted selection).filter (·.rank = 0), (sorted selection).filter (·.rank = 1), ?_,
    fun t => ?_, fun t => ?_, hearlier 0 (by decide), hearlier 1 (by decide)⟩
  · rw [← h.map_id_explicit, isExplicit_eq, ← List.map_append, ← List.map_append, sortedIds_eq,
      ← eq_filter_rank (hranked.imp And.left)]
  · rw [List.mem_filter, h.mem_sorted, decide_eq_true_eq, rank_eq_zero]
  · rw [List.mem_filter, h.mem_sorted, decide_eq_true_eq, rank_eq_one]

/-- The same templates with the same order of the explicit ones have the same final orders. -/
theorem InOrder.of_same {ids : List TemplateId} (h : InOrder other ids)
    (hmem : ∀ t, t ∈ other ↔ t ∈ selection)
    (hexplicit : explicitIds other = explicitIds selection) : InOrder selection ids := by
  obtain ⟨required, defaults, hids, hrequired, hdefaults, hfirst, hsecond⟩ := h
  refine ⟨required, defaults, hexplicit ▸ hids, fun t => ?_, fun t => ?_, hfirst, hsecond⟩
  · rw [hrequired, hmem]
  · rw [hdefaults, hmem]

/-- Two selections of a catalog with the same identifiers have the same templates. -/
theorem Chosen.mem_iff (h : Chosen c selection) (h' : Chosen c other)
    (hids : ∀ id, id ∈ other.map Template.id ↔ id ∈ selection.map Template.id) (t : Template) :
    t ∈ other ↔ t ∈ selection := by
  have hsub : ∀ {l l' : List Template}, Chosen c l → Chosen c l' →
      (∀ id, id ∈ l.map Template.id → id ∈ l'.map Template.id) → t ∈ l → t ∈ l' := by
    intro l l' hl hl' hids ht
    obtain ⟨u, hu, hid⟩ := List.mem_map.mp (hids t.id (List.mem_map_of_mem ht))
    obtain rfl := hl'.eq_of_id hu (hl t ht) hid
    exact hu
  exact ⟨hsub h' h fun id => (hids id).mp, hsub h h' fun id => (hids id).mpr⟩

/-- Selections of a catalog with the same identifiers and the same order of the explicit ones are
sorted alike. -/
theorem sortedIds_eq_of_same (h : Chosen c selection) (h' : Chosen c other)
    (hids : ∀ id, id ∈ other.map Template.id ↔ id ∈ selection.map Template.id)
    (hexplicit : explicitIds other = explicitIds selection) :
    sortedIds other = sortedIds selection :=
  ((inOrder_sortedIds h').of_same (h.mem_iff h' hids) hexplicit).unique (inOrder_sortedIds h)

/-- The explicit templates of a selection that is sorted before more is selected stand as in
one that is not. -/
theorem Chosen.explicitIds_sorted_append (h : Chosen c selection) (extra : List Template) :
    explicitIds (sorted selection ++ extra) = explicitIds (selection ++ extra) := by
  have hnodup : (explicitIds selection).Nodup := by
    rw [← h.map_id_explicit]
    exact (nodup_sorted selection).sublist (List.filter_sublist.map _)
  have hsplit : ∀ l : List Template,
      explicitIds (l ++ extra) = (((l.filter isExplicit).map Template.id).eraseDups ++
        (((extra.filter isExplicit).map Template.id).removeAll
          ((l.filter isExplicit).map Template.id)).eraseDups) := by
    intro l
    unfold explicitIds
    rw [List.filter_append, List.map_append, List.eraseDups_append]
  rw [hsplit, hsplit, h.map_id_explicit, eraseDups_of_nodup hnodup]
  refine congrArg _ (congrArg _ ?_)
  unfold List.removeAll
  refine List.filter_congr fun id _ => ?_
  unfold explicitIds
  simp [List.mem_eraseDups]

/-- What is selected from a catalog in two parts. -/
theorem Chosen.append (h : Chosen c selection) (h' : Chosen c other) :
    Chosen c (selection ++ other) :=
  fun t ht => (List.mem_append.mp ht).elim (h t) (h' t)

/-- A selection may be sorted before more is selected. -/
theorem Chosen.sortedIds_sorted_append (h : Chosen c selection) (h' : Chosen c other) :
    sortedIds (sorted selection ++ other) = sortedIds (selection ++ other) := by
  have hsorted : Chosen c (sorted selection) := fun t ht => h t (mem_of_mem_sorted ht)
  refine sortedIds_eq_of_same (h.append h') (hsorted.append h') (fun id => ?_)
    (h.explicitIds_sorted_append other)
  simp only [List.mem_map, List.mem_append, h.mem_sorted]

/-- Sorting a selection of a catalog names every template of it once, in the one order that required
and default templates have by creation and explicit ones by where they are selected first.  So a
sorted list stays as it is, and selections that differ in repetitions and in where the other
templates stand are sorted alike. -/
theorem sortedIds_determined (h : Chosen c selection) :
    (sortedIds selection).Nodup ∧
      (∀ id, id ∈ sortedIds selection ↔ id ∈ selection.map Template.id) ∧
      (∀ ids, InOrder selection ids ↔ ids = sortedIds selection) ∧
      sortedIds (c.present (sortedIds selection)) = sortedIds selection ∧
      ∀ other, Chosen c other →
        (∀ id, id ∈ other.map Template.id ↔ id ∈ selection.map Template.id) →
        explicitIds other = explicitIds selection →
        sortedIds other = sortedIds selection := by
  refine ⟨nodup_sortedIds selection, fun id => ?_, fun ids => ?_, ?_, fun other h' =>
    sortedIds_eq_of_same h h'⟩
  · rw [mem_sortedIds, List.mem_map]
  · constructor
    · exact fun hids => hids.unique (inOrder_sortedIds h)
    · rintro rfl
      exact inOrder_sortedIds h
  · rw [Catalog.present_sortedIds h, sortedIds_eq, sorted_sorted, sortedIds_eq]

end Catalog

end Template

namespace Sample

/-- A template of the sample with an identifier, the flags of a required or of a default one, and a
creation number. -/
def flagged (id : String) (required default : Bool) (created : Nat) : Template :=
  { template with id := ⟨id⟩, required, default, created }

/-- Required templates with one creation number, a default one and explicit ones, some of them
selected twice. -/
def mixed : List Template :=
  [flagged "z" false false 0, flagged "s" true true 1, flagged "f" false true 2,
    flagged "a" false false 0, flagged "r" true true 1, flagged "z" false false 0,
    flagged "f" false true 2]

/-- The catalog of these templates. -/
def mixedCatalog : Catalog :=
  SortedMap.ofList (mixed.map fun t => (t.id, t))

end Sample

/-- The required ones come in the order of their identifiers and the explicit ones as they were
selected, also if the others stand elsewhere between them. -/
theorem Template.sortedIds_determined_sample :
    Chosen Sample.mixedCatalog Sample.mixed ∧
      InOrder Sample.mixed [⟨"r"⟩, ⟨"s"⟩, ⟨"f"⟩, ⟨"z"⟩, ⟨"a"⟩] ∧
      sortedIds (Sample.mixed.rotateLeft 4) = sortedIds Sample.mixed := by
  have hchosen : Chosen Sample.mixedCatalog Sample.mixed := by
    unfold Chosen
    decide
  have hrotated : Chosen Sample.mixedCatalog (Sample.mixed.rotateLeft 4) := by
    unfold Chosen
    decide
  obtain ⟨_, _, horder, _, hsame⟩ := sortedIds_determined hchosen
  have hids : (Sample.mixed.rotateLeft 4).map Template.id ⊆ Sample.mixed.map Template.id := by
    decide
  have hids' : Sample.mixed.map Template.id ⊆ (Sample.mixed.rotateLeft 4).map Template.id := by
    decide
  refine ⟨hchosen, (horder _).mpr (by decide), hsame _ hrotated (fun id => ?_) (by decide)⟩
  exact ⟨fun h => hids h, fun h => hids' h⟩

end Fleet
