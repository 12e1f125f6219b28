/-
# Merging in groups

Two documents are compatible if nowhere a list or an object of one meets something of another kind
in the other.  Merging compatible documents is associative, and what is merged stays compatible
with the rest, so that a sequence of fragments may be merged in groups.  The empty object adds
nothing on either side.

Main statements: `Json.Compatible.merge_left`, `Json.foldl_merge_of_pairwise`,
`Json.merge_assoc_of_compatible`.
-/
import Fleet.Proofs.Merging

namespace Fleet.Json

/-! ## Compatible documents -/

/-- A value that is neither an object nor a list. -/
def isLeaf (j : Json) : Bool :=
  !j.isObject && !j.isArray

/-- Two documents are compatible: both are objects and compatible under every name they share, or
both are lists, or neither is an object or a list. -/
inductive Compatible : Json → Json → Prop
  | objects {members members' : List (String × Json)}
    (h : ∀ name v w, Assoc.find? name members = some v → Assoc.find? name members' = some w →
      Compatible v w) : Compatible (object members) (object members')
  | arrays (items items' : List Json) : Compatible (array items) (array items')
  | leaves {a b : Json} (ha : a.isLeaf = true) (hb : b.isLeaf = true) : Compatible a b

variable {a b c : Json}

/-- The members of an object in order are in order. -/
theorem Canonical.sorted {members : List (String × Json)} (h : (Json.object members).Canonical) :
    Assoc.Sorted members := by
  cases h with
  | object hsorted _ => exact hsorted

/-- A value that is neither an object nor a list replaces what it is merged into. -/
theorem merge_of_isLeaf (hb : b.isLeaf = true) : merge a b = b := by
  cases b with
  | object | array => cases hb
  | null | bool | number | string => cases a <;> rfl

/-- What merged members hold under a name comes from one of the two, or is the merge of
what both hold. -/
theorem of_find?_mergeMembers {members members' : List (String × Json)} {name : String} {u : Json}
    (hsorted : Assoc.Sorted members')
    (h : Assoc.find? name (mergeMembers members members') = some u) :
    Assoc.find? name members = some u ∨ Assoc.find? name members' = some u ∨
      ∃ x y, Assoc.find? name members = some x ∧ Assoc.find? name members' = some y ∧
        u = merge x y := by
  rw [find?_mergeMembers hsorted] at h
  cases hx : Assoc.find? name members with
  | none =>
      rw [hx, Option.merge_none_left] at h
      exact Or.inr (Or.inl h)
  | some x =>
      cases hy : Assoc.find? name members' with
      | none =>
          rw [hx, hy, Option.merge_none_right] at h
          exact Or.inl h
      | some y =>
          rw [hx, hy] at h
          exact Or.inr (Or.inr ⟨x, y, rfl, rfl, (Option.some.inj h).symm⟩)

namespace Compatible

/-- Objects whose entries under one name are compatible are compatible. -/
theorem of_entries {members members' : List (String × Json)}
    (h : ∀ e ∈ members, ∀ e' ∈ members', e.1 = e'.1 → Compatible e.2 e'.2) :
    Compatible (object members) (object members') :=
  .objects fun name v w hv hw =>
    h (name, v) (Assoc.mem_of_find? hv) (name, w) (Assoc.mem_of_find? hw) rfl

/-- Compatibility has no direction. -/
theorem symm (h : Compatible a b) : Compatible b a := by
  induction h with
  | objects _ ih => exact .objects fun name v w hv hw => ih name w v hw hv
  | arrays items items' => exact .arrays items' items
  | leaves ha hb => exact .leaves hb ha

/-- What two documents are merged to is compatible with what they both are compatible with. -/
theorem merge_left (hb : b.Canonical) (hac : Compatible a c) (hbc : Compatible b c) :
    Compatible (merge a b) c := by
  induction hac generalizing b with
  | leaves ha hc =>
      cases hbc with
      | objects | arrays => cases hc
      | leaves hb _ =>
          rw [merge_of_isLeaf hb]
          exact .leaves hb hc
  | arrays items items'' =>
      cases hbc with
      | leaves _ hc => cases hc
      | arrays items' _ =>
          rw [merge]
          exact .arrays _ items''
  | @objects members members'' hac ih =>
      cases hbc with
      | leaves _ hc => cases hc
      | @objects members' _ hbc =>
          rw [merge]
          refine .objects fun name u w hu hw => ?_
          rcases of_find?_mergeMembers hb.sorted hu with hx | hy | ⟨x, y, hx, hy, rfl⟩
          · exact hac name u w hx hw
          · exact hbc name u w hy hw
          · exact ih name x w hx hw (hb.field? hy) (hbc name y w hy hw)

/-- What is compatible with two documents is compatible with what they are merged to. -/
theorem merge_right (hc : c.Canonical) (hab : Compatible a b) (hac : Compatible a c) :
    Compatible a (merge b c) :=
  (merge_left hc hab.symm hac.symm).symm

/-- Three compatible documents may be merged from either end. -/
theorem merge_merge (ha : a.Canonical) (hb : b.Canonical) (hc : c.Canonical) (hab : Compatible a b)
    (hac : Compatible a c) (hbc : Compatible b c) :
    merge (merge a b) c = merge a (merge b c) := by
  induction hbc generalizing a with
  | leaves _ hleaf => rw [merge_of_isLeaf hleaf, merge_of_isLeaf hleaf, merge_of_isLeaf hleaf]
  | arrays items' items'' =>
      cases hab with
      | leaves _ hb => cases hb
      | arrays items _ => rw [merge, merge, merge, merge, List.append_assoc]
  | @objects members' members'' _ ih =>
      cases hab with
      | leaves _ hb => cases hb
      | @objects members _ hab =>
          cases hac with
          | leaves _ hc => cases hc
          | objects hac =>
              rw [merge, merge, merge, merge]
              congr 1
              refine Assoc.ext_find? (sorted_mergeMembers (sorted_mergeMembers ha.sorted))
                (sorted_mergeMembers ha.sorted) fun name => ?_
              rw [find?_mergeMembers hc.sorted, find?_mergeMembers hb.sorted,
                find?_mergeMembers (sorted_mergeMembers hb.sorted), find?_mergeMembers hc.sorted]
              -- Only a name that all three share takes a merge of their values.
              cases hx : Assoc.find? name members with
              | none => simp
              | some x =>
                  cases hy : Assoc.find? name members' with
                  | none => simp
                  | some y =>
                      cases hz : Assoc.find? name members'' with
                      | none => simp
                      | some z =>
                          exact congrArg some (ih name y z hy hz (ha.field? hx) (hb.field? hy)
                            (hc.field? hz) (hab name x y hx hy) (hac name x z hx hz))

end Compatible

/-! ## Sequences -/

/-- Documents in order merge to a document in order. -/
theorem Canonical.merge (ha : a.Canonical) (hb : b.Canonical) : (Json.merge a b).Canonical := by
  induction hb generalizing a with
  | null | bool | number | string =>
      rw [merge_of_isLeaf rfl]
      constructor
  | @array items' hitems' ih =>
      cases ha with
      | null | bool | number | string | object => exact .array hitems'
      | @array items hitems =>
          rw [Json.merge]
          exact .array fun j hj => (List.mem_append.mp hj).elim (hitems j) (hitems' j)
  | @object members' hsorted' hmembers' ih =>
      cases ha with
      | null | bool | number | string | array => exact .object hsorted' hmembers'
      | @object members hsorted hmembers =>
          rw [Json.merge]
          have hmerged : Assoc.Sorted (mergeMembers members members') := sorted_mergeMembers hsorted
          refine .object hmerged fun e he => ?_
          rcases of_find?_mergeMembers hsorted' (Assoc.find?_of_mem hmerged he) with
            hx | hy | ⟨x, y, hx, hy, heq⟩
          · exact hmembers _ (Assoc.mem_of_find? hx)
          · exact hmembers' _ (Assoc.mem_of_find? hy)
          · rw [heq]
            exact ih _ (Assoc.mem_of_find? hy) (hmembers _ (Assoc.mem_of_find? hx))

/-- A sequence of compatible fragments may be merged before it is merged into a document. -/
theorem foldl_merge_of_pairwise (rest : List Json)
    (hcanonical : ∀ part ∈ a :: b :: rest, part.Canonical)
    (hcompatible : (a :: b :: rest).Pairwise Compatible) :
    (b :: rest).foldl merge a = merge a (rest.foldl merge b) := by
  induction rest generalizing b with
  | nil => rfl
  | cons c rest ih =>
      have ha : a.Canonical := hcanonical a (by simp)
      have hb : b.Canonical := hcanonical b (by simp)
      have hc : c.Canonical := hcanonical c (by simp)
      simp only [List.forall_mem_cons] at hcanonical
      simp only [List.pairwise_cons, List.forall_mem_cons] at hcompatible
      obtain ⟨⟨hab, hac, harest⟩, ⟨hbc, hbrest⟩, hcrest, hrest⟩ := hcompatible
      -- The first two fragments are merged first; what they make is compatible with the others.
      have hregrouped : (merge b c :: rest).foldl merge a =
          merge a (rest.foldl merge (merge b c)) := by
        refine ih ?_ ?_
        · simp only [List.forall_mem_cons]
          exact ⟨ha, hb.merge hc, hcanonical.2.2.2⟩
        · simp only [List.pairwise_cons, List.forall_mem_cons]
          exact ⟨⟨hab.merge_right hc hac, harest⟩,
            fun part hpart => .merge_left hc (hbrest part hpart) (hcrest part hpart), hrest⟩
      rw [List.foldl_cons] at hregrouped
      rw [List.foldl_cons, List.foldl_cons, List.foldl_cons,
        Compatible.merge_merge ha hb hc hab hac hbc, hregrouped]

/-! ## Associativity -/

/-- Merging pairwise compatible documents is associative, and the empty object is neutral on either
side of an object. -/
theorem merge_assoc_of_compatible :
    (∀ a b c : Json, a.Canonical → b.Canonical → c.Canonical → Compatible a b → Compatible a c →
      Compatible b c → merge (merge a b) c = merge a (merge b c)) ∧
    ∀ members : List (String × Json), (object members).Canonical →
      merge (object members) emptyObject = object members ∧
        merge emptyObject (object members) = object members := by
  refine ⟨fun a b c ha hb hc hab hac hbc => Compatible.merge_merge ha hb hc hab hac hbc,
    fun members hmembers => ⟨?_, merge_emptyObject hmembers⟩⟩
  show merge (object members) (object []) = object members
  rw [merge, mergeMembers]

/-- A document with a list and an object. -/
def lowerSample : Json :=
  object [("dns", array [string "a"]), ("radio", object [("channel", string "1")])]

/-- A document that shares names with it. -/
def middleSample : Json :=
  object [("dns", array [string "b"]), ("radio", object [("power", string "2")])]

/-- A document that shares names with both, also within the object. -/
def upperSample : Json :=
  object [("radio", object [("channel", null), ("power", string "3")]), ("zone", string "z")]

/-- The three documents are compatible; in whatever groups they are merged, the lists lie one behind
the other and the last values of the object stay. -/
theorem merge_assoc_of_compatible_sample :
    (lowerSample.Canonical ∧ middleSample.Canonical ∧ upperSample.Canonical) ∧
      (Compatible lowerSample middleSample ∧ Compatible lowerSample upperSample ∧
        Compatible middleSample upperSample) ∧
      merge (merge lowerSample middleSample) upperSample =
        merge lowerSample (merge middleSample upperSample) ∧
      merge lowerSample (merge middleSample upperSample) =
        object [("dns", array [string "a", string "b"]),
          ("radio", object [("channel", null), ("power", string "3")]), ("zone", string "z")] ∧
      merge lowerSample emptyObject = lowerSample ∧
      merge emptyObject lowerSample = lowerSample := by
  have hobject : ∀ {members : List (String × Json)}, members.Pairwise (fun a b => a.1 < b.1) →
      (∀ e ∈ members, e.2.Canonical) → (object members).Canonical := fun hs hm => .object hs hm
  have hlist : ∀ s, (array [string s]).Canonical := fun s => .array (by simp [Canonical.string])
  have hsingle : ∀ name s, (object [(name, string s)]).Canonical := fun name s =>
    hobject (List.pairwise_singleton _ _) (by simp [Canonical.string])
  have hpair : (object [("channel", null), ("power", string "3")]).Canonical :=
    hobject (by decide) (by simp [Canonical.null, Canonical.string])
  have ha : lowerSample.Canonical := hobject (by decide) (by simp [hlist, hsingle])
  have hb : middleSample.Canonical := hobject (by decide) (by simp [hlist, hsingle])
  have hc : upperSample.Canonical := hobject (by decide) (by simp [hpair, Canonical.string])
  have hleaf : ∀ {a b : Json}, a.isLeaf = true → b.isLeaf = true → Compatible a b := .leaves
  have hab : Compatible lowerSample middleSample :=
    .of_entries (by simp [Compatible.arrays, Compatible.of_entries])
  have hac : Compatible lowerSample upperSample :=
    .of_entries (by simp [Compatible.of_entries, hleaf, isLeaf, isObject, isArray])
  have hbc : Compatible middleSample upperSample :=
    .of_entries (by simp [Compatible.of_entries, hleaf, isLeaf, isObject, isArray])
  exact ⟨⟨ha, hb, hc⟩, ⟨hab, hac, hbc⟩, merge_assoc_of_compatible.1 _ _ _ ha hb hc hab hac hbc,
    by decide, merge_assoc_of_compatible.2 _ ha⟩

end Fleet.Json
