/-
# Files that occur again

The entries of the list of files are compared by their texts.  As long as no decimal number is in
them, entries are written alike exactly when they are equal as values, so that of equal entries the
first one stays and nothing else is lost.  Decimal numbers are left out because the two zeros are
equal and written differently.

Main statements: `Json.render_eq_iff_same`, `Json.distinctBy_eq_firstOccurrences`,
`Json.dedupesTo_dedupeFiles`.
-/
import Fleet.Proofs.Compact
import Fleet.Proofs.Composition
import Fleet.Proofs.Repeats

namespace Fleet

/-- Of two insertions under one key the second one counts. -/
theorem Assoc.insert_insert {κ ν : Type} [Key κ] (k : κ) (v w : ν) (l : List (κ × ν)) :
    insert k w (insert k v l) = insert k w l := by
  induction l with
  | nil => simp [insert]
  | cons e rest ih =>
      obtain ⟨k', v'⟩ := e
      simp only [insert]
      split
      · simp [insert]
      · split
        · simp [insert]
        · rename_i hlt hne
          rw [insert, if_neg hlt, if_neg hne, ih]

namespace Json

/-! ## Documents without decimal numbers -/

/-- All numbers of the document are integers. -/
inductive Integral : Json → Prop where
  | null : Integral null
  | bool (b : Bool) : Integral (bool b)
  | integer (n : Integer) : Integral (number (.integer n))
  | string (s : String) : Integral (string s)
  | array {items : List Json} (h : ∀ j ∈ items, Integral j) : Integral (array items)
  | object {members : List (String × Json)} (h : ∀ e ∈ members, Integral e.2) :
      Integral (object members)

variable {a b j : Json} {files : List Json}

/-- The numbers of items read back if those of each item do. -/
theorem itemsReadBack_of_forall {items : List Json} (h : ∀ j ∈ items, j.NumbersReadBack) :
    ItemsReadBack items := by
  induction items with
  | nil => trivial
  | cons j rest ih =>
      obtain ⟨hj, hrest⟩ := List.forall_mem_cons.mp h
      exact ⟨hj, ih hrest⟩

/-- The numbers of members read back if those of each member do. -/
theorem membersReadBack_of_forall {members : List (String × Json)}
    (h : ∀ e ∈ members, e.2.NumbersReadBack) : MembersReadBack members := by
  induction members with
  | nil => trivial
  | cons e rest ih =>
      obtain ⟨he, hrest⟩ := List.forall_mem_cons.mp h
      exact ⟨he, ih hrest⟩

/-- Integers read back. -/
theorem Integral.numbersReadBack (h : j.Integral) : j.NumbersReadBack := by
  induction h with
  | null | bool | string => trivial
  | integer n => exact Number.readsBack_integer n
  | array _ ih => exact itemsReadBack_of_forall ih
  | object _ ih => exact membersReadBack_of_forall ih

/-- Lists of equal values are the same if equal values are. -/
theorem eq_of_sameItems {items items' : List Json} (heq : ∀ j ∈ items, ∀ k, j.same k = true → j = k)
    (h : sameItems items items' = true) : items = items' := by
  induction items generalizing items' with
  | nil =>
      cases items' with
      | nil => rfl
      | cons k rest' => cases h
  | cons j rest ih =>
      cases items' with
      | nil => cases h
      | cons k rest' =>
          obtain ⟨hj, hrest⟩ := List.forall_mem_cons.mp heq
          rw [sameItems, Bool.and_eq_true] at h
          rw [hj k h.1, ih hrest h.2]

/-- Members with equal values are the same if equal values are. -/
theorem eq_of_sameMembers {members members' : List (String × Json)}
    (heq : ∀ e ∈ members, ∀ k, e.2.same k = true → e.2 = k)
    (h : sameMembers members members' = true) : members = members' := by
  induction members generalizing members' with
  | nil =>
      cases members' with
      | nil => rfl
      | cons e' rest' => cases h
  | cons e rest ih =>
      cases members' with
      | nil => cases h
      | cons e' rest' =>
          obtain ⟨he, hrest⟩ := List.forall_mem_cons.mp heq
          simp only [sameMembers, Bool.and_eq_true, beq_iff_eq] at h
          obtain ⟨⟨hname, hvalue⟩, hothers⟩ := h
          rw [Prod.ext hname (he e'.2 hvalue), ih hrest hothers]

/-- Values without decimal numbers are equal only if they are the same. -/
theorem Integral.eq_of_same (ha : a.Integral) (h : a.same b = true) : a = b := by
  induction ha generalizing b with
  | null =>
      cases b with
      | null => rfl
      | bool | number | string | array | object => cases h
  | bool x =>
      cases b with
      | bool y => rw [show x = y from beq_iff_eq.mp h]
      | null | number | string | array | object => cases h
  | integer n =>
      cases b with
      | number m =>
          cases m with
          | integer m => rw [show n = m from beq_iff_eq.mp h]
          | decimal x => cases h
      | null | bool | string | array | object => cases h
  | string s =>
      cases b with
      | string t => rw [show s = t from beq_iff_eq.mp h]
      | null | bool | number | array | object => cases h
  | array _ ih =>
      cases b with
      | array items' => rw [eq_of_sameItems (fun j hj k hk => ih j hj hk) h]
      | null | bool | number | string | object => cases h
  | object _ ih =>
      cases b with
      | object members' => rw [eq_of_sameMembers (fun e he k hk => ih e he hk) h]
      | null | bool | number | string | array => cases h

/-- Without decimal numbers, documents are written alike exactly when they are equal as values. -/
theorem render_eq_iff_same (ha : a.Canonical) (hb : b.Canonical) (hai : a.Integral)
    (hbi : b.Integral) : a.render = b.render ↔ a.same b = true := by
  constructor
  · intro h
    rw [eq_of_render_eq ha hb hai.numbersReadBack hbi.numbersReadBack h]
    exact same_refl b
  · intro h
    rw [hai.eq_of_same h]

/-- A member of a document without decimal numbers is without them. -/
theorem Integral.field? {v : Json} {name : String} (hj : j.Integral) (h : j.field? name = some v) :
    v.Integral := by
  cases hj with
  | null | bool | integer | string | array => cases h
  | object hmembers => exact hmembers _ (Assoc.mem_of_find? h)

/-! ## First occurrences -/

/-- The items of a list that equal none of the items before them. -/
def firstOccurrences (l : List Json) : List Json :=
  (l.zipIdx.filter fun e => !(l.take e.2).any e.1.same).map Prod.fst

section Distinct

variable {α : Type} {key : α → String} {seen : List String} {l : List α}

/-- Some of the items stay, in their order. -/
theorem distinctBy_sublist (key : α → String) (seen : List String) (l : List α) :
    (distinctBy key seen l).Sublist l := by
  induction l generalizing seen with
  | nil => exact .slnil
  | cons a rest ih =>
      rw [distinctBy]
      split
      · exact (ih seen).cons a
      · exact (ih _).cons_cons a

/-- The items that stay have different keys, which had not been seen. -/
theorem distinctBy_keys (key : α → String) (seen : List String) (l : List α) :
    (∀ a ∈ distinctBy key seen l, key a ∉ seen) ∧
      (distinctBy key seen l).Pairwise fun a b => key a ≠ key b := by
  induction l generalizing seen with
  | nil => exact ⟨by simp [distinctBy], .nil⟩
  | cons a rest ih =>
      rw [distinctBy]
      split
      · exact ih seen
      · rename_i hunseen
        obtain ⟨hfresh, hpairwise⟩ := ih (key a :: seen)
        refine ⟨?_, List.pairwise_cons.mpr ⟨?_, hpairwise⟩⟩
        · intro b hb
          rcases List.mem_cons.mp hb with rfl | hb
          · simpa using hunseen
          · exact fun hseen => hfresh b hb (List.mem_cons_of_mem _ hseen)
        · intro b hb heq
          exact hfresh b hb (heq ▸ List.mem_cons_self)

/-- Every key that had not been seen stays. -/
theorem exists_mem_distinctBy {a : α} (ha : a ∈ l) (hseen : key a ∉ seen) :
    ∃ b ∈ distinctBy key seen l, key a = key b := by
  induction l generalizing seen with
  | nil => cases ha
  | cons first rest ih =>
      rw [distinctBy]
      rcases List.mem_cons.mp ha with rfl | ha
      · rw [if_neg (by simpa using hseen)]
        exact ⟨a, List.mem_cons_self, rfl⟩
      · split
        · exact ih ha hseen
        · by_cases heq : key a = key first
          · exact ⟨first, List.mem_cons_self, heq⟩
          · have hunseen : key a ∉ key first :: seen := by simp [heq, hseen]
            obtain ⟨b, hb, hab⟩ := ih ha hunseen
            exact ⟨b, List.mem_cons_of_mem _ hb, hab⟩

/-- Items with different keys, none of which had been seen, all stay. -/
theorem distinctBy_eq_self (hseen : ∀ a ∈ l, key a ∉ seen)
    (hpairwise : l.Pairwise fun a b => key a ≠ key b) : distinctBy key seen l = l := by
  induction l generalizing seen with
  | nil => rfl
  | cons a rest ih =>
      obtain ⟨ha, hrest⟩ := List.forall_mem_cons.mp hseen
      obtain ⟨hhead, htail⟩ := List.pairwise_cons.mp hpairwise
      rw [distinctBy, if_neg (by simpa using ha), ih ?_ htail]
      intro b hb hmem
      rcases List.mem_cons.mp hmem with heq | hmem
      · exact hhead b hb heq.symm
      · exact hrest b hb hmem

/-- What is left stays when it is gone through again. -/
theorem distinctBy_distinctBy (key : α → String) (l : List α) :
    distinctBy key [] (distinctBy key [] l) = distinctBy key [] l :=
  distinctBy_eq_self (by simp) (distinctBy_keys key [] l).2

end Distinct

/-- Comparing by keys that tell items apart just as `same` does keeps the first occurrences. -/
theorem distinctBy_eq_fresh {key : Json → String} (front : List Json) {l : List Json}
    {seen : List String} (hkey : ∀ a ∈ l, ∀ b ∈ front ++ l, (key a = key b ↔ a.same b = true))
    (hseen : ∀ k, k ∈ seen ↔ k ∈ front.map key) :
    distinctBy key seen l =
      ((l.zipIdx front.length).filter fun e =>
        !((front ++ l).take e.2).any e.1.same).map Prod.fst := by
  induction l generalizing front seen with
  | nil => rfl
  | cons a rest ih =>
      have hrest : ∀ b ∈ rest, ∀ c ∈ (front ++ [a]) ++ rest, (key b = key c ↔ b.same c = true) := by
        intro b hb c hc
        rw [List.append_assoc] at hc
        exact hkey b (List.mem_cons_of_mem a hb) c hc
      have hlength : (front ++ [a]).length = front.length + 1 := by simp
      have hwhole : (front ++ [a]) ++ rest = front ++ a :: rest := by simp
      -- The item was seen if and only if it equals one before it.
      have hany : seen.contains (key a) = front.any a.same := by
        rw [Bool.eq_iff_iff, List.contains_iff_mem, hseen, List.mem_map, List.any_eq_true]
        refine exists_congr fun b => and_congr_right fun hb => ?_
        rw [← hkey a List.mem_cons_self b (List.mem_append_left _ hb), eq_comm]
      rw [distinctBy, List.zipIdx_cons, List.filter_cons, List.take_left, ← hany]
      cases hcontains : seen.contains (key a) with
      | true =>
          have hseen' : ∀ k, k ∈ seen ↔ k ∈ (front ++ [a]).map key := by
            intro k
            have ha : key a ∈ front.map key :=
              (hseen (key a)).mp (List.contains_iff_mem.mp hcontains)
            rw [hseen, List.map_append, List.map_singleton, List.mem_append, List.mem_singleton]
            exact ⟨Or.inl, fun hk => hk.elim id fun heq => heq ▸ ha⟩
          rw [if_pos rfl, ih _ hrest hseen', hlength, hwhole]
          simp
      | false =>
          have hseen' : ∀ k, k ∈ key a :: seen ↔ k ∈ (front ++ [a]).map key := by
            intro k
            rw [List.mem_cons, hseen, List.map_append, List.map_singleton, List.mem_append,
              List.mem_singleton, or_comm]
          rw [if_neg Bool.false_ne_true, ih _ hrest hseen', hlength, hwhole]
          simp

/-- Comparing by texts keeps the first occurrences of values without decimal numbers. -/
theorem distinctBy_eq_firstOccurrences (hcanonical : ∀ a ∈ files, a.Canonical)
    (hintegral : ∀ a ∈ files, a.Integral) : distinctBy render [] files = firstOccurrences files :=
  distinctBy_eq_fresh []
    (fun a ha b hb => render_eq_iff_same (hcanonical a ha) (hcanonical b hb) (hintegral a ha)
      (hintegral b hb))
    (by simp)

/-! ## The list of files -/

/-- A list holds the first ones of equal entries of another list, in their order: some of them, no
two of which are equal, and one for each of them. -/
structure KeepsFirst (files kept : List Json) : Prop where
  /-- An entry stays if and only if it equals none before it. -/
  eq : kept = firstOccurrences files
  /-- The entries that stay keep their order. -/
  sublist : kept.Sublist files
  /-- No two entries that stay are equal. -/
  distinct : kept.Pairwise fun a b => a.same b = false
  /-- Every entry equals one that stays. -/
  represented : ∀ a ∈ files, ∃ b ∈ kept, a.same b = true

/-- A document differs from another one only in that of equal entries of the list of files the
first one stays. -/
structure DedupesTo (j k : Json) : Prop where
  /-- It has its members in order. -/
  canonical : k.Canonical
  /-- It is an object if the other one is. -/
  isObject : k.isObject = j.isObject
  /-- It has the same members except for the files. -/
  others : ∀ name, name ≠ "files" → k.field? name = j.field? name
  /-- Without a list of files it is the same document. -/
  unlisted : (∀ files, j.field? "files" ≠ some (array files)) → k = j
  /-- From a list of files it keeps the first ones of equal entries. -/
  listed : ∀ files, j.field? "files" = some (array files) →
    ∃ kept, k.field? "files" = some (array kept) ∧ KeepsFirst files kept

/-- The entries left by comparing texts are the first ones of equal entries. -/
theorem keepsFirst_distinctBy (hcanonical : ∀ a ∈ files, a.Canonical)
    (hintegral : ∀ a ∈ files, a.Integral) : KeepsFirst files (distinctBy render [] files) := by
  have hsub := distinctBy_sublist render [] files
  have hiff : ∀ a ∈ files, ∀ b ∈ files, (a.render = b.render ↔ a.same b = true) := fun a ha b hb =>
    render_eq_iff_same (hcanonical a ha) (hcanonical b hb) (hintegral a ha) (hintegral b hb)
  refine ⟨distinctBy_eq_firstOccurrences hcanonical hintegral, hsub, ?_, ?_⟩
  · refine (distinctBy_keys render [] files).2.imp_of_mem fun {a b} ha hb hne => ?_
    rw [← Bool.not_eq_true, ← hiff a (hsub.subset ha) b (hsub.subset hb)]
    exact hne
  · intro a ha
    have hunseen : a.render ∉ [] := List.not_mem_nil
    obtain ⟨b, hb, hab⟩ := exists_mem_distinctBy ha hunseen
    exact ⟨b, hb, (hiff a ha b (hsub.subset hb)).mp hab⟩

/-- A document without a list of files is left alone. -/
theorem dedupeFiles_of_unlisted (h : ∀ files, j.field? "files" ≠ some (array files)) :
    j.dedupeFiles = j := by
  cases j with
  | null | bool | number | string | array => rfl
  | object members =>
      rw [dedupeFiles]
      split
      · rename_i files hfiles
        exact absurd hfiles (h files)
      · rfl

/-- A list of files is replaced by those of its entries that stay. -/
theorem dedupeFiles_of_listed (h : j.field? "files" = some (array files)) :
    ∃ members, j = object members ∧
      j.dedupeFiles =
        object (Assoc.insert "files" (array (distinctBy render [] files)) members) := by
  cases j with
  | null | bool | number | string | array => cases h
  | object members =>
      have hfind : Assoc.find? "files" members = some (array files) := h
      exact ⟨members, rfl, by rw [dedupeFiles, hfind]⟩

/-- Collapsing files twice is collapsing them once. -/
theorem dedupeFiles_dedupeFiles (j : Json) : j.dedupeFiles.dedupeFiles = j.dedupeFiles := by
  by_cases hlisted : ∃ files, j.field? "files" = some (array files)
  · obtain ⟨files, hfiles⟩ := hlisted
    obtain ⟨members, rfl, hdeduped⟩ := dedupeFiles_of_listed hfiles
    rw [hdeduped, dedupeFiles, Assoc.find?_insert_self]
    simp only
    rw [distinctBy_distinctBy, Assoc.insert_insert]
  · have hsame : j.dedupeFiles = j :=
      dedupeFiles_of_unlisted fun files hfiles => hlisted ⟨files, hfiles⟩
    rw [hsame, hsame]

/-- Of equal entries of the list of files the first one stays, and nothing else changes; entries are
written alike exactly when they are equal, and collapsing the files again changes nothing. -/
theorem dedupesTo_dedupeFiles (hj : j.Canonical) (hintegral : j.Integral) :
    DedupesTo j j.dedupeFiles ∧
      (∀ files, j.field? "files" = some (array files) →
        ∀ a ∈ files, ∀ b ∈ files, (a.render = b.render ↔ a.same b = true)) ∧
      j.dedupeFiles.dedupeFiles = j.dedupeFiles := by
  -- The entries of the list are in order and without decimal numbers as the whole document is.
  have hentries : ∀ files, j.field? "files" = some (array files) →
      ∀ a ∈ files, a.Canonical ∧ a.Integral := by
    intro files hfiles a ha
    have hcanonical : (array files).Canonical := hj.field? hfiles
    have hwhole : (array files).Integral := hintegral.field? hfiles
    cases hcanonical with
    | array hcanonical =>
        cases hwhole with
        | array hwhole => exact ⟨hcanonical a ha, hwhole a ha⟩
  refine ⟨?_, fun files hfiles a ha b hb => ?_, dedupeFiles_dedupeFiles j⟩
  · by_cases hlisted : ∃ files, j.field? "files" = some (array files)
    · obtain ⟨files, hfiles⟩ := hlisted
      obtain ⟨members, rfl, hdeduped⟩ := dedupeFiles_of_listed hfiles
      have hkept : KeepsFirst files (distinctBy render [] files) :=
        keepsFirst_distinctBy (fun a ha => (hentries files hfiles a ha).1)
          (fun a ha => (hentries files hfiles a ha).2)
      rw [hdeduped]
      refine ⟨?_, rfl, ?_, ?_, ?_⟩
      · refine canonical_insert hj (.array fun a ha => ?_)
        exact (hentries files hfiles a (hkept.sublist.subset ha)).1
      · intro name hname
        exact Assoc.find?_insert_ne (Ne.symm hname) _ members
      · intro hno
        exact absurd hfiles (hno files)
      · intro files' hfiles'
        rw [hfiles] at hfiles'
        cases hfiles'
        exact ⟨_, Assoc.find?_insert_self _ _ members, hkept⟩
    · have hsame : j.dedupeFiles = j :=
        dedupeFiles_of_unlisted fun files hfiles => hlisted ⟨files, hfiles⟩
      rw [hsame]
      exact ⟨hj, rfl, fun _ _ => rfl, fun _ => rfl,
        fun files hfiles => absurd ⟨files, hfiles⟩ hlisted⟩
  · obtain ⟨hacanonical, haintegral⟩ := hentries files hfiles a ha
    obtain ⟨hbcanonical, hbintegral⟩ := hentries files hfiles b hb
    exact render_eq_iff_same hacanonical hbcanonical haintegral hbintegral

/-- A document with files, of which the third one is the first one again, the fourth one has a
number where the first one has a text, and the last one has the text of a line break where the
second one has the break. -/
def filesSample : Json :=
  object [("files", array [
      object [("contents", string "1"), ("path", string "a")],
      object [("contents", string "\n"), ("path", string "b")],
      object [("contents", string "1"), ("path", string "a")],
      object [("contents", number (.integer ⟨1, by decide⟩)), ("path", string "a")],
      object [("contents", string "\\n"), ("path", string "b")]]),
    ("mode", array [null, null])]

/-- Only the third file goes. -/
theorem dedupesTo_dedupeFiles_sample :
    filesSample.Canonical ∧ filesSample.Integral ∧ DedupesTo filesSample filesSample.dedupeFiles ∧
      filesSample.dedupeFiles =
        object [("files", array [
            object [("contents", string "1"), ("path", string "a")],
            object [("contents", string "\n"), ("path", string "b")],
            object [("contents", number (.integer ⟨1, by decide⟩)), ("path", string "a")],
            object [("contents", string "\\n"), ("path", string "b")]]),
          ("mode", array [null, null])] := by
  have hobject : ∀ {members : List (String × Json)}, members.Pairwise (fun a b => a.1 < b.1) →
      (∀ e ∈ members, e.2.Canonical) → (object members).Canonical := fun hs hm => .object hs hm
  have hlt : "contents" < "path" := by decide
  have hfile : ∀ s t, (object [("contents", string s), ("path", string t)]).Canonical := fun s t =>
    hobject (List.pairwise_pair.mpr hlt) (by simp [Canonical.string])
  have hnumbered : ∀ n t, (object [("contents", number n), ("path", string t)]).Canonical :=
    fun n t => hobject (List.pairwise_pair.mpr hlt) (by simp [Canonical.number, Canonical.string])
  have hcanonical : filesSample.Canonical := hobject (by decide) (by
    simp [hfile, hnumbered, Canonical.array, Canonical.null])
  have hintegral : filesSample.Integral := .object (by
    simp [Integral.object, Integral.array, Integral.string, Integral.integer, Integral.null])
  exact ⟨hcanonical, hintegral, (dedupesTo_dedupeFiles hcanonical hintegral).1, by decide +kernel⟩

end Json

end Fleet
