/-
# Values and keys of sorted maps

What is listed by `values` and `keys` is exactly what `get?` finds, how the keys change when an
entry is inserted or erased, and what is found after one map is written over another.
-/
import Fleet.Assoc

namespace Fleet

/-! ## Keys that ascend -/

namespace Key

variable {κ : Type} [Key κ] {l l' : List κ}

/-- Keys that ascend strictly differ. -/
theorem nodup_of_ascending (h : l.Pairwise fun a b => text a < text b) : l.Nodup := by
  refine h.imp ?_
  intro a b hab heq
  rw [heq] at hab
  exact String.lt_irrefl _ hab

/-- Keys that ascend strictly are determined by which they are. -/
theorem eq_of_ascending (h : l.Pairwise fun a b => text a < text b)
    (h' : l'.Pairwise fun a b => text a < text b) (hmem : ∀ k, k ∈ l ↔ k ∈ l') : l = l' := by
  have hperm : l.Perm l' :=
    (List.perm_ext_iff_of_nodup (nodup_of_ascending h) (nodup_of_ascending h')).mpr hmem
  refine hperm.eq_of_pairwise ?_ h h'
  intro a b _ _ hab hba
  exact absurd (String.lt_trans hab hba) (String.lt_irrefl _)

end Key

namespace SortedMap

variable {κ ν : Type} [Key κ]

/-! ## Values and keys -/

/-- The entries are what is found. -/
theorem get?_eq_some_iff {m : SortedMap κ ν} {k : κ} {v : ν} :
    m.get? k = some v ↔ (k, v) ∈ m.entries :=
  ⟨Assoc.mem_of_find?, Assoc.find?_of_mem m.sorted⟩

/-- The values are what is found. -/
theorem mem_values {m : SortedMap κ ν} {v : ν} : v ∈ m.values ↔ ∃ k, m.get? k = some v := by
  constructor
  · intro h
    obtain ⟨⟨k, w⟩, he, rfl⟩ := List.mem_map.mp h
    exact ⟨k, get?_eq_some_iff.mpr he⟩
  · rintro ⟨k, hk⟩
    exact List.mem_map.mpr ⟨(k, v), get?_eq_some_iff.mp hk, rfl⟩

/-- A key is not contained when it has no value. -/
theorem contains_eq_false {m : SortedMap κ ν} {k : κ} : m.contains k = false ↔ m.get? k = none := by
  rw [contains, Option.isSome_eq_false_iff, Option.isNone_iff_eq_none]

/-- The keys ascend strictly. -/
theorem sorted_keys (m : SortedMap κ ν) : m.keys.Pairwise fun a b => Key.text a < Key.text b := by
  unfold keys
  rw [List.pairwise_map]
  exact m.sorted

/-- The keys of different entries differ. -/
theorem keys_nodup (m : SortedMap κ ν) : m.keys.Nodup :=
  Key.nodup_of_ascending m.sorted_keys

/-- A map without entries has no keys. -/
theorem isEmpty_iff {m : SortedMap κ ν} : m.isEmpty = true ↔ ∀ k, k ∉ m.keys := by
  unfold isEmpty keys
  cases h : m.entries with
  | nil => simp
  | cons e rest =>
      simp only [List.isEmpty_cons, Bool.false_eq_true, List.map_cons, false_iff]
      intro hno
      exact hno e.1 List.mem_cons_self

variable [DecidableEq κ]

/-- The keys after an insertion. -/
theorem mem_keys_insert {m : SortedMap κ ν} {k q : κ} {v : ν} :
    q ∈ (m.insert k v).keys ↔ q = k ∨ q ∈ m.keys := by
  rw [mem_keys, mem_keys]
  by_cases h : k = q
  · subst h
    simp
  · rw [get?_insert_ne h]
    simp [Ne.symm h]

/-- The keys after an erasure. -/
theorem mem_keys_erase {m : SortedMap κ ν} {k q : κ} :
    q ∈ (m.erase k).keys ↔ q ≠ k ∧ q ∈ m.keys := by
  rw [mem_keys, mem_keys]
  by_cases h : k = q
  · subst h
    simp
  · rw [get?_erase_ne h]
    simp [Ne.symm h]

/-- The keys after insertions. -/
theorem mem_keys_insertAll {entries : List (κ × ν)} {q : κ} :
    ∀ {m : SortedMap κ ν},
      q ∈ (m.insertAll entries).keys ↔ q ∈ entries.map Prod.fst ∨ q ∈ m.keys := by
  induction entries with
  | nil =>
      intro m
      exact ⟨Or.inr, fun h => h.resolve_left List.not_mem_nil⟩
  | cons e rest ih =>
      intro m
      show q ∈ ((m.insert e.1 e.2).insertAll rest).keys ↔ _
      rw [ih, mem_keys_insert, List.map_cons, List.mem_cons, or_left_comm, or_assoc]

/-- The keys of a list of entries. -/
theorem mem_keys_ofList {entries : List (κ × ν)} {q : κ} :
    q ∈ (ofList entries).keys ↔ q ∈ entries.map Prod.fst := by
  unfold ofList
  rw [mem_keys_insertAll]
  exact or_iff_left List.not_mem_nil

/-- Inserting what is there changes nothing. -/
theorem insert_eq_self {m : SortedMap κ ν} {k : κ} {v : ν} (h : m.get? k = some v) :
    m.insert k v = m := by
  apply ext_get?
  intro q
  rw [get?_insert]
  split
  · rename_i hq
    rw [← hq, h]
  · rfl

/-- Of two insertions under one key the second one counts. -/
theorem insert_insert (m : SortedMap κ ν) (k : κ) (v w : ν) :
    (m.insert k v).insert k w = m.insert k w := by
  apply ext_get?
  intro q
  simp only [get?_insert]
  split <;> rfl

/-! ## Maps written over one another -/

/-- Entries with different keys are found where they are written over a map. -/
theorem get?_insertAll_of_nodup {entries : List (κ × ν)} (hentries : (entries.map Prod.fst).Nodup)
    (m : SortedMap κ ν) (k : κ) :
    (m.insertAll entries).get? k = (entries.lookup k).or (m.get? k) := by
  induction entries generalizing m with
  | nil => rfl
  | cons e rest ih =>
      obtain ⟨first, v⟩ := e
      obtain ⟨hfirst, hrest⟩ := List.nodup_cons.mp hentries
      show ((m.insert first v).insertAll rest).get? k = _
      rw [ih hrest, get?_insert, List.lookup_cons]
      by_cases hk : first = k
      · subst hk
        have hnone : rest.lookup first = none := by
          rw [List.lookup_eq_none_iff]
          intro e he
          have hne : first ≠ e.1 := fun heq => hfirst (List.mem_map.mpr ⟨e, he, heq.symm⟩)
          simpa using hne
        simp [hnone]
      · have hbeq : (k == first) = false := beq_false_of_ne (Ne.symm hk)
        rw [hbeq, if_neg hk]

/-- Of two maps written over one another the upper one comes first. -/
theorem get?_union (m upper : SortedMap κ ν) (k : κ) :
    (m.union upper).get? k = (upper.get? k).or (m.get? k) := by
  have hlookup : ∀ entries : List (κ × ν), entries.lookup k = Assoc.find? k entries := by
    intro entries
    induction entries with
    | nil => rfl
    | cons e rest ih =>
        rw [List.lookup_cons, Assoc.find?, ih]
        by_cases hk : e.1 = k
        · simp [hk]
        · have htext : Key.text e.1 ≠ Key.text k := fun heq => hk (Key.text_injective heq)
          rw [beq_false_of_ne (Ne.symm hk), if_neg htext]
  show (m.insertAll upper.entries).get? k = _
  rw [get?_insertAll_of_nodup upper.keys_nodup, hlookup]
  rfl

end SortedMap

end Fleet
