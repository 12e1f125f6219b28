/-
# Sorted association lists and maps

Entries of a map are kept strictly sorted by the text of their key, so that two maps with the
same entries are equal.  Text is ordered by code points, which is the order of its UTF-8 bytes.
`SortedMap` carries the order in its type; the functions on bare lists serve the members of a
JSON object, which cannot.

Main statements: `Assoc.find?_insert`, `Assoc.find?_erase_self`, `Assoc.find?_erase_ne`,
`SortedMap.ext_get?`.
-/
namespace Fleet

/-! ## Keys -/

/-- A type of keys: each key is determined by its text. -/
class Key (κ : Type) where
  /-- The text by which keys are ordered. -/
  text : κ → String
  /-- Different keys have different texts. -/
  text_injective : ∀ {a b : κ}, text a = text b → a = b

instance : Key String where
  text := id
  text_injective := id

/-- Keys are equal when their texts are. -/
theorem Key.text_inj {κ : Type} [Key κ] {a b : κ} : Key.text a = Key.text b ↔ a = b :=
  ⟨Key.text_injective, fun h => h ▸ rfl⟩

/-! ## Association lists -/

namespace Assoc

variable {κ ν : Type} [Key κ]

/-- The keys ascend strictly. -/
def Sorted (l : List (κ × ν)) : Prop :=
  l.Pairwise fun a b => Key.text a.1 < Key.text b.1

/-- The value of the first entry with this key. -/
def find? (k : κ) : List (κ × ν) → Option ν
  | [] => none
  | (k', v) :: rest => if Key.text k' = Key.text k then some v else find? k rest

/-- Puts an entry at its place, replacing one with the same key. -/
def insert (k : κ) (v : ν) : List (κ × ν) → List (κ × ν)
  | [] => [(k, v)]
  | (k', v') :: rest =>
    if Key.text k < Key.text k' then (k, v) :: (k', v') :: rest
    else if Key.text k = Key.text k' then (k, v) :: rest
    else (k', v') :: insert k v rest

/-- Drops the entries with this key. -/
def erase (k : κ) (l : List (κ × ν)) : List (κ × ν) :=
  l.filter fun e => decide (Key.text e.1 ≠ Key.text k)

/-- Inserts entries one after the other, so that the last one with a key stays. -/
def insertAll (l : List (κ × ν)) (entries : List (κ × ν)) : List (κ × ν) :=
  entries.foldl (fun acc e => insert e.1 e.2 acc) l

/-- An inserted key is found. -/
theorem find?_insert_self (k : κ) (v : ν) (l : List (κ × ν)) :
    find? k (insert k v l) = some v := by
  induction l with
  | nil => simp [insert, find?]
  | cons e rest ih =>
    obtain ⟨k', v'⟩ := e
    simp only [insert]
    split
    · simp [find?]
    · split
      · simp [find?]
      · rename_i h
        simp [find?, Ne.symm h, ih]

/-- Other keys are found as before. -/
theorem find?_insert_ne {k q : κ} (h : k ≠ q) (v : ν) (l : List (κ × ν)) :
    find? q (insert k v l) = find? q l := by
  have hk : Key.text k ≠ Key.text q := fun e => h (Key.text_injective e)
  induction l with
  | nil => simp [insert, find?, hk]
  | cons e rest ih =>
    obtain ⟨k', v'⟩ := e
    simp only [insert]
    split
    · simp [find?, hk]
    · split
      · rename_i he
        simp [find?, hk, ← he]
      · simp [find?, ih]

/-- Looking up after an insertion. -/
theorem find?_insert [DecidableEq κ] (k q : κ) (v : ν) (l : List (κ × ν)) :
    find? q (insert k v l) = if k = q then some v else find? q l := by
  split
  · rename_i h
    subst h
    exact find?_insert_self k v l
  · exact find?_insert_ne ‹_› v l

/-- An erased key is not found. -/
theorem find?_erase_self (k : κ) (l : List (κ × ν)) : find? k (erase k l) = none := by
  induction l with
  | nil => rfl
  | cons e rest ih =>
    obtain ⟨k', v'⟩ := e
    by_cases h : Key.text k' = Key.text k
    · simpa [erase, h] using ih
    · simpa [erase, h, find?] using ih

/-- Erasing leaves the other keys. -/
theorem find?_erase_ne {k q : κ} (h : k ≠ q) (l : List (κ × ν)) :
    find? q (erase k l) = find? q l := by
  induction l with
  | nil => rfl
  | cons e rest ih =>
    obtain ⟨k', v'⟩ := e
    by_cases hk : Key.text k' = Key.text k
    · have hq : Key.text k' ≠ Key.text q := fun e =>
        h (Key.text_injective (hk.symm.trans e))
      rw [show erase k ((k', v') :: rest) = erase k rest by simp [erase, hk], ih]
      simp [find?, hq]
    · rw [show erase k ((k', v') :: rest) = (k', v') :: erase k rest by simp [erase, hk]]
      simp only [find?, ih]

/-- Every entry after an insertion is the new one or an old one. -/
theorem mem_insert {k : κ} {v : ν} {e : κ × ν} {l : List (κ × ν)} (h : e ∈ insert k v l) :
    e = (k, v) ∨ e ∈ l := by
  induction l with
  | nil => simpa [insert] using h
  | cons x rest ih =>
    obtain ⟨k', v'⟩ := x
    simp only [insert] at h
    split at h
    · simpa using h
    · split at h
      · rcases List.mem_cons.mp h with h | h
        · exact Or.inl h
        · exact Or.inr (List.mem_cons_of_mem _ h)
      · rcases List.mem_cons.mp h with h | h
        · exact Or.inr (h ▸ List.mem_cons_self)
        · rcases ih h with h | h
          · exact Or.inl h
          · exact Or.inr (List.mem_cons_of_mem _ h)

/-- Insertion keeps the order. -/
theorem sorted_insert {l : List (κ × ν)} (hl : Sorted l) (k : κ) (v : ν) :
    Sorted (insert k v l) := by
  induction l with
  | nil => exact List.pairwise_singleton _ _
  | cons e rest ih =>
    obtain ⟨k', v'⟩ := e
    obtain ⟨hhead, hrest⟩ := List.pairwise_cons.mp hl
    simp only [insert]
    split
    · rename_i hlt
      refine List.pairwise_cons.mpr ⟨fun x hx => ?_, hl⟩
      rcases List.mem_cons.mp hx with rfl | hx
      · exact hlt
      · exact String.lt_trans hlt (hhead x hx)
    · rename_i hge
      split
      · rename_i heq
        exact List.pairwise_cons.mpr ⟨fun x hx => heq ▸ hhead x hx, hrest⟩
      · rename_i hne
        refine List.pairwise_cons.mpr ⟨fun x hx => ?_, ih hrest⟩
        rcases mem_insert hx with rfl | hx
        · rcases Decidable.em (Key.text k' < Key.text k) with h | h
          · exact h
          · exact absurd (String.le_antisymm h hge) hne
        · exact hhead x hx

/-- Erasing keeps the order. -/
theorem sorted_erase {l : List (κ × ν)} (hl : Sorted l) (k : κ) : Sorted (erase k l) :=
  List.Pairwise.filter _ hl

/-- Inserting many entries keeps the order. -/
theorem sorted_insertAll {l : List (κ × ν)} (hl : Sorted l) (entries : List (κ × ν)) :
    Sorted (insertAll l entries) := by
  unfold insertAll
  induction entries generalizing l with
  | nil => exact hl
  | cons e rest ih => exact ih (sorted_insert hl e.1 e.2)

/-- What is found is an entry. -/
theorem mem_of_find? {k : κ} {v : ν} {l : List (κ × ν)} (h : find? k l = some v) :
    (k, v) ∈ l := by
  induction l with
  | nil => simp [find?] at h
  | cons e rest ih =>
    obtain ⟨k', v'⟩ := e
    simp only [find?] at h
    split at h
    · rename_i hk
      cases h
      rw [Key.text_injective hk]
      exact List.mem_cons_self
    · exact List.mem_cons_of_mem _ (ih h)

/-- In a sorted list every entry is found by its key. -/
theorem find?_of_mem {k : κ} {v : ν} {l : List (κ × ν)} (hl : Sorted l) (h : (k, v) ∈ l) :
    find? k l = some v := by
  induction l with
  | nil => simp at h
  | cons e rest ih =>
    obtain ⟨k', v'⟩ := e
    obtain ⟨hhead, hrest⟩ := List.pairwise_cons.mp hl
    rcases List.mem_cons.mp h with h | h
    · cases h
      simp [find?]
    · have hk : Key.text k' ≠ Key.text k := fun he =>
        String.lt_irrefl (Key.text k) (he ▸ hhead (k, v) h)
      simp only [find?, if_neg hk]
      exact ih hrest h

/-- Sorted lists with the same look-ups are equal. -/
theorem ext_find? {l₁ l₂ : List (κ × ν)} (h₁ : Sorted l₁) (h₂ : Sorted l₂)
    (h : ∀ k, find? k l₁ = find? k l₂) : l₁ = l₂ := by
  have entries_of : ∀ {a b : List (κ × ν)}, Sorted b → (∀ k, find? k a = find? k b) →
      Sorted a → ∀ e, e ∈ a → e ∈ b := fun _ hab ha e he =>
    mem_of_find? ((hab e.1).symm.trans (find?_of_mem ha he))
  have hsub := entries_of h₂ h h₁
  have hsup := entries_of h₁ (fun k => (h k).symm) h₂
  clear entries_of h
  induction l₁ generalizing l₂ with
  | nil =>
    cases l₂ with
    | nil => rfl
    | cons e _ => exact absurd (hsup e List.mem_cons_self) (by simp)
  | cons a as ih =>
    cases l₂ with
    | nil => exact absurd (hsub a List.mem_cons_self) (by simp)
    | cons b bs =>
      obtain ⟨ha, has⟩ := List.pairwise_cons.mp h₁
      obtain ⟨hb, hbs⟩ := List.pairwise_cons.mp h₂
      have hab : a = b := by
        rcases List.mem_cons.mp (hsub a List.mem_cons_self) with h | h
        · exact h
        · rcases List.mem_cons.mp (hsup b List.mem_cons_self) with h' | h'
          · exact h'.symm
          · exact absurd (hb a h) (String.lt_asymm (ha b h'))
      subst hab
      have tail_sub : ∀ {xs ys : List (κ × ν)}, (∀ x ∈ xs, Key.text a.1 < Key.text x.1) →
          (∀ e, e ∈ a :: xs → e ∈ a :: ys) → ∀ e, e ∈ xs → e ∈ ys := by
        intro xs ys hx hs e he
        rcases List.mem_cons.mp (hs e (List.mem_cons_of_mem _ he)) with h | h
        · subst h
          exact absurd (hx _ he) (String.lt_irrefl _)
        · exact h
      rw [ih has hbs (tail_sub ha hsub) (tail_sub hb hsup)]

end Assoc

/-! ## Maps -/

/-- A finite map whose entries ascend by key. -/
structure SortedMap (κ ν : Type) [Key κ] where
  /-- The entries, ascending. -/
  entries : List (κ × ν)
  /-- The keys ascend strictly. -/
  sorted : Assoc.Sorted entries

namespace SortedMap

variable {κ ν : Type} [Key κ]

/-- The map without entries. -/
def empty : SortedMap κ ν := ⟨[], List.Pairwise.nil⟩

instance : Inhabited (SortedMap κ ν) := ⟨empty⟩

instance : EmptyCollection (SortedMap κ ν) := ⟨empty⟩

/-- Maps are equal when their entries are. -/
theorem ext_entries {a b : SortedMap κ ν} (h : a.entries = b.entries) : a = b := by
  cases a
  cases b
  cases h
  rfl

instance [DecidableEq κ] [DecidableEq ν] : DecidableEq (SortedMap κ ν) := fun a b =>
  if h : a.entries = b.entries then isTrue (ext_entries h)
  else isFalse fun e => h (e ▸ rfl)

/-- The value of a key. -/
def get? (m : SortedMap κ ν) (k : κ) : Option ν :=
  Assoc.find? k m.entries

/-- Whether a key has a value. -/
def contains (m : SortedMap κ ν) (k : κ) : Bool :=
  (m.get? k).isSome

/-- Gives a key a value. -/
def insert (m : SortedMap κ ν) (k : κ) (v : ν) : SortedMap κ ν :=
  ⟨Assoc.insert k v m.entries, Assoc.sorted_insert m.sorted k v⟩

/-- Takes the value of a key away. -/
def erase (m : SortedMap κ ν) (k : κ) : SortedMap κ ν :=
  ⟨Assoc.erase k m.entries, Assoc.sorted_erase m.sorted k⟩

/-- Writes entries into the map, the later ones over the earlier. -/
def insertAll (m : SortedMap κ ν) (entries : List (κ × ν)) : SortedMap κ ν :=
  ⟨Assoc.insertAll m.entries entries, Assoc.sorted_insertAll m.sorted entries⟩

/-- The map of a list of entries, of which the last one with a key counts. -/
def ofList (entries : List (κ × ν)) : SortedMap κ ν :=
  empty.insertAll entries

/-- Writes one map over another. -/
def union (m upper : SortedMap κ ν) : SortedMap κ ν :=
  m.insertAll upper.entries

/-- The keys, ascending. -/
def keys (m : SortedMap κ ν) : List κ :=
  m.entries.map Prod.fst

/-- The values, by ascending key. -/
def values (m : SortedMap κ ν) : List ν :=
  m.entries.map Prod.snd

/-- The number of entries. -/
def size (m : SortedMap κ ν) : Nat :=
  m.entries.length

/-- Whether there is no entry. -/
def isEmpty (m : SortedMap κ ν) : Bool :=
  m.entries.isEmpty

@[simp] theorem get?_empty (k : κ) : (empty : SortedMap κ ν).get? k = none := rfl

@[simp] theorem get?_insert_self (m : SortedMap κ ν) (k : κ) (v : ν) :
    (m.insert k v).get? k = some v :=
  Assoc.find?_insert_self k v m.entries

theorem get?_insert_ne {k q : κ} (h : k ≠ q) (m : SortedMap κ ν) (v : ν) :
    (m.insert k v).get? q = m.get? q :=
  Assoc.find?_insert_ne h v m.entries

theorem get?_insert [DecidableEq κ] (m : SortedMap κ ν) (k q : κ) (v : ν) :
    (m.insert k v).get? q = if k = q then some v else m.get? q :=
  Assoc.find?_insert k q v m.entries

@[simp] theorem get?_erase_self (m : SortedMap κ ν) (k : κ) : (m.erase k).get? k = none :=
  Assoc.find?_erase_self k m.entries

theorem get?_erase_ne {k q : κ} (h : k ≠ q) (m : SortedMap κ ν) :
    (m.erase k).get? q = m.get? q :=
  Assoc.find?_erase_ne h m.entries

/-- Maps with the same values are equal. -/
theorem ext_get? {a b : SortedMap κ ν} (h : ∀ k, a.get? k = b.get? k) : a = b :=
  ext_entries (Assoc.ext_find? a.sorted b.sorted h)

/-- A key is listed exactly when it has a value. -/
theorem mem_keys {m : SortedMap κ ν} {k : κ} : k ∈ m.keys ↔ ∃ v, m.get? k = some v := by
  constructor
  · intro h
    obtain ⟨e, he, rfl⟩ := List.mem_map.mp h
    exact ⟨e.2, Assoc.find?_of_mem m.sorted he⟩
  · rintro ⟨v, hv⟩
    exact List.mem_map.mpr ⟨(k, v), Assoc.mem_of_find? hv, rfl⟩

end SortedMap

end Fleet
