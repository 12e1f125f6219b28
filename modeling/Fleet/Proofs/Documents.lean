/-
# Documents are read back

A document is read back from its text exactly when its lists and objects nest no deeper than the
reader goes and its numbers are read back.

Main statements: `Json.reread?_eq_some_iff`, `Json.depth_le_of_isSome`.
-/
import Fleet.Proofs.Maps
import Fleet.Proofs.Reading

namespace Fleet

/-! ## Members in order -/

namespace Assoc

variable {κ ν : Type} [Key κ]

/-- An entry that comes behind all others is put at the end. -/
theorem insert_of_forall_lt {k : κ} (v : ν) {l : List (κ × ν)}
    (h : ∀ e ∈ l, Key.text e.1 < Key.text k) : insert k v l = l ++ [(k, v)] := by
  induction l with
  | nil => rfl
  | cons e rest ih =>
      obtain ⟨k', v'⟩ := e
      have hlt : Key.text k' < Key.text k := h (k', v') List.mem_cons_self
      have hne : Key.text k ≠ Key.text k' := fun heq => String.lt_irrefl _ (heq ▸ hlt)
      rw [insert, if_neg (String.lt_asymm hlt), if_neg hne,
        ih fun e he => h e (List.mem_cons_of_mem _ he), List.cons_append]

/-- Entries in order that are inserted one after the other stay as they are. -/
theorem insertAll_of_sorted {l entries : List (κ × ν)} (h : Sorted (l ++ entries)) :
    insertAll l entries = l ++ entries := by
  induction entries generalizing l with
  | nil => exact (List.append_nil l).symm
  | cons e rest ih =>
      obtain ⟨k, v⟩ := e
      obtain ⟨_, _, hbetween⟩ := List.pairwise_append.mp h
      have hlast : insert k v l = l ++ [(k, v)] :=
        insert_of_forall_lt v fun e he => hbetween e he (k, v) List.mem_cons_self
      have happend : l ++ (k, v) :: rest = (l ++ [(k, v)]) ++ rest := by simp
      show insertAll (insert k v l) rest = _
      rw [hlast, happend]
      exact ih (happend ▸ h)

/-- Entries with the same keys are in the same order. -/
theorem sorted_of_keys {μ : Type} {l : List (κ × ν)} {found : List (κ × μ)} (hsorted : Sorted l)
    (hkeys : found.map Prod.fst = l.map Prod.fst) : Sorted found := by
  unfold Sorted at hsorted ⊢
  rw [← List.pairwise_map (f := Prod.fst) (R := fun a b : κ => Key.text a < Key.text b)]
    at hsorted ⊢
  rwa [hkeys]

end Assoc

namespace Json

/-! ## Depth and numbers -/

mutual

/-- The number of lists and objects that lie in one another. -/
def depth : Json → Nat
  | array items => depthItems items + 1
  | object members => depthMembers members + 1
  | null | bool _ | number _ | string _ => 0

/-- The depth of the deepest item. -/
def depthItems : List Json → Nat
  | [] => 0
  | j :: rest => max (depth j) (depthItems rest)

/-- The depth of the deepest member. -/
def depthMembers : List (String × Json) → Nat
  | [] => 0
  | (_, j) :: rest => max (depth j) (depthMembers rest)

end

/-- Items are as deep as the deepest of them. -/
theorem depthItems_le {items : List Json} {n : Nat} :
    depthItems items ≤ n ↔ ∀ j ∈ items, j.depth ≤ n := by
  induction items with
  | nil => simp [depthItems]
  | cons j rest ih => rw [depthItems, Nat.max_le, ih, List.forall_mem_cons]

/-- Members are as deep as the deepest of them. -/
theorem depthMembers_le {members : List (String × Json)} {n : Nat} :
    depthMembers members ≤ n ↔ ∀ e ∈ members, e.2.depth ≤ n := by
  induction members with
  | nil => simp [depthMembers]
  | cons e rest ih => rw [depthMembers, Nat.max_le, ih, List.forall_mem_cons]

mutual

/-- Every number of the document reads back. -/
def NumbersReadBack : Json → Prop
  | number n => n.ReadsBack
  | array items => ItemsReadBack items
  | object members => MembersReadBack members
  | null | bool _ | string _ => True

/-- Every number of the items reads back. -/
def ItemsReadBack : List Json → Prop
  | [] => True
  | j :: rest => NumbersReadBack j ∧ ItemsReadBack rest

/-- Every number of the members reads back. -/
def MembersReadBack : List (String × Json) → Prop
  | [] => True
  | (_, j) :: rest => NumbersReadBack j ∧ MembersReadBack rest

end

open Written (reread rereadItems rereadMembers)

variable {levels : Nat}

/-! ## What is read -/

/-- The document that the text of a document denotes, within a number of levels. -/
def reread? (levels : Nat) (j : Json) : Option Json :=
  (Written.ofJson j).reread.toJson? levels

/-- The text of a list denotes the list of what the texts of its items denote. -/
theorem reread?_array (levels : Nat) (items : List Json) :
    reread? (levels + 1) (array items) =
      (Written.toItems? levels (rereadItems (Written.ofItems items))).map array := by
  rw [reread?, Written.ofJson, reread, Written.toJson?]

/-- The text of an object denotes the object of what the texts of its members denote. -/
theorem reread?_object (levels : Nat) (members : List (String × Json)) :
    reread? (levels + 1) (object members) =
      (Written.toMembers? levels (rereadMembers (Written.ofMembers members))).map ofMembers := by
  rw [reread?, Written.ofJson, reread, Written.toJson?]

/-- Items are read one after the other. -/
theorem toItems?_cons_eq_some {j : Json} {rest found : List Json} :
    Written.toItems? levels (rereadItems (Written.ofItems (j :: rest))) = some found ↔
      ∃ k ks, reread? levels j = some k ∧
        Written.toItems? levels (rereadItems (Written.ofItems rest)) = some ks ∧
        k :: ks = found := by
  rw [Written.ofItems, rereadItems, Written.toItems?, ← reread?]
  cases reread? levels j <;>
    cases Written.toItems? levels (rereadItems (Written.ofItems rest)) <;> simp

/-- Members are read one after the other, under their names. -/
theorem toMembers?_cons_eq_some {name : String} {j : Json} {rest found : List (String × Json)} :
    Written.toMembers? levels (rereadMembers (Written.ofMembers ((name, j) :: rest))) = some found ↔
      ∃ k ks, reread? levels j = some k ∧
        Written.toMembers? levels (rereadMembers (Written.ofMembers rest)) = some ks ∧
          (name, k) :: ks = found := by
  rw [Written.ofMembers, rereadMembers, Written.toMembers?, ← reread?]
  cases reread? levels j <;>
    cases Written.toMembers? levels (rereadMembers (Written.ofMembers rest)) <;> simp

/-- The names of members are read as they are. -/
theorem names_of_toMembers? {members found : List (String × Json)}
    (h : Written.toMembers? levels (rereadMembers (Written.ofMembers members)) = some found) :
    found.map Prod.fst = members.map Prod.fst := by
  induction members generalizing found with
  | nil =>
      rw [Written.ofMembers, rereadMembers, Written.toMembers?] at h
      cases h
      rfl
  | cons m rest ih =>
      obtain ⟨k, ks, _, hrest, rfl⟩ := toMembers?_cons_eq_some.mp h
      rw [List.map_cons, List.map_cons, ih hrest]

mutual

/-- A document that is read from the text of a document is no deeper than the reader goes. -/
theorem depth_le_of_isSome : ∀ {levels : Nat} {j : Json}, (reread? levels j).isSome = true →
    j.depth ≤ levels
  | levels, null, _ | levels, bool _, _ | levels, number _, _ | levels, string _, _ =>
    Nat.zero_le levels
  | 0, array items, h => by cases h
  | levels + 1, array items, h => by
      rw [reread?_array, Option.isSome_map] at h
      rw [depth]
      exact Nat.succ_le_succ (depthItems_le_of_isSome h)
  | 0, object members, h => by cases h
  | levels + 1, object members, h => by
      rw [reread?_object, Option.isSome_map] at h
      rw [depth]
      exact Nat.succ_le_succ (depthMembers_le_of_isSome h)

/-- Items that are read are no deeper than the reader goes. -/
theorem depthItems_le_of_isSome : ∀ {levels : Nat} {items : List Json},
    (Written.toItems? levels (rereadItems (Written.ofItems items))).isSome = true →
      depthItems items ≤ levels
  | levels, [], _ => Nat.zero_le levels
  | levels, j :: rest, h => by
      obtain ⟨found, hfound⟩ := Option.isSome_iff_exists.mp h
      obtain ⟨k, ks, hk, hks, _⟩ := toItems?_cons_eq_some.mp hfound
      rw [depthItems]
      exact Nat.max_le.mpr ⟨depth_le_of_isSome (Option.isSome_of_eq_some hk),
        depthItems_le_of_isSome (Option.isSome_of_eq_some hks)⟩

/-- Members that are read are no deeper than the reader goes. -/
theorem depthMembers_le_of_isSome : ∀ {levels : Nat} {members : List (String × Json)},
    (Written.toMembers? levels (rereadMembers (Written.ofMembers members))).isSome = true →
      depthMembers members ≤ levels
  | levels, [], _ => Nat.zero_le levels
  | levels, (name, j) :: rest, h => by
      obtain ⟨found, hfound⟩ := Option.isSome_iff_exists.mp h
      obtain ⟨k, ks, hk, hks, _⟩ := toMembers?_cons_eq_some.mp hfound
      rw [depthMembers]
      exact Nat.max_le.mpr ⟨depth_le_of_isSome (Option.isSome_of_eq_some hk),
        depthMembers_le_of_isSome (Option.isSome_of_eq_some hks)⟩

end

/-- The text of a number denotes the number exactly when the number reads back. -/
theorem reread?_number {n : Number} :
    reread? levels (number n) = some (number n) ↔ n.ReadsBack := by
  rw [Number.readsBack_iff, reread?, Written.ofJson, reread]
  rcases n.reread_cases with ⟨m, hm⟩ | hvoid
  · rw [hm, Written.toJson?, Option.some.injEq, Json.number.injEq, Written.number.injEq]
  · rw [hvoid, Written.toJson?]
    exact ⟨fun h => (nomatch h), fun h => (nomatch h)⟩

mutual

/-- A document is read back from its text exactly when it is no deeper than the reader goes and its
numbers read back. -/
theorem reread?_eq_some_iff : ∀ {levels : Nat} {j : Json}, j.Canonical →
    (reread? levels j = some j ↔ j.depth ≤ levels ∧ j.NumbersReadBack)
  | levels, null, _ | levels, bool _, _ | levels, string _, _ =>
      ⟨fun _ => ⟨Nat.zero_le levels, trivial⟩, fun _ => rfl⟩
  | levels, number n, _ => by
      rw [reread?_number, depth, NumbersReadBack]
      exact (and_iff_right (Nat.zero_le levels)).symm
  | 0, array items, _ => by
      rw [depth]
      exact ⟨fun h => (nomatch h), fun h => absurd h.1 (Nat.not_succ_le_zero _)⟩
  | levels + 1, array items, hj => by
      have hitems : ∀ j ∈ items, j.Canonical := by
        cases hj with
        | array h => exact h
      rw [reread?_array, depth, NumbersReadBack, Nat.add_le_add_iff_right,
        ← toItems?_eq_some_iff hitems, Option.map_eq_some_iff]
      constructor
      · rintro ⟨found, hfound, heq⟩
        cases heq
        exact hfound
      · exact fun h => ⟨items, h, rfl⟩
  | 0, object members, _ => by
      rw [depth]
      exact ⟨fun h => (nomatch h), fun h => absurd h.1 (Nat.not_succ_le_zero _)⟩
  | levels + 1, object members, hj => by
      obtain ⟨hsorted, hmembers⟩ : Assoc.Sorted members ∧ ∀ e ∈ members, e.2.Canonical := by
        cases hj with
        | object hsorted h => exact ⟨hsorted, h⟩
      rw [reread?_object, depth, NumbersReadBack, Nat.add_le_add_iff_right,
        ← toMembers?_eq_some_iff hmembers, Option.map_eq_some_iff]
      -- What is found has the names in order, so that it makes the object as it is.
      constructor
      · rintro ⟨found, hfound, heq⟩
        have hfoundSorted := Assoc.sorted_of_keys hsorted (names_of_toMembers? hfound)
        rw [Json.ofMembers, Assoc.insertAll_of_sorted (l := []) hfoundSorted] at heq
        cases heq
        exact hfound
      · intro h
        refine ⟨members, h, ?_⟩
        rw [Json.ofMembers, Assoc.insertAll_of_sorted (l := []) hsorted]
        rfl

/-- Items are read back exactly when each of them is. -/
theorem toItems?_eq_some_iff : ∀ {levels : Nat} {items : List Json}, (∀ j ∈ items, j.Canonical) →
    (Written.toItems? levels (rereadItems (Written.ofItems items)) = some items ↔
      depthItems items ≤ levels ∧ ItemsReadBack items)
  | levels, [], _ => ⟨fun _ => ⟨Nat.zero_le levels, trivial⟩, fun _ => rfl⟩
  | levels, j :: rest, h => by
      rw [toItems?_cons_eq_some, depthItems, ItemsReadBack,
        Nat.max_le, and_and_and_comm, ← reread?_eq_some_iff (h j List.mem_cons_self),
        ← toItems?_eq_some_iff fun k hk => h k (List.mem_cons_of_mem j hk)]
      constructor
      · rintro ⟨_, _, hj, hrest, heq⟩
        cases heq
        exact ⟨hj, hrest⟩
      · rintro ⟨hj, hrest⟩
        exact ⟨j, rest, hj, hrest, rfl⟩

/-- Members are read back exactly when each of them is. -/
theorem toMembers?_eq_some_iff : ∀ {levels : Nat} {members : List (String × Json)},
    (∀ e ∈ members, e.2.Canonical) →
      (Written.toMembers? levels (rereadMembers (Written.ofMembers members)) = some members ↔
        depthMembers members ≤ levels ∧ MembersReadBack members)
  | levels, [], _ => ⟨fun _ => ⟨Nat.zero_le levels, trivial⟩, fun _ => rfl⟩
  | levels, (name, j) :: rest, h => by
      rw [toMembers?_cons_eq_some, depthMembers, MembersReadBack,
        Nat.max_le, and_and_and_comm, ← reread?_eq_some_iff (h (name, j) List.mem_cons_self),
        ← toMembers?_eq_some_iff fun e he => h e (List.mem_cons_of_mem _ he)]
      constructor
      · rintro ⟨_, _, hj, hrest, heq⟩
        cases heq
        exact ⟨hj, hrest⟩
      · rintro ⟨hj, hrest⟩
        exact ⟨j, rest, hj, hrest, rfl⟩

end

end Json

end Fleet
