/-
# The texts of repetitions

What the repetitions of a pattern stand for: texts that fall into parts, of which the pattern has
each one, and if the pattern is one character of a class, texts of such characters.

Main statements: `Text.Pattern.matches_many_iff`, `Text.Pattern.matches_times_iff`,
`Text.Pattern.matches_many1_one_iff`, `Text.Pattern.matches_upTo_one_iff`.
-/
import Fleet.Text.Pattern

namespace Fleet.Text.Pattern

variable {a b : Pattern} {p : Char → Bool} {n : Nat} {s : List Char}

/-! ## Parts -/

/-- One character of a class. -/
theorem matches_one_iff : Matches (one p) s ↔ ∃ c, p c = true ∧ s = [c] := by
  constructor
  · intro h
    cases h with
    | one hc => exact ⟨_, hc, rfl⟩
  · rintro ⟨c, hc, rfl⟩
    exact .one hc

/-- Any number of texts, one after the other. -/
theorem matches_many_iff :
    Matches (many a) s ↔
      ∃ parts : List (List Char), s = parts.flatten ∧ ∀ t ∈ parts, Matches a t := by
  constructor
  · intro h
    generalize hq : many a = q at h
    induction h with
    | manyNil => exact ⟨[], rfl, List.forall_mem_nil _⟩
    | manyCons ha _ _ ih =>
        cases hq
        obtain ⟨parts, rfl, hparts⟩ := ih rfl
        exact ⟨_ :: parts, rfl, List.forall_mem_cons.mpr ⟨ha, hparts⟩⟩
    | _ => cases hq
  · rintro ⟨parts, rfl, hparts⟩
    induction parts with
    | nil => exact .manyNil
    | cons t rest ih =>
        obtain ⟨ht, hrest⟩ := List.forall_mem_cons.mp hparts
        exact .manyCons ht (ih hrest)

/-- A bounded number of texts, one after the other. -/
theorem matches_upTo_iff :
    Matches (upTo n a) s ↔
      ∃ parts : List (List Char),
        parts.length ≤ n ∧ s = parts.flatten ∧ ∀ t ∈ parts, Matches a t := by
  constructor
  · intro h
    generalize hq : upTo n a = q at h
    induction h generalizing n with
    | upToNil => exact ⟨[], Nat.zero_le n, rfl, List.forall_mem_nil _⟩
    | upToCons ha _ _ ih =>
        cases hq
        obtain ⟨parts, hlength, rfl, hparts⟩ := ih rfl
        exact ⟨_ :: parts, Nat.succ_le_succ hlength, rfl, List.forall_mem_cons.mpr ⟨ha, hparts⟩⟩
    | _ => cases hq
  · rintro ⟨parts, hlength, rfl, hparts⟩
    induction parts generalizing n with
    | nil => exact .upToNil
    | cons t rest ih =>
        obtain ⟨ht, hrest⟩ := List.forall_mem_cons.mp hparts
        cases n with
        | zero => cases hlength
        | succ n => exact .upToCons ht (ih (Nat.le_of_succ_le_succ hlength) hrest)

/-- A number of texts, one after the other. -/
theorem matches_times_iff :
    Matches (times n a) s ↔
      ∃ parts : List (List Char),
        parts.length = n ∧ s = parts.flatten ∧ ∀ t ∈ parts, Matches a t := by
  induction n generalizing s with
  | zero =>
      rw [times, matches_nothing_iff]
      constructor
      · rintro rfl
        exact ⟨[], rfl, rfl, List.forall_mem_nil _⟩
      · rintro ⟨parts, hlength, rfl, _⟩
        rw [List.length_eq_zero_iff.mp hlength]
        rfl
  | succ n ih =>
      rw [times, matches_seq_iff]
      constructor
      · rintro ⟨t, u, rfl, ht, hu⟩
        obtain ⟨parts, hlength, rfl, hparts⟩ := ih.mp hu
        exact ⟨t :: parts, congrArg (· + 1) hlength, rfl, List.forall_mem_cons.mpr ⟨ht, hparts⟩⟩
      · rintro ⟨parts, hlength, rfl, hparts⟩
        obtain ⟨t, rest, rfl⟩ := List.exists_cons_of_length_eq_add_one hlength
        obtain ⟨ht, hrest⟩ := List.forall_mem_cons.mp hparts
        exact ⟨t, rest.flatten, rfl, ht, ih.mpr ⟨rest, Nat.succ.inj hlength, rfl, hrest⟩⟩

/-! ## Characters of a class -/

/-- Parts of one character each are the characters of a text. -/
theorem exists_parts_one_iff (length : Nat → Prop) :
    (∃ parts : List (List Char), length parts.length ∧ s = parts.flatten ∧
        ∀ t ∈ parts, Matches (one p) t) ↔
      length s.length ∧ ∀ c ∈ s, p c = true := by
  constructor
  · rintro ⟨parts, hlength, rfl, hparts⟩
    have hone : ∀ t ∈ parts, t.length = 1 ∧ ∀ c ∈ t, p c = true := by
      intro t ht
      obtain ⟨c, hc, rfl⟩ := matches_one_iff.mp (hparts t ht)
      exact ⟨rfl, fun d hd => List.mem_singleton.mp hd ▸ hc⟩
    have hsum : parts.flatten.length = parts.length := by
      rw [List.length_flatten, List.map_congr_left fun t ht => (hone t ht).1, List.map_const',
        List.sum_replicate_nat, Nat.mul_one]
    refine ⟨hsum ▸ hlength, fun c hc => ?_⟩
    obtain ⟨t, ht, hct⟩ := List.mem_flatten.mp hc
    exact (hone t ht).2 c hct
  · rintro ⟨hlength, hs⟩
    refine ⟨s.map fun c => [c], (List.length_map _).symm ▸ hlength, ?_, ?_⟩
    · rw [← List.flatMap_def, List.flatMap_singleton']
    · intro t ht
      obtain ⟨c, hc, rfl⟩ := List.mem_map.mp ht
      exact .one (hs c hc)

/-- Any number of characters of a class. -/
theorem matches_many_one_iff : Matches (many (one p)) s ↔ ∀ c ∈ s, p c = true := by
  have h := exists_parts_one_iff (s := s) (p := p) fun _ => True
  simp only [true_and] at h
  rw [matches_many_iff, h]

/-- A bounded number of characters of a class. -/
theorem matches_upTo_one_iff :
    Matches (upTo n (one p)) s ↔ s.length ≤ n ∧ ∀ c ∈ s, p c = true := by
  rw [matches_upTo_iff, exists_parts_one_iff (· ≤ n)]

/-- A number of characters of a class. -/
theorem matches_times_one_iff :
    Matches (times n (one p)) s ↔ s.length = n ∧ ∀ c ∈ s, p c = true := by
  rw [matches_times_iff, exists_parts_one_iff (· = n)]

/-- A character of one class and any number of characters of another. -/
theorem matches_one_many_iff {q : Char → Bool} :
    Matches (seq (one p) (many (one q))) s ↔
      ∃ c t, s = c :: t ∧ p c = true ∧ ∀ d ∈ t, q d = true := by
  rw [matches_seq_iff]
  constructor
  · rintro ⟨first, t, rfl, hfirst, ht⟩
    obtain ⟨c, hc, rfl⟩ := matches_one_iff.mp hfirst
    exact ⟨c, t, rfl, hc, matches_many_one_iff.mp ht⟩
  · rintro ⟨c, t, rfl, hc, ht⟩
    exact ⟨[c], t, rfl, .one hc, matches_many_one_iff.mpr ht⟩

/-- At least one character of a class. -/
theorem matches_many1_one_iff : Matches (many1 (one p)) s ↔ s ≠ [] ∧ ∀ c ∈ s, p c = true := by
  rw [many1, matches_one_many_iff]
  constructor
  · rintro ⟨c, t, rfl, hc, ht⟩
    exact ⟨List.cons_ne_nil c t, List.forall_mem_cons.mpr ⟨hc, ht⟩⟩
  · rintro ⟨hne, hs⟩
    obtain ⟨c, t, rfl⟩ := List.exists_cons_of_ne_nil hne
    exact ⟨c, t, rfl, List.forall_mem_cons.mp hs⟩

end Fleet.Text.Pattern
