/-
# Patterns

Regular expressions over characters: the texts that a pattern stands for (`Pattern.Matches`) and a
matcher that follows a text with derivatives (`Pattern.accepts`).

Main statement: `Pattern.accepts_iff`, the matcher accepts exactly the texts of the pattern.
-/
namespace Fleet.Text

/-! ## Patterns and their texts -/

/-- A regular expression. -/
inductive Pattern where
  /-- No text. -/
  | never
  /-- The empty text. -/
  | nothing
  /-- One character of a class. -/
  | one (p : Char → Bool)
  /-- A text of the first pattern, then one of the second. -/
  | seq (a b : Pattern)
  /-- A text of either pattern. -/
  | alt (a b : Pattern)
  /-- Any number of texts, one after the other. -/
  | many (a : Pattern)
  /-- At most `n` texts, one after the other. -/
  | upTo (n : Nat) (a : Pattern)

namespace Pattern

/-- The texts of a pattern. -/
inductive Matches : Pattern → List Char → Prop where
  | nothing : Matches nothing []
  | one {p : Char → Bool} {c : Char} (h : p c = true) : Matches (one p) [c]
  | seq {a b : Pattern} {s t : List Char} (ha : Matches a s) (hb : Matches b t) :
      Matches (seq a b) (s ++ t)
  | altLeft {a b : Pattern} {s : List Char} (h : Matches a s) : Matches (alt a b) s
  | altRight {a b : Pattern} {s : List Char} (h : Matches b s) : Matches (alt a b) s
  | manyNil {a : Pattern} : Matches (many a) []
  | manyCons {a : Pattern} {s t : List Char} (ha : Matches a s) (ht : Matches (many a) t) :
      Matches (many a) (s ++ t)
  | upToNil {n : Nat} {a : Pattern} : Matches (upTo n a) []
  | upToCons {n : Nat} {a : Pattern} {s t : List Char} (ha : Matches a s)
      (ht : Matches (upTo n a) t) : Matches (upTo (n + 1) a) (s ++ t)

/-- Exactly `n` texts of a pattern. -/
def times : Nat → Pattern → Pattern
  | 0, _ => nothing
  | n + 1, a => seq a (times n a)

/-- At least one text of a pattern. -/
def many1 (a : Pattern) : Pattern := seq a (many a)

/-- One given character. -/
def char (c : Char) : Pattern := one (· == c)

/-! ## Derivatives -/

/-- Whether the pattern has the empty text. -/
def nullable : Pattern → Bool
  | never => false
  | nothing => true
  | one _ => false
  | seq a b => nullable a && nullable b
  | alt a b => nullable a || nullable b
  | many _ => true
  | upTo _ _ => true

/-- A sequence without parts that cannot match. -/
def seqOf : Pattern → Pattern → Pattern
  | never, _ => never
  | nothing, b => b
  | a, b => seq a b

/-- An alternative without parts that cannot match. -/
def altOf : Pattern → Pattern → Pattern
  | never, b => b
  | a, never => a
  | a, b => alt a b

/-- The texts that follow a first character. -/
def derivative (c : Char) : Pattern → Pattern
  | never => never
  | nothing => never
  | one p => if p c then nothing else never
  | seq a b =>
    if nullable a then altOf (seqOf (derivative c a) b) (derivative c b)
    else seqOf (derivative c a) b
  | alt a b => altOf (derivative c a) (derivative c b)
  | many a => seqOf (derivative c a) (many a)
  | upTo 0 _ => never
  | upTo (n + 1) a => seqOf (derivative c a) (upTo n a)

/-- Whether a text is one of the pattern. -/
def accepts (a : Pattern) (s : List Char) : Bool :=
  nullable (s.foldl (fun q c => derivative c q) a)

/-! ## The matcher is exact -/

theorem matches_nil_iff {a : Pattern} : Matches a [] ↔ nullable a = true := by
  constructor
  · intro h
    generalize hs : ([] : List Char) = s at h
    induction h with
    | nothing => rfl
    | one _ => simp at hs
    | seq _ _ iha ihb =>
      obtain ⟨h₁, h₂⟩ := List.append_eq_nil_iff.mp hs.symm
      simp [nullable, iha h₁.symm, ihb h₂.symm]
    | altLeft _ ih => simp [nullable, ih hs]
    | altRight _ ih => simp [nullable, ih hs]
    | manyNil => rfl
    | manyCons _ _ _ _ => rfl
    | upToNil => rfl
    | upToCons _ _ _ _ => rfl
  · intro h
    induction a with
    | never => simp [nullable] at h
    | nothing => exact .nothing
    | one p => simp [nullable] at h
    | seq a b iha ihb =>
      simp only [nullable, Bool.and_eq_true] at h
      exact .seq (s := []) (t := []) (iha h.1) (ihb h.2)
    | alt a b iha ihb =>
      simp only [nullable, Bool.or_eq_true] at h
      rcases h with h | h
      · exact .altLeft (iha h)
      · exact .altRight (ihb h)
    | many a _ => exact .manyNil
    | upTo n a _ => exact .upToNil

theorem not_matches_never {s : List Char} : ¬ Matches never s := nofun

theorem matches_seq_iff {a b : Pattern} {s : List Char} :
    Matches (seq a b) s ↔ ∃ t u, s = t ++ u ∧ Matches a t ∧ Matches b u := by
  constructor
  · intro h
    cases h with
    | seq ha hb => exact ⟨_, _, rfl, ha, hb⟩
  · rintro ⟨t, u, rfl, ha, hb⟩
    exact .seq ha hb

theorem matches_alt_iff {a b : Pattern} {s : List Char} :
    Matches (alt a b) s ↔ Matches a s ∨ Matches b s := by
  constructor
  · intro h
    cases h with
    | altLeft h => exact Or.inl h
    | altRight h => exact Or.inr h
  · rintro (h | h)
    · exact .altLeft h
    · exact .altRight h

theorem matches_nothing_iff {s : List Char} : Matches nothing s ↔ s = [] := by
  constructor
  · intro h
    cases h
    rfl
  · rintro rfl
    exact .nothing

theorem matches_seqOf_iff {a b : Pattern} {s : List Char} :
    Matches (seqOf a b) s ↔ Matches (seq a b) s := by
  cases a with
  | never => simp [seqOf, matches_seq_iff, not_matches_never]
  | nothing =>
    simp only [seqOf, matches_seq_iff, matches_nothing_iff]
    constructor
    · exact fun h => ⟨[], s, rfl, rfl, h⟩
    · rintro ⟨t, u, rfl, rfl, h⟩
      exact h
  | _ => exact Iff.rfl

theorem matches_altOf_iff {a b : Pattern} {s : List Char} :
    Matches (altOf a b) s ↔ Matches (alt a b) s := by
  cases a <;> cases b <;> simp [altOf, matches_alt_iff, not_matches_never]

/-- A text of one character that begins with a character is that character. -/
theorem matches_one_cons_iff {p : Char → Bool} {c : Char} {s : List Char} :
    Matches (one p) (c :: s) ↔ p c = true ∧ s = [] := by
  constructor
  · intro h
    cases h with
    | one h => exact ⟨h, rfl⟩
  · rintro ⟨h, rfl⟩
    exact .one h

/-- The first character of a sequence is that of its first part, unless that part is empty. -/
theorem matches_seq_cons_iff {a b : Pattern} {c : Char} {s : List Char} :
    Matches (seq a b) (c :: s) ↔
      (∃ t u, s = t ++ u ∧ Matches a (c :: t) ∧ Matches b u) ∨
        (nullable a = true ∧ Matches b (c :: s)) := by
  rw [matches_seq_iff]
  constructor
  · rintro ⟨t, u, hs, ha, hb⟩
    cases t with
    | nil =>
      rw [List.nil_append] at hs
      exact Or.inr ⟨matches_nil_iff.mp ha, hs ▸ hb⟩
    | cons d t =>
      rw [List.cons_append, List.cons.injEq] at hs
      obtain ⟨rfl, rfl⟩ := hs
      exact Or.inl ⟨t, u, rfl, ha, hb⟩
  · rintro (⟨t, u, rfl, ha, hb⟩ | ⟨hn, hb⟩)
    · exact ⟨c :: t, u, rfl, ha, hb⟩
    · exact ⟨[], c :: s, rfl, matches_nil_iff.mpr hn, hb⟩

/-- The first character of a repetition is that of the first part that is not empty. -/
theorem matches_many_cons_iff {a : Pattern} {c : Char} {s : List Char} :
    Matches (many a) (c :: s) ↔
      ∃ t u, s = t ++ u ∧ Matches a (c :: t) ∧ Matches (many a) u := by
  constructor
  · intro h
    generalize hp : many a = p, hs : c :: s = cs at h
    induction h with
    | manyNil => cases hs
    | @manyCons a' t u ha hm _ ihm =>
      cases hp
      cases t with
      | nil => exact ihm rfl hs
      | cons d t =>
        rw [List.cons_append, List.cons.injEq] at hs
        obtain ⟨rfl, rfl⟩ := hs
        exact ⟨t, u, rfl, ha, hm⟩
    | _ => cases hp
  · rintro ⟨t, u, rfl, ha, hm⟩
    exact .manyCons (s := c :: t) ha hm

/-- A repetition may always have one part more. -/
theorem matches_upTo_succ {a : Pattern} {n : Nat} {s : List Char} (h : Matches (upTo n a) s) :
    Matches (upTo (n + 1) a) s := by
  generalize hp : upTo n a = p at h
  induction h generalizing n with
  | upToNil => exact .upToNil
  | upToCons ha _ _ iht =>
    cases hp
    exact .upToCons ha (iht rfl)
  | _ => cases hp

/-- A bounded repetition with a first character has a part that begins with it, and one part less
behind that. -/
theorem exists_of_matches_upTo_cons {a : Pattern} {n : Nat} {c : Char} {s : List Char}
    (h : Matches (upTo n a) (c :: s)) :
    ∃ k t u, n = k + 1 ∧ s = t ++ u ∧ Matches a (c :: t) ∧ Matches (upTo k a) u := by
  generalize hp : upTo n a = p, hs : c :: s = cs at h
  induction h generalizing n with
  | upToNil => cases hs
  | @upToCons k a' t u ha ht _ iht =>
    cases hp
    cases t with
    | nil =>
      obtain ⟨j, t, u, rfl, rfl, ha, hu⟩ := iht rfl hs
      exact ⟨j + 1, t, u, rfl, rfl, ha, matches_upTo_succ hu⟩
    | cons d t =>
      rw [List.cons_append, List.cons.injEq] at hs
      obtain ⟨rfl, rfl⟩ := hs
      exact ⟨k, t, u, rfl, rfl, ha, ht⟩
  | _ => cases hp

/-- The first character of a bounded repetition is that of the first part that is not empty. -/
theorem matches_upTo_cons_iff {a : Pattern} {n : Nat} {c : Char} {s : List Char} :
    Matches (upTo (n + 1) a) (c :: s) ↔
      ∃ t u, s = t ++ u ∧ Matches a (c :: t) ∧ Matches (upTo n a) u := by
  constructor
  · intro h
    obtain ⟨k, t, u, hk, hs, ha, hu⟩ := exists_of_matches_upTo_cons h
    cases hk
    exact ⟨t, u, hs, ha, hu⟩
  · rintro ⟨t, u, rfl, ha, hu⟩
    exact .upToCons (s := c :: t) ha hu

/-- A derivative has the texts that follow the character. -/
theorem matches_derivative_iff {a : Pattern} {c : Char} {s : List Char} :
    Matches (derivative c a) s ↔ Matches a (c :: s) := by
  induction a generalizing s with
  | never => simp [derivative, not_matches_never]
  | nothing => simp [derivative, not_matches_never, matches_nothing_iff]
  | one p =>
    rw [matches_one_cons_iff, derivative]
    by_cases hp : p c = true
    · simp [hp, matches_nothing_iff]
    · simp [hp, not_matches_never]
  | seq a b iha ihb =>
    rw [matches_seq_cons_iff, derivative]
    by_cases hn : nullable a = true
    · simp [hn, matches_altOf_iff, matches_alt_iff, matches_seqOf_iff, matches_seq_iff, iha, ihb]
    · simp [hn, matches_seqOf_iff, matches_seq_iff, iha]
  | alt a b iha ihb => simp [derivative, matches_altOf_iff, matches_alt_iff, iha, ihb]
  | many a ih =>
    simp only [matches_many_cons_iff, derivative, matches_seqOf_iff, matches_seq_iff, ih]
  | upTo n a ih =>
    cases n with
    | zero =>
      refine ⟨fun h => absurd h not_matches_never, fun h => ?_⟩
      obtain ⟨k, _, _, hk, _⟩ := exists_of_matches_upTo_cons h
      cases hk
    | succ n =>
      simp only [matches_upTo_cons_iff, derivative, matches_seqOf_iff, matches_seq_iff, ih]

/-- The matcher accepts exactly the texts of the pattern. -/
theorem accepts_iff {a : Pattern} {s : List Char} : accepts a s = true ↔ Matches a s := by
  induction s generalizing a with
  | nil => exact matches_nil_iff.symm
  | cons c s ih =>
    rw [← matches_derivative_iff, ← ih]
    rfl

end Pattern

end Fleet.Text
