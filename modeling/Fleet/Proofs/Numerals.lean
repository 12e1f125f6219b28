/-
# The texts of numbers

The text of every number is a numeral of the grammar: a sign, digits without a leading zero, digits
behind a point and an exponent.  It is read up to its end, and the text of an integer as that
integer; a decimal number may be read as one nearby.

Main statements: `Json.Number.exists_spell_eq`, `Json.readValue_number`,
`Json.Number.readsBack_integer`.
-/
import Fleet.Json.Printer
import Fleet.Json.Reader
import Fleet.Proofs.Digits
import Mathlib.Tactic.IntervalCases

namespace Fleet

/-! ## Shortest digits -/

namespace Binary64

variable {x : Binary64} {i : Interval} {d : Nat} {t : Int}

/-- Zero does not round to a number that is not zero. -/
theorem Interval.holds_zero (hlow : 0 < i.low) (t : Int) : i.holds 0 t = false := by
  have hpos : 0 < i.low * Nat.pow 2 i.unit.toNat * Nat.pow 10 (-t).toNat :=
    Nat.mul_pos (Nat.mul_pos hlow (Nat.pow_pos (by decide))) (Nat.pow_pos (by decide))
  unfold Interval.holds onGrid
  dsimp only
  split
  · rw [Nat.zero_mul, decide_eq_false (Nat.not_le.mpr hpos), Bool.false_and]
  · rw [Nat.zero_mul, decide_eq_false (Nat.not_lt.mpr (Nat.zero_le _)), Bool.false_and]

/-- A neighbour on the grid rounds to the number. -/
theorem Interval.holds_of_neighbour? (h : i.neighbour? t = some d) : i.holds d t = true := by
  unfold Interval.neighbour? at h
  dsimp only at h
  split at h
  · rename_i hlower hupper
    split at h
    · exact Option.some.inj h ▸ hlower
    · split at h
      · exact Option.some.inj h ▸ hupper
      · split at h
        · exact Option.some.inj h ▸ hlower
        · exact Option.some.inj h ▸ hupper
  · rename_i hlower _
    exact Option.some.inj h ▸ hlower
  · rename_i _ hupper
    exact Option.some.inj h ▸ hupper
  · cases h

/-- Dropping zeros at the end leaves digits. -/
theorem withoutZeros_ne_zero (fuel : Nat) (hd : d ≠ 0) : (withoutZeros fuel d t).1 ≠ 0 := by
  induction fuel generalizing d t with
  | zero => exact hd
  | succ fuel ih =>
      rw [withoutZeros]
      split
      · exact ih (by omega)
      · exact hd

/-- Digits that are zero have no exponent. -/
theorem shortest_of_zero (h : x.shortest.1 = 0) : x.shortest.2 = 0 := by
  unfold shortest at h ⊢
  split
  · rfl
  · rename_i hzero
    rw [if_neg hzero] at h
    have hlow : 0 < x.interval.low := by
      have hne : x.significand ≠ 0 := by simpa [isZero] using hzero
      unfold interval
      dsimp only
      split <;> omega
    dsimp only at h ⊢
    split
    · rename_i d t hfound
      rw [hfound] at h
      obtain ⟨n, _, hn⟩ := List.exists_of_findSome?_eq_some hfound
      obtain ⟨d', hd', heq⟩ := Option.map_eq_some_iff.mp hn
      cases heq
      have hne : d ≠ 0 := by
        rintro rfl
        have hholds := Interval.holds_of_neighbour? hd'
        rw [Interval.holds_zero hlow] at hholds
        cases hholds
      exact absurd h (withoutZeros_ne_zero 20 hne)
    · rfl

end Binary64

namespace Json

variable {ds : List Nat} {rest : List Char} {l : Literal} {k : Nat}

/-! ## Digits -/

/-- The characters of digits. -/
def digitsText (ds : List Nat) : List Char := ds.map Nat.digitChar

/-- The value of a digit is read off its character. -/
theorem digitValue_digitChar : ∀ d < 10, digitValue d.digitChar = d := by decide

/-- A text goes on without a digit. -/
def EndsDigits (rest : List Char) : Prop := ∀ c ∈ rest.head?, c.isDigit = false

/-- Digits are read up to the first character that is none. -/
theorem takeDigits?_append (hds : ∀ d ∈ ds, d < 10) (hne : ds ≠ []) (hrest : EndsDigits rest) :
    takeDigits? (digitsText ds ++ rest) = some (ds, rest) := by
  have hdigit : ∀ c ∈ digitsText ds, c.isDigit = true := by
    intro c hc
    obtain ⟨d, hd, rfl⟩ := List.mem_map.mp hc
    rw [Nat.isDigit_digitChar]
    exact decide_eq_true (hds d hd)
  have htake : rest.takeWhile Char.isDigit = [] := by
    cases rest with
    | nil => rfl
    | cons c rest => rw [List.takeWhile_cons_of_neg (by simp [hrest c rfl])]
  have hdrop : rest.dropWhile Char.isDigit = rest := by
    cases rest with
    | nil => rfl
    | cons c rest => rw [List.dropWhile_cons_of_neg (by simp [hrest c rfl])]
  have hvalues : (digitsText ds).map digitValue = ds := by
    rw [digitsText, List.map_map]
    exact (List.map_congr_left fun d hd => digitValue_digitChar d (hds d hd)).trans (List.map_id ds)
  unfold takeDigits?
  dsimp only
  rw [List.takeWhile_append_of_pos hdigit, List.dropWhile_append_of_pos hdigit, htake, hdrop,
    List.append_nil, hvalues]
  simp [digitsText, hne]

/-! ## Literals -/

namespace Literal

/-- The text of the digits behind the point. -/
def fractionText : Option (List Nat) → List Char
  | none => []
  | some ds => '.' :: digitsText ds

/-- The text of an exponent. -/
def exponentText : Option (Bool × List Nat) → List Char
  | none => []
  | some (down, ds) => 'e' :: (if down then '-' else '+') :: digitsText ds

/-- The text of a literal without its sign. -/
def unsignedText (l : Literal) : List Char :=
  digitsText l.whole ++ (fractionText l.fraction ++ exponentText l.exponent)

/-- The text of a literal. -/
def spell (l : Literal) : List Char :=
  (if l.negative then ['-'] else []) ++ l.unsignedText

/-- A list of digits, at least one. -/
def Digits (ds : List Nat) : Prop := ds ≠ [] ∧ ∀ d ∈ ds, d < 10

/-- A literal follows the grammar. -/
structure WellFormed (l : Literal) : Prop where
  /-- There are digits before the point. -/
  whole : Digits l.whole
  /-- A leading zero stands alone. -/
  leading : l.whole.head? = some 0 → l.whole.length = 1
  /-- There are digits behind a point. -/
  fraction : ∀ ds ∈ l.fraction, Digits ds
  /-- There are digits in an exponent. -/
  exponent : ∀ e ∈ l.exponent, Digits e.2

/-- What a literal reads as: its number, or nothing that has a value. -/
def written (l : Literal) : Written :=
  match l.number? with
  | some n => .number n
  | none => .void

end Literal

/-- A text goes on behind a number with something that is no part of it. -/
def EndsNumber (rest : List Char) : Prop :=
  ∀ c ∈ rest.head?, c.isDigit = false ∧ c ≠ '.' ∧ c ≠ 'e' ∧ c ≠ 'E'

/-- There is no digit then. -/
theorem EndsNumber.endsDigits (h : EndsNumber rest) : EndsDigits rest :=
  fun c hc => (h c hc).1

/-- An exponent is read back. -/
theorem readExponent?_append {exponent : Option (Bool × List Nat)}
    (h : ∀ e ∈ exponent, Literal.Digits e.2) (hrest : EndsNumber rest) :
    readExponent? (Literal.exponentText exponent ++ rest) = some (exponent, rest) := by
  cases exponent with
  | none =>
      cases rest with
      | nil => rfl
      | cons c rest =>
          obtain ⟨_, _, hlower, hupper⟩ := hrest c rfl
          simp [Literal.exponentText, readExponent?, hlower, hupper]
  | some e =>
      obtain ⟨down, ds⟩ := e
      obtain ⟨hne, hds⟩ := h (down, ds) rfl
      have hread := takeDigits?_append hds hne hrest.endsDigits
      cases down <;> simp [Literal.exponentText, readExponent?, hread]

/-- A literal is read back, behind its sign. -/
theorem readUnsigned?_append (hl : l.WellFormed) (hrest : EndsNumber rest) :
    readUnsigned? l.negative (l.unsignedText ++ rest) = some (l.written, rest) := by
  obtain ⟨hwhole, hds⟩ := hl.whole
  have hexponent := readExponent?_append hl.exponent hrest
  have htext : l.unsignedText ++ rest = digitsText l.whole ++
      (Literal.fractionText l.fraction ++ (Literal.exponentText l.exponent ++ rest)) := by
    simp [Literal.unsignedText]
  -- Behind the digits before the point, the text goes on with an exponent or with neither.
  have hends : ∀ c ∈ (Literal.exponentText l.exponent ++ rest).head?,
      c.isDigit = false ∧ c ≠ '.' := by
    cases l.exponent with
    | none => exact fun c hc => ⟨(hrest c hc).1, (hrest c hc).2.1⟩
    | some e =>
        rintro c ⟨⟩
        decide
  generalize Literal.exponentText l.exponent ++ rest = tail at hexponent htext hends
  have hleading : ¬ (l.whole.head? = some 0 ∧ l.whole.length ≠ 1) :=
    fun h => h.2 (hl.leading h.1)
  unfold readUnsigned?
  rw [htext]
  cases hfraction : l.fraction with
  | none =>
      have htail : EndsDigits tail := fun c hc => (hends c hc).1
      rw [Literal.fractionText, List.nil_append, takeDigits?_append hds hwhole htail,
        Option.bind_some]
      dsimp only
      rw [if_neg hleading]
      split
      · exact absurd rfl (hends '.' rfl).2
      · rw [Option.bind_some, hexponent, ← hfraction, Option.map_some, Literal.written]
        dsimp only
        cases l.number? <;> rfl
  | some ds =>
      obtain ⟨hne, hbelow⟩ := hl.fraction ds hfraction
      have htail : EndsDigits tail := fun c hc => (hends c hc).1
      have hpoint : EndsDigits ('.' :: (digitsText ds ++ tail)) := by
        rintro c ⟨⟩
        decide
      rw [Literal.fractionText, List.cons_append, takeDigits?_append hds hwhole hpoint,
        Option.bind_some]
      dsimp only
      rw [if_neg hleading]
      simp only [takeDigits?_append hbelow hne htail, Option.map_some, Option.bind_some, hexponent]
      rw [← hfraction, Literal.written]
      cases l.number? <;> rfl

/-- A literal is read as what it denotes. -/
theorem readValue_spell (hl : l.WellFormed) (hrest : EndsNumber rest) (fuel : Nat) :
    readValue (fuel + 1) (l.spell ++ rest) = some (l.written, rest) := by
  rw [← readUnsigned?_append hl hrest]
  unfold Literal.spell
  cases hsign : l.negative with
  | true => rfl
  | false =>
      obtain ⟨hne, hds⟩ := hl.whole
      obtain ⟨d, ds, hwhole⟩ := List.exists_cons_of_ne_nil hne
      have hd : d < 10 := hds d (by rw [hwhole]; exact List.mem_cons_self)
      obtain ⟨tail, htail⟩ : ∃ tail, l.unsignedText ++ rest = d.digitChar :: tail := by
        refine ⟨digitsText ds ++ (Literal.fractionText l.fraction ++
          Literal.exponentText l.exponent ++ rest), ?_⟩
        simp [Literal.unsignedText, hwhole, digitsText]
      rw [if_neg Bool.false_ne_true, List.nil_append, htail]
      -- A digit starts no other value.
      interval_cases d <;> rfl

/-! ## Numbers -/

/-- A number without point and exponent. -/
def wholeLiteral (negative : Bool) (n : Nat) : Literal := ⟨negative, digitsOf 10 n, none, none⟩

/-- The digits of a number are digits. -/
theorem digits_digitsOf (n : Nat) : Literal.Digits (digitsOf 10 n) :=
  ⟨digitsOf_ne_nil (by decide) n, fun _ => lt_of_mem_digitsOf (by decide)⟩

/-- The digits of a number are its text. -/
theorem toDigits_eq_digitsText (n : Nat) : Nat.toDigits 10 n = digitsText (digitsOf 10 n) :=
  toDigits_eq_map (by decide) n

/-- A leading zero of a number stands alone. -/
theorem leading_digitsOf {n : Nat} (h : (digitsOf 10 n).head? = some 0) :
    (digitsOf 10 n).length = 1 := by
  obtain rfl := head?_digitsOf (by decide) h
  rw [digitsOf_of_lt (by decide)]
  rfl

/-- It follows the grammar. -/
theorem wellFormed_wholeLiteral (negative : Bool) (n : Nat) :
    (wholeLiteral negative n).WellFormed where
  whole := digits_digitsOf n
  leading := leading_digitsOf
  fraction := by simp [wholeLiteral]
  exponent := by simp [wholeLiteral]

/-- Reading more digits does not make a number smaller. -/
theorem le_foldl_digits (k : Nat) (ds : List Nat) : k ≤ ds.foldl (fun acc d => acc * 10 + d) k := by
  induction ds generalizing k with
  | nil => exact Nat.le_refl k
  | cons d ds ih => exact (show k ≤ k * 10 + d by omega).trans (ih (k * 10 + d))

/-- All digits of a number that fits 64 bits are kept. -/
theorem readDigits_eq (h : ds.foldl (fun acc d => acc * 10 + d) k ≤ maxSignificand) :
    readDigits k ds = (ds.foldl (fun acc d => acc * 10 + d) k, 0) := by
  induction ds generalizing k with
  | nil => rfl
  | cons d ds ih =>
      rw [readDigits, if_pos ((le_foldl_digits (k * 10 + d) ds).trans h)]
      exact ih h

/-- The text of an integer is that of its digits. -/
theorem integerText_eq_spell (n : Int) :
    integerText n = (wholeLiteral (decide (n < 0)) n.natAbs).spell := by
  have hunsigned : ∀ negative,
      (wholeLiteral negative n.natAbs).unsignedText = Nat.toDigits 10 n.natAbs := by
    intro negative
    rw [toDigits_eq_digitsText]
    simp [Literal.unsignedText, wholeLiteral, Literal.fractionText, Literal.exponentText]
  unfold integerText Literal.spell
  rw [hunsigned]
  by_cases hn : n < 0
  · rw [if_pos hn, decide_eq_true hn]
    rfl
  · rw [if_neg hn, decide_eq_false hn]
    rfl

/-- The digits of an integer denote it. -/
theorem number?_wholeLiteral (n : Integer) :
    (wholeLiteral (decide (n.value < 0)) n.value.natAbs).number? = some (.integer n) := by
  obtain ⟨value, hrange⟩ := n
  have hdigits : readDigits 0 (digitsOf 10 value.natAbs) = (value.natAbs, 0) := by
    have hvalue : (digitsOf 10 value.natAbs).foldl (fun acc d => acc * 10 + d) 0 = value.natAbs :=
      foldl_digitsOf (by decide) value.natAbs
    rw [readDigits_eq, hvalue]
    rw [hvalue]
    show value.natAbs ≤ 18446744073709551615
    omega
  have hsigned :
      (if decide (value < 0) = true then -(value.natAbs : Int) else value.natAbs) = value := by
    split
    · rename_i hneg
      have := of_decide_eq_true hneg
      omega
    · rename_i hneg
      have : ¬ value < 0 := fun h => hneg (decide_eq_true h)
      omega
  unfold Literal.number? wholeLiteral
  dsimp only
  rw [hdigits]
  dsimp only
  rw [if_pos rfl]
  unfold Literal.integer?
  simp only [hsigned]
  rw [dif_pos]
  refine ⟨hrange.1, hrange.2, ?_⟩
  rintro ⟨hneg, hzero⟩
  have := of_decide_eq_true hneg
  omega

/-! ## Decimal numbers -/

/-- Digits with a point behind the first `n` of them. -/
def positionalLiteral (negative : Bool) (ds : List Nat) (n : Int) : Literal :=
  if n ≤ 0 then ⟨negative, [0], some (List.replicate (-n).toNat 0 ++ ds), none⟩
  else
    ⟨negative, ds.take n.toNat ++ List.replicate (n.toNat - ds.length) 0,
      some (if (ds.drop n.toNat).isEmpty then [0] else ds.drop n.toNat), none⟩

/-- Digits with a point behind the first of them, and an exponent. -/
def scientificLiteral (negative : Bool) (ds : List Nat) (e : Int) : Literal :=
  ⟨negative, ds.take 1, if (ds.drop 1).isEmpty then none else some (ds.drop 1),
    some (decide (e < 0), digitsOf 10 e.natAbs)⟩

/-- Zeros as text. -/
theorem digitsText_replicate (n : Nat) :
    digitsText (List.replicate n 0) = List.replicate n '0' := by
  rw [digitsText, List.map_replicate]
  rfl

/-- The text of digits with a point. -/
theorem unsignedText_positionalLiteral (negative : Bool) (ds : List Nat) (n : Int) :
    (positionalLiteral negative ds n).unsignedText = positional (digitsText ds) n := by
  have hempty : ∀ l : List Nat, (digitsText l).isEmpty = l.isEmpty := by
    intro l
    cases l <;> rfl
  have hlength : (digitsText ds).length = ds.length := List.length_map _
  have hdrop : (digitsText ds).drop n.toNat = digitsText (ds.drop n.toNat) := List.map_drop.symm
  have htake : (digitsText ds).take n.toNat = digitsText (ds.take n.toNat) := List.map_take.symm
  have happend : ∀ l l' : List Nat, digitsText (l ++ l') = digitsText l ++ digitsText l' :=
    fun _ _ => List.map_append
  unfold positionalLiteral positional
  split
  · simp only [Literal.unsignedText, Literal.fractionText, Literal.exponentText, List.append_nil,
      happend, digitsText_replicate]
    rfl
  · simp only [Literal.unsignedText, Literal.fractionText, Literal.exponentText, List.append_nil,
      happend, digitsText_replicate, hlength, hdrop, htake, hempty]
    split <;> rfl

/-- Digits with a point follow the grammar if a leading zero stands alone. -/
theorem wellFormed_positionalLiteral (negative : Bool) (n : Int) (hds : Literal.Digits ds)
    (hleading : ds.head? = some 0 → ds.length = 1 ∧ n ≤ 1) :
    (positionalLiteral negative ds n).WellFormed := by
  obtain ⟨hne, hbelow⟩ := hds
  have hzeros : ∀ k, ∀ d ∈ List.replicate k 0, d < 10 := by
    intro k d hd
    rw [List.eq_of_mem_replicate hd]
    decide
  unfold positionalLiteral
  split
  · refine ⟨⟨List.cons_ne_nil 0 [], by simp⟩, fun _ => rfl, ?_, by simp⟩
    rintro fraction ⟨⟩
    exact ⟨List.append_ne_nil_of_right_ne_nil _ hne, fun d hd =>
      (List.mem_append.mp hd).elim (hzeros _ d) (hbelow d)⟩
  · rename_i hpos
    obtain ⟨first, others, rfl⟩ := List.exists_cons_of_ne_nil hne
    obtain ⟨k, hk⟩ : ∃ k, n.toNat = k + 1 := ⟨n.toNat - 1, by omega⟩
    refine ⟨⟨by simp [hk], fun d hd => ?_⟩, fun hzero => ?_, ?_, by simp⟩
    · exact (List.mem_append.mp hd).elim (fun hd => hbelow d (List.mem_of_mem_take hd)) (hzeros _ d)
    · have hfirst : first = 0 := by simpa [hk] using hzero
      obtain ⟨hone, hle⟩ := hleading (by rw [hfirst]; rfl)
      have hothers : others = [] := by simpa using hone
      have hsingle : k = 0 := by omega
      simp [hk, hothers, hsingle]
    · rintro fraction ⟨⟩
      split
      · exact ⟨List.cons_ne_nil 0 [], by simp⟩
      · rename_i hrest
        exact ⟨fun h => hrest (List.isEmpty_iff.mpr h),
          fun d hd => hbelow d (List.mem_of_mem_drop hd)⟩

/-- The text of digits with an exponent. -/
theorem unsignedText_scientificLiteral (negative : Bool) (e : Int) (hds : Literal.Digits ds) :
    (scientificLiteral negative ds e).unsignedText = scientific (digitsText ds) e := by
  obtain ⟨first, others, rfl⟩ := List.exists_cons_of_ne_nil hds.1
  unfold scientificLiteral scientific
  rw [toDigits_eq_digitsText]
  cases others with
  | nil =>
      simp [Literal.unsignedText, Literal.fractionText, Literal.exponentText, digitsText]
  | cons second others =>
      simp [Literal.unsignedText, Literal.fractionText, Literal.exponentText, digitsText]

/-- Digits with an exponent follow the grammar. -/
theorem wellFormed_scientificLiteral (negative : Bool) (e : Int) (hds : Literal.Digits ds) :
    (scientificLiteral negative ds e).WellFormed := by
  obtain ⟨hne, hbelow⟩ := hds
  obtain ⟨first, others, rfl⟩ := List.exists_cons_of_ne_nil hne
  refine ⟨⟨List.cons_ne_nil first [], fun d hd => hbelow d (List.mem_of_mem_take hd)⟩,
    fun _ => rfl, ?_, ?_⟩
  · intro fraction hfraction
    cases others with
    | nil => cases hfraction
    | cons second others =>
        cases hfraction
        exact ⟨List.cons_ne_nil second others, fun d hd => hbelow d (List.mem_cons_of_mem first hd)⟩
  · rintro _ ⟨⟩
    exact digits_digitsOf e.natAbs

/-- The sign of digits with a point. -/
theorem negative_positionalLiteral (negative : Bool) (ds : List Nat) (n : Int) :
    (positionalLiteral negative ds n).negative = negative := by
  unfold positionalLiteral
  split <;> rfl

/-- The text of a decimal number is that of a literal. -/
theorem exists_spell_eq_decimal (x : Binary64) :
    ∃ l : Literal, l.WellFormed ∧ decimalFormat.render x = l.spell := by
  have hzero := Binary64.shortest_of_zero (x := x)
  unfold DecimalFormat.render
  generalize x.shortest = shortest at hzero
  obtain ⟨d, t⟩ := shortest
  dsimp only at hzero ⊢
  have hds := digits_digitsOf d
  have hleading : (digitsOf 10 d).head? = some 0 → (digitsOf 10 d).length = 1 ∧ t = 0 :=
    fun hhead => ⟨leading_digitsOf hhead, hzero (head?_digitsOf (by decide) hhead)⟩
  rw [toDigits_eq_digitsText, show (digitsText (digitsOf 10 d)).length = (digitsOf 10 d).length from
    List.length_map _]
  generalize digitsOf 10 d = ds at hds hleading
  by_cases hrange :
      decimalFormat.least ≤ t + ds.length - 1 ∧ t + ds.length - 1 ≤ decimalFormat.greatest
  · refine ⟨positionalLiteral x.negative ds (t + ds.length - 1 + 1),
      wellFormed_positionalLiteral _ _ hds fun hhead => ?_, ?_⟩
    · obtain ⟨hsingle, hexponent⟩ := hleading hhead
      omega
    · rw [if_pos hrange, Literal.spell, unsignedText_positionalLiteral, negative_positionalLiteral]
  · refine ⟨scientificLiteral x.negative ds (t + ds.length - 1),
      wellFormed_scientificLiteral _ _ hds, ?_⟩
    rw [if_neg hrange, Literal.spell, unsignedText_scientificLiteral _ _ hds]
    rfl

/-- The text of every number is that of a literal. -/
theorem Number.exists_spell_eq (n : Number) : ∃ l : Literal, l.WellFormed ∧ n.render = l.spell := by
  cases n with
  | integer n => exact ⟨_, wellFormed_wholeLiteral _ _, integerText_eq_spell n.value⟩
  | decimal x => exact exists_spell_eq_decimal x

/-! ## Reading them back -/

/-- What the text of a number reads as. -/
def Number.reread (n : Number) : Written :=
  (Written.parse? (String.ofList n.render)).getD .void

/-- A number reads back if its text denotes the number. -/
def Number.ReadsBack (n : Number) : Prop :=
  Written.parse? (String.ofList n.render) = some (.number n)

/-- The text of a number as a whole denotes what its literal does. -/
theorem Number.parse?_render {n : Number} (hl : l.WellFormed) (hspell : n.render = l.spell) :
    Written.parse? (String.ofList n.render) = some l.written := by
  have hread : readValue (2 * l.spell.length + 2) (l.spell ++ []) = some (l.written, []) :=
    readValue_spell hl (by simp [EndsNumber]) _
  rw [List.append_nil] at hread
  unfold Written.parse?
  rw [hspell, String.toList_ofList]
  dsimp only
  rw [hread]
  rfl

/-- The text of a number is read up to its end. -/
theorem readValue_number (n : Number) (hrest : EndsNumber rest) (fuel : Nat) :
    readValue (fuel + 1) (n.render ++ rest) = some (n.reread, rest) := by
  obtain ⟨l, hl, hspell⟩ := n.exists_spell_eq
  rw [Number.reread, Number.parse?_render hl hspell, hspell, Option.getD_some]
  exact readValue_spell hl hrest fuel

/-- The text of a number denotes a number, or nothing that has a value. -/
theorem Number.reread_cases (n : Number) : (∃ m, n.reread = .number m) ∨ n.reread = .void := by
  obtain ⟨l, hl, hspell⟩ := n.exists_spell_eq
  rw [Number.reread, Number.parse?_render hl hspell, Option.getD_some, Literal.written]
  cases l.number? with
  | some m => exact Or.inl ⟨m, rfl⟩
  | none => exact Or.inr rfl

/-- A number reads back if its text denotes it. -/
theorem Number.readsBack_iff {n : Number} : n.ReadsBack ↔ n.reread = .number n := by
  obtain ⟨l, hl, hspell⟩ := n.exists_spell_eq
  rw [ReadsBack, Number.reread, Number.parse?_render hl hspell, Option.getD_some, Option.some.injEq]

/-- Every integer reads back. -/
theorem Number.readsBack_integer (n : Integer) : (Number.integer n).ReadsBack := by
  have hspell : (Number.integer n).render =
      (wholeLiteral (decide (n.value < 0)) n.value.natAbs).spell := integerText_eq_spell n.value
  rw [ReadsBack, Number.parse?_render (wellFormed_wholeLiteral _ _) hspell, Literal.written,
    number?_wholeLiteral]

end Json

end Fleet
