/-
# The grammar of identities

Which keys, names and MAC addresses a device may have, said without patterns: host names are
labels with points between them, MAC addresses are pairs of hexadecimal digits with colons or
hyphens between them.  The pattern of a label has its first and its last character apart from
those between; that these are 61 at most, and that one character may be both, is what limits a
label to 63 characters.

Main statements: `Identity.matches_label_iff`, `Text.Pattern.matches_separated_iff`,
`Device.validate_identity`.
-/
import Fleet.Proofs.Patterns
import Fleet.Proofs.Runs
import Mathlib.Data.List.Basic
import Mathlib.Tactic.IntervalCases

namespace Fleet

/-! ## Texts with separators -/

namespace Text

/-- A text consists of parts, one or more, with one separating character between any two. -/
inductive Separated (separates : Char → Prop) : List (List Char) → List Char → Prop where
  /-- The last part. -/
  | last (t : List Char) : Separated separates [t] t
  /-- A part with others behind it. -/
  | next (t : List Char) {c : Char} {parts : List (List Char)} {s : List Char} (hc : separates c)
      (h : Separated separates parts s) : Separated separates (t :: parts) (t ++ c :: s)

namespace Pattern

variable {a : Pattern} {p : Char → Bool} {separates : Char → Prop} {s : List Char}

/-- Any number of further parts, each behind a separating character. -/
theorem matches_separated_iff (hp : ∀ c, p c = true ↔ separates c) :
    Matches (seq a (many (seq (one p) a))) s ↔
      ∃ parts, Separated separates parts s ∧ ∀ t ∈ parts, Matches a t := by
  rw [matches_seq_iff]
  constructor
  · rintro ⟨t, u, rfl, ht, hu⟩
    obtain ⟨blocks, rfl, hblocks⟩ := matches_many_iff.mp hu
    clear hu
    -- Each block is the separating character and the part behind it.
    induction blocks generalizing t with
    | nil =>
        rw [List.flatten_nil, List.append_nil]
        exact ⟨[t], .last t, List.forall_mem_singleton.mpr ht⟩
    | cons block rest ih =>
        obtain ⟨hblock, hrest⟩ := List.forall_mem_cons.mp hblocks
        obtain ⟨first, t', rfl, hfirst, ht'⟩ := matches_seq_iff.mp hblock
        obtain ⟨c, hc, rfl⟩ := matches_one_iff.mp hfirst
        obtain ⟨parts, hseparated, hparts⟩ := ih t' ht' hrest
        refine ⟨t :: parts, ?_, List.forall_mem_cons.mpr ⟨ht, hparts⟩⟩
        have hnext := Separated.next t ((hp c).mp hc) hseparated
        simpa using hnext
  · rintro ⟨parts, hseparated, hparts⟩
    induction hseparated with
    | last t => exact ⟨t, [], (List.append_nil t).symm, hparts t List.mem_cons_self, .manyNil⟩
    | @next t c parts s hc _ ih =>
        obtain ⟨ht, hrest⟩ := List.forall_mem_cons.mp hparts
        obtain ⟨t', u, rfl, ht', hu⟩ := ih hrest
        refine ⟨t, [c] ++ t' ++ u, by simp, ht, ?_⟩
        exact .manyCons (.seq (.one ((hp c).mpr hc)) ht') hu

/-- A number of parts, each before a separating character, and one more. -/
theorem matches_times_separated_iff (hp : ∀ c, p c = true ↔ separates c) {n : Nat} :
    Matches (seq (times n (seq a (one p))) a) s ↔
      ∃ parts, Separated separates parts s ∧ parts.length = n + 1 ∧ ∀ t ∈ parts, Matches a t := by
  induction n generalizing s with
  | zero =>
      rw [times, matches_seq_iff]
      constructor
      · rintro ⟨t, u, rfl, ht, hu⟩
        obtain rfl := matches_nothing_iff.mp ht
        exact ⟨[u], .last u, rfl, List.forall_mem_singleton.mpr hu⟩
      · rintro ⟨parts, hseparated, hlength, hparts⟩
        cases hseparated with
        | last => exact ⟨[], s, rfl, .nothing, hparts s List.mem_cons_self⟩
        | next t hc h =>
            cases h <;> simp at hlength
  | succ n ih =>
      rw [times, matches_seq_iff]
      constructor
      · rintro ⟨_, u, rfl, hfirst, hu⟩
        obtain ⟨block, blocks, rfl, hblock, hblocks⟩ := matches_seq_iff.mp hfirst
        obtain ⟨t, last, rfl, ht, hlast⟩ := matches_seq_iff.mp hblock
        obtain ⟨c, hc, rfl⟩ := matches_one_iff.mp hlast
        obtain ⟨parts, hseparated, hlength, hparts⟩ := ih.mp (.seq hblocks hu)
        refine ⟨t :: parts, ?_, congrArg (· + 1) hlength, List.forall_mem_cons.mpr ⟨ht, hparts⟩⟩
        have hnext := Separated.next t ((hp c).mp hc) hseparated
        simpa using hnext
      · rintro ⟨parts, hseparated, hlength, hparts⟩
        cases hseparated with
        | last => simp at hlength
        | @next t c parts s hc h =>
            obtain ⟨ht, hrest⟩ := List.forall_mem_cons.mp hparts
            obtain ⟨blocks, u, rfl, hblocks, hu⟩ :=
              matches_seq_iff.mp (ih.mpr ⟨parts, h, Nat.succ.inj hlength, hrest⟩)
            refine ⟨t ++ [c] ++ blocks, u, by simp, ?_, hu⟩
            exact .seq (.seq ht (.one ((hp c).mpr hc))) hblocks

end Pattern

end Text

open Text (Separated)

/-! ## The grammar -/

namespace Identity

/-- A label of a host name: 1 to 63 letters, digits and hyphens, with no hyphen at either end. -/
structure IsLabel (t : List Char) : Prop where
  /-- There are 1 to 63 characters. -/
  length : 1 ≤ t.length ∧ t.length ≤ 63
  /-- They are ASCII letters, digits and hyphens. -/
  chars : ∀ c ∈ t, c.isAlphanum = true ∨ c = '-'
  /-- The first one is no hyphen. -/
  first : t.head? ≠ some '-'
  /-- Neither is the last one. -/
  last : t.getLast? ≠ some '-'

/-- A host name: labels with points between them. -/
def IsHostname (s : String) : Prop :=
  ∃ labels, Separated (· = '.') labels s.toList ∧ ∀ t ∈ labels, IsLabel t

/-- Two hexadecimal digits. -/
def IsHexPair (t : List Char) : Prop :=
  t.length = 2 ∧ ∀ c ∈ t, c ∈ "0123456789abcdefABCDEF".toList

/-- A MAC address: six pairs of hexadecimal digits, with a colon or hyphen between any two. -/
def IsMacAddress (s : String) : Prop :=
  ∃ pairs, Separated (fun c => c = ':' ∨ c = '-') pairs s.toList ∧ pairs.length = 6 ∧
    ∀ t ∈ pairs, IsHexPair t

/-- A key: it is not empty, and there is no white space, no slash and no point in it. -/
def IsKey (s : String) : Prop :=
  s ≠ "" ∧ ∀ c ∈ s.toList, Text.isBlank c = false ∧ c ≠ '/' ∧ c ≠ '.'

/-- A name: a host name or a MAC address. -/
def IsName (s : String) : Prop :=
  IsHostname s ∨ IsMacAddress s

variable {c : Char} {t : List Char} {s : String}

/-! ## Classes of characters -/

/-- The letters and digits are those of ASCII. -/
theorem isAlphanumeric_eq (c : Char) : isAlphanumeric c = c.isAlphanum := by
  have hdigit : (decide ('0' ≤ c) && decide (c ≤ '9')) = c.isDigit := rfl
  have hlower : (decide ('a' ≤ c) && decide (c ≤ 'z')) = c.isLower := rfl
  have hupper : (decide ('A' ≤ c) && decide (c ≤ 'Z')) = c.isUpper := (Bool.decide_and _ _).symm
  have halphanum : c.isAlphanum = (c.isUpper || c.isLower || c.isDigit) := rfl
  rw [isAlphanumeric, hdigit, hlower, hupper, halphanum]
  cases c.isDigit <;> cases c.isLower <;> cases c.isUpper <;> rfl

/-- The hexadecimal digits are these 22 characters. -/
theorem isHexDigit_iff : isHexDigit c = true ↔ c ∈ "0123456789abcdefABCDEF".toList := by
  constructor
  · intro h
    simp only [isHexDigit, Bool.or_eq_true, Bool.and_eq_true, decide_eq_true_eq] at h
    rcases h with (⟨hlow, hhigh⟩ | ⟨hlow, hhigh⟩) | ⟨hlow, hhigh⟩
    · have hlow : 48 ≤ c.toNat := hlow
      have hhigh : c.toNat ≤ 57 := hhigh
      rw [← Char.ofNat_toNat c]
      interval_cases c.toNat <;> decide
    · have hlow : 97 ≤ c.toNat := hlow
      have hhigh : c.toNat ≤ 102 := hhigh
      rw [← Char.ofNat_toNat c]
      interval_cases c.toNat <;> decide
    · have hlow : 65 ≤ c.toNat := hlow
      have hhigh : c.toNat ≤ 70 := hhigh
      rw [← Char.ofNat_toNat c]
      interval_cases c.toNat <;> decide
  · intro h
    have hall : "0123456789abcdefABCDEF".toList.all isHexDigit = true := by decide
    exact List.all_eq_true.mp hall c h

/-! ## Patterns and the grammar -/

/-- The pattern of a pair has the pairs of hexadecimal digits. -/
theorem matches_hexPair_iff : hexPair.Matches t ↔ IsHexPair t := by
  simp only [hexPair, Text.Pattern.matches_times_one_iff, isHexDigit_iff, IsHexPair]

/-- A letter or digit is no hyphen. -/
theorem ne_hyphen_of_isAlphanum (h : c.isAlphanum = true) : c ≠ '-' := by
  rintro rfl
  exact absurd h (by decide)

/-- The pattern of a label has the labels. -/
theorem matches_label_iff : label.Matches t ↔ IsLabel t := by
  simp only [label, Text.Pattern.matches_alt_iff, Text.Pattern.matches_seq_iff,
    Text.Pattern.matches_one_iff, Text.Pattern.matches_upTo_one_iff, isAlphanumeric_eq,
    Bool.or_eq_true, beq_iff_eq]
  constructor
  · rintro (⟨c, hc, rfl⟩ | ⟨_, _, rfl, ⟨c, hc, rfl⟩, m, _, rfl, ⟨hlength, hm⟩, d, hd, rfl⟩)
    · have hne : some c ≠ some '-' := by simpa using ne_hyphen_of_isAlphanum hc
      exact ⟨⟨Nat.le_refl 1, by simp⟩, List.forall_mem_singleton.mpr (Or.inl hc), hne, hne⟩
    · refine ⟨?_, ?_, ?_, ?_⟩
      · simp only [List.length_append, List.length_singleton]
        omega
      · simp only [List.forall_mem_append, List.forall_mem_singleton]
        exact ⟨Or.inl hc, hm, Or.inl hd⟩
      · simpa using ne_hyphen_of_isAlphanum hc
      · rw [← List.append_assoc, List.getLast?_concat]
        simpa using ne_hyphen_of_isAlphanum hd
  · rintro ⟨⟨hlow, hhigh⟩, hchars, hfirst, hlast⟩
    obtain ⟨c, rest, rfl⟩ := List.exists_cons_of_length_pos hlow
    obtain ⟨hc, hrest⟩ := List.forall_mem_cons.mp hchars
    have hc : c.isAlphanum = true := hc.resolve_right fun heq => hfirst (by rw [heq]; rfl)
    rcases List.eq_nil_or_concat' rest with rfl | ⟨m, d, rfl⟩
    · exact Or.inl ⟨c, hc, rfl⟩
    · -- The characters between the first and the last one may be hyphens.
      rw [List.forall_mem_append, List.forall_mem_singleton] at hrest
      have hd : d.isAlphanum = true := hrest.2.resolve_right fun heq => hlast (by
        rw [heq, ← List.cons_append, List.getLast?_concat])
      refine Or.inr ⟨[c], _, rfl, ⟨c, hc, rfl⟩, m, [d], rfl, ⟨?_, hrest.1⟩, d, hd, rfl⟩
      simp only [List.length_cons, List.length_append, List.length_nil] at hhigh
      omega

/-- The pattern of host names has the host names. -/
theorem accepts_hostname_iff : hostname.accepts s.toList = true ↔ IsHostname s := by
  have hseparates : ∀ c : Char, (c == '.') = true ↔ c = '.' := fun _ => beq_iff_eq
  rw [Text.Pattern.accepts_iff, hostname, Text.Pattern.char,
    Text.Pattern.matches_separated_iff hseparates]
  simp only [matches_label_iff, IsHostname]

/-- The pattern of MAC addresses has the MAC addresses. -/
theorem accepts_macAddress_iff : macAddress.accepts s.toList = true ↔ IsMacAddress s := by
  have hseparates : ∀ c : Char, (c == ':' || c == '-') = true ↔ c = ':' ∨ c = '-' := by
    intro c
    rw [Bool.or_eq_true, beq_iff_eq, beq_iff_eq]
  rw [Text.Pattern.accepts_iff, macAddress, Text.Pattern.matches_times_separated_iff hseparates]
  simp only [matches_hexPair_iff, IsMacAddress]

/-- The pattern of keys has the keys. -/
theorem accepts_key_iff : key.accepts s.toList = true ↔ IsKey s := by
  rw [Text.Pattern.accepts_iff, key, Text.Pattern.matches_many1_one_iff]
  simp only [IsKey, Bool.not_eq_true', Bool.or_eq_false_iff, beq_eq_false_iff_ne, ne_eq,
    String.toList_eq_nil_iff, and_assoc]

/-! ## Checks -/

variable {accepted : Bool} {P : Prop}

/-- A check passes the values of a grammar if that is what it tests, and names the field and the
value otherwise. -/
theorem check_cases (field : IdentityField) (h : accepted = true ↔ P) :
    (P ∧ check field accepted s = .ok ()) ∨
      (¬ P ∧ check field accepted s = .error (.invalidIdentity field s)) := by
  unfold check
  split
  · rename_i haccepted
    exact Or.inl ⟨h.mp haccepted, rfl⟩
  · rename_i haccepted
    exact Or.inr ⟨fun hP => haccepted (h.mpr hP), rfl⟩

/-- The check of names passes host names and MAC addresses. -/
theorem accepts_name_iff :
    (hostname.accepts s.toList || macAddress.accepts s.toList) = true ↔ IsName s := by
  rw [Bool.or_eq_true, accepts_hostname_iff, accepts_macAddress_iff, IsName]

end Identity

/-! ## Devices -/

namespace Device

open Identity

/-- The identity of a device keeps to the grammar. -/
structure WellNamed (d : Device) : Prop where
  /-- So does the key. -/
  key : IsKey d.key
  /-- So does the name. -/
  name : IsName d.name
  /-- So does the MAC address. -/
  macAddress : IsMacAddress d.macAddress

/-- The first field of a device that breaks the grammar, with its value; the key comes before the
name, and that before the MAC address. -/
inductive FirstOffence (d : Device) : IdentityField → String → Prop where
  | key (h : ¬ IsKey d.key) : FirstOffence d .key d.key
  | name (hkey : IsKey d.key) (h : ¬ IsName d.name) : FirstOffence d .name d.name
  | macAddress (hkey : IsKey d.key) (hname : IsName d.name) (h : ¬ IsMacAddress d.macAddress) :
      FirstOffence d .macAddress d.macAddress

variable {d : Device} {field field' : IdentityField} {value value' : String}

/-- There is one first offence at most. -/
theorem FirstOffence.unique (h : d.FirstOffence field value) (h' : d.FirstOffence field' value') :
    field = field' ∧ value = value' := by
  cases h with
  | key hno =>
      cases h' with
      | key => exact ⟨rfl, rfl⟩
      | name hkey | macAddress hkey => exact absurd hkey hno
  | name hkey hno =>
      cases h' with
      | key hno' => exact absurd hkey hno'
      | name => exact ⟨rfl, rfl⟩
      | macAddress _ hname => exact absurd hname hno
  | macAddress hkey hname =>
      cases h' with
      | key hno' => exact absurd hkey hno'
      | name _ hno' => exact absurd hname hno'
      | macAddress => exact ⟨rfl, rfl⟩

/-- Where the grammar is kept to there is no offence. -/
theorem WellNamed.not_firstOffence (h : d.WellNamed) : ¬ d.FirstOffence field value := by
  intro hfirst
  cases hfirst with
  | key hno => exact hno h.key
  | name _ hno => exact hno h.name
  | macAddress _ _ hno => exact hno h.macAddress

/-- Either the grammar is kept to and the device is valid, or there is a first offence and the
check ends there. -/
theorem validate_cases (d : Device) :
    (d.WellNamed ∧ d.validate = .ok ()) ∨
      ∃ field value, d.FirstOffence field value ∧
        d.validate = .error (.invalidIdentity field value) := by
  unfold validate checkKey checkName checkMacAddress
  obtain ⟨hkey, hcheck⟩ | ⟨hkey, hcheck⟩ := check_cases .key (accepts_key_iff (s := d.key))
  · obtain ⟨hname, hcheck'⟩ | ⟨hname, hcheck'⟩ := check_cases .name (accepts_name_iff (s := d.name))
    · obtain ⟨hmac, hcheck''⟩ | ⟨hmac, hcheck''⟩ :=
        check_cases .macAddress (accepts_macAddress_iff (s := d.macAddress))
      · rw [hcheck, hcheck', hcheck'']
        exact Or.inl ⟨⟨hkey, hname, hmac⟩, rfl⟩
      · rw [hcheck, hcheck', hcheck'']
        exact Or.inr ⟨_, _, .macAddress hkey hname hmac, rfl⟩
    · rw [hcheck, hcheck']
      exact Or.inr ⟨_, _, .name hkey hname, rfl⟩
  · rw [hcheck]
    exact Or.inr ⟨_, _, .key hkey, rfl⟩

/-- A device is valid exactly if its key, its name and its MAC address keep to the grammar, and it
is refused for the first of them that does not. -/
theorem validate_identity (d : Device) :
    (d.validate = .ok () ↔ d.WellNamed) ∧
      ∀ e, d.validate = .error e ↔
        ∃ field value, d.FirstOffence field value ∧ e = .invalidIdentity field value := by
  rcases d.validate_cases with ⟨hwell, hok⟩ | ⟨field, value, hfirst, herror⟩
  · rw [hok]
    refine ⟨iff_of_true rfl hwell, fun e => iff_of_false nofun ?_⟩
    rintro ⟨field, value, hfirst, _⟩
    exact hwell.not_firstOffence hfirst
  · rw [herror]
    refine ⟨iff_of_false nofun fun hwell => hwell.not_firstOffence hfirst, fun e => ?_⟩
    constructor
    · intro he
      exact ⟨field, value, hfirst, (Except.error.inj he).symm⟩
    · rintro ⟨field', value', hfirst', rfl⟩
      obtain ⟨rfl, rfl⟩ := hfirst.unique hfirst'
      rfl

/-- A label of 63 letters is as long as it may be. -/
example :
    { Sample.device with name := String.ofList (List.replicate 63 'a') }.validate = .ok () ∧
      { Sample.device with name := String.ofList (List.replicate 64 'a') }.validate =
        .error (.invalidIdentity .name (String.ofList (List.replicate 64 'a'))) := by
  decide +kernel

end Device

end Fleet
