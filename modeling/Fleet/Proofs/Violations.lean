/-
# The grammar of documents

Which documents conform, said without the check, and where the structure of a document can be
broken.  The places are ordered as a reader meets them: by section, then by entry, then by field.  A
check of some places reports the first violation there, so that checks of places that follow one
another can be put one after the other.

Main statements: `Json.Conforms.not_violates`, `Json.conforms_of_not_violates`, `Json.Reports.seq`,
`Json.validate_conforms`.
-/
import Fleet.Document.Schema
import Mathlib.Tactic.IntervalCases

namespace Fleet.Json

/-! ## Documents that conform -/

/-- Three or four octal digits. -/
def OctalMode (mode : String) : Prop :=
  (mode.length = 3 ∨ mode.length = 4) ∧
    ∀ c ∈ mode.toList, c ∈ ['0', '1', '2', '3', '4', '5', '6', '7']

/-- An entry has a string in a field. -/
def HasString (entry : Json) (field : String) : Prop :=
  ∃ text, entry.field? field = some (string text)

/-- The mode of a file is an octal one, if there is any. -/
def ModeOctal (entry : Json) : Prop :=
  ∀ v, entry.field? "mode" = some v → ∃ mode, v = string mode ∧ OctalMode mode

/-- A document has the structure that every backend relies on. -/
structure Conforms (document : Json) : Prop where
  /-- The document is an object. -/
  root : document.isObject = true
  /-- The sections that are there are lists of objects. -/
  lists : ∀ (s : ListSection) v, document.field? s.name = some v →
    ∃ entries, v = array entries ∧ ∀ entry ∈ entries, entry.isObject = true
  /-- Interfaces are named. -/
  interfaces : ∀ entries, document.field? "interfaces" = some (array entries) →
    ∀ entry ∈ entries, entry.HasString "name"
  /-- Files have a path, contents and perhaps an octal mode. -/
  files : ∀ entries, document.field? "files" = some (array entries) →
    ∀ entry ∈ entries, entry.HasString "path" ∧ entry.HasString "contents" ∧ entry.ModeOctal

/-! ## Places -/

/-- The fields of entries that have a form. -/
inductive EntryField where
  | name
  | path
  | contents
  | mode
  deriving DecidableEq

namespace EntryField

/-- The name of a field. -/
def label : EntryField → String
  | name => "name"
  | path => "path"
  | contents => "contents"
  | mode => "mode"

/-- The place of a field among those of an entry. -/
def ordinal : EntryField → Nat
  | name => 0
  | path => 1
  | contents => 2
  | mode => 3

end EntryField

namespace ListSection

/-- The place of a section among those of a document. -/
def ordinal : ListSection → Nat
  | interfaces => 0
  | files => 1
  | tunnels => 2
  | wireguard => 3
  | vxlan => 4

/-- The fields that an entry must have. -/
def required : ListSection → List EntryField
  | interfaces => [.name]
  | files => [.path, .contents]
  | _ => []

end ListSection

/-- A place in a document where its structure can be broken. -/
inductive Place where
  /-- The document as a whole. -/
  | root
  /-- A section. -/
  | list (s : ListSection)
  /-- An entry of a section. -/
  | entry (s : ListSection) (index : Nat)
  /-- A field of an entry. -/
  | field (s : ListSection) (index : Nat) (f : EntryField)

namespace Place

/-- The path of a place, as it is reported. -/
def path : Place → String
  | root => ""
  | list s => "/" ++ s.name
  | entry s index => "/" ++ s.name ++ "/" ++ toString index
  | field s index f => "/" ++ s.name ++ "/" ++ toString index ++ "/" ++ f.label

/-- Where a place stands: its section, the entry of that and the field of that, as far
as it has them. -/
def position : Place → List Nat
  | root => []
  | list s => [s.ordinal]
  | entry s index => [s.ordinal, index]
  | field s index f => [s.ordinal, index, f.ordinal]

/-- A place comes before another one: its position is the lexicographically smaller one. -/
def Before (p q : Place) : Prop :=
  List.Lex (· < ·) p.position q.position

/-- The places of an entry. -/
def AtEntry (s : ListSection) (index : Nat) (p : Place) : Prop :=
  p = entry s index ∨ ∃ f, p = field s index f

/-- The places of a section. -/
def AtSection (s : ListSection) (p : Place) : Prop :=
  p = list s ∨ ∃ index, p.AtEntry s index

end Place

/-- A section of a document is a list with an entry at an index. -/
def EntryAt (document : Json) (s : ListSection) (index : Nat) (entry : Json) : Prop :=
  ∃ entries, document.field? s.name = some (array entries) ∧ entries[index]? = some entry

/-- The structure of a document is broken at a place, for a reason. -/
inductive Violates (document : Json) : Place → String → Prop where
  | root (h : document.isObject = false) : Violates document .root "document must be an object"
  | list {s : ListSection} {v : Json} (h : document.field? s.name = some v)
      (hv : ∀ entries, v ≠ array entries) : Violates document (.list s) "must be a list"
  | entry {s : ListSection} {index : Nat} {entry : Json} (h : document.EntryAt s index entry)
      (he : entry.isObject = false) : Violates document (.entry s index) "must be an object"
  | missing {s : ListSection} {index : Nat} {entry : Json} {f : EntryField}
      (h : document.EntryAt s index entry) (he : entry.isObject = true) (hf : f ∈ s.required)
      (hnone : entry.field? f.label = none) : Violates document (.field s index f) "is required"
  | notString {s : ListSection} {index : Nat} {entry v : Json} {f : EntryField}
      (h : document.EntryAt s index entry) (hf : f ∈ s.required)
      (hv : entry.field? f.label = some v) (hs : ∀ text, v ≠ string text) :
      Violates document (.field s index f) "must be a string"
  | notOctal {index : Nat} {entry : Json} (h : document.EntryAt .files index entry)
      (hm : ¬ entry.ModeOctal) :
      Violates document (.field .files index .mode) "must be an octal mode string"

/-- A place of a document is the first one where its structure is broken. -/
def FirstViolation (document : Json) (p : Place) (reason : String) : Prop :=
  document.Violates p reason ∧ ∀ q reason', document.Violates q reason' → ¬ q.Before p

/-! ## The order of places -/

namespace Place

variable {s s' : ListSection} {i j : Nat} {f f' : EntryField} {p q : Place}

/-- Places are where they stand. -/
theorem position_injective (h : p.position = q.position) : p = q := by
  have hsection : ∀ {s s' : ListSection}, s.ordinal = s'.ordinal → s = s' := by
    intro s s' h
    cases s <;> cases s' <;> first | rfl | cases h
  have hfield : ∀ {f f' : EntryField}, f.ordinal = f'.ordinal → f = f' := by
    intro f f' h
    cases f <;> cases f' <;> first | rfl | cases h
  cases p <;> cases q <;> simp only [position, List.cons.injEq, reduceCtorEq, and_true,
    and_false] at h
  · rfl
  · rw [hsection h]
  · rw [hsection h.1, h.2]
  · rw [hsection h.1, h.2.1, hfield h.2.2]

/-- Of two different places one comes before the other. -/
theorem eq_of_not_before (h : ¬ p.Before q) (h' : ¬ q.Before p) : p = q :=
  position_injective (List.le_antisymm h' h)

/-- No place comes before itself. -/
theorem not_before_self (p : Place) : ¬ p.Before p :=
  List.lex_irrefl Nat.lt_irrefl p.position

/-- Nothing comes before the document as a whole. -/
theorem not_before_root (p : Place) : ¬ p.Before root :=
  List.not_lex_nil

/-- Fields of an entry come in their order. -/
theorem not_before_field (h : f.ordinal < f'.ordinal) : ¬ (field s i f').Before (field s i f) := by
  simp [Before, position, List.cons_lex_cons_iff]
  omega

/-- An entry comes before its fields. -/
theorem not_before_entry (h : q.AtEntry s i) : ¬ q.Before (entry s i) := by
  obtain rfl | ⟨f, rfl⟩ := h <;> simp [Before, position, List.cons_lex_cons_iff]

/-- Entries of a section come by their indices. -/
theorem not_before_of_atEntry (hp : p.AtEntry s i) (hq : q.AtEntry s j) (h : i < j) :
    ¬ q.Before p := by
  obtain rfl | ⟨f, rfl⟩ := hp <;> obtain rfl | ⟨f', rfl⟩ := hq <;>
    simp [Before, position, List.cons_lex_cons_iff] <;> omega

/-- A section comes before its entries. -/
theorem not_before_list (h : q.AtSection s) : ¬ q.Before (list s) := by
  obtain rfl | ⟨i, rfl | ⟨f, rfl⟩⟩ := h <;> simp [Before, position, List.cons_lex_cons_iff]

/-- Sections come in their order. -/
theorem not_before_of_atSection (hp : p.AtSection s) (hq : q.AtSection s')
    (h : s.ordinal < s'.ordinal) : ¬ q.Before p := by
  obtain rfl | ⟨i, rfl | ⟨f, rfl⟩⟩ := hp <;> obtain rfl | ⟨j, rfl | ⟨f', rfl⟩⟩ := hq <;>
    simp [Before, position, List.cons_lex_cons_iff] <;> omega

end Place

variable {document entry : Json} {s s' : ListSection} {index : Nat} {f : EntryField} {p q : Place}
  {reason reason' : String}

/-! ## Digits -/

/-- An octal digit is one of eight characters. -/
theorem octalDigit_iff {c : Char} :
    ('0' ≤ c ∧ c ≤ '7') ↔ c ∈ ['0', '1', '2', '3', '4', '5', '6', '7'] := by
  constructor
  · rintro ⟨hlow, hhigh⟩
    have hlow : 48 ≤ c.toNat := hlow
    have hhigh : c.toNat ≤ 55 := hhigh
    rw [← Char.ofNat_toNat c]
    interval_cases c.toNat <;> decide
  · intro h
    simp only [List.mem_cons, List.not_mem_nil, or_false] at h
    rcases h with rfl | rfl | rfl | rfl | rfl | rfl | rfl | rfl <;> decide

/-- The test of modes finds the octal ones. -/
theorem isOctalMode_iff {mode : String} : isOctalMode mode = true ↔ OctalMode mode := by
  unfold isOctalMode OctalMode
  simp only [Bool.and_eq_true, decide_eq_true_eq, List.all_eq_true, octalDigit_iff,
    String.length_toList]
  constructor
  · rintro ⟨⟨hlow, hhigh⟩, hdigits⟩
    exact ⟨by omega, hdigits⟩
  · rintro ⟨hlength, hdigits⟩
    exact ⟨⟨by omega, by omega⟩, hdigits⟩

/-! ## Violations -/

/-- There is one entry at an index. -/
theorem EntryAt.unique {entry' : Json} (h : document.EntryAt s index entry)
    (h' : document.EntryAt s index entry') : entry = entry' := by
  obtain ⟨entries, hlist, hentry⟩ := h
  obtain ⟨entries', hlist', hentry'⟩ := h'
  cases hlist.symm.trans hlist'
  exact Option.some.inj (hentry.symm.trans hentry')

/-- A place has one reason at most. -/
theorem Violates.reason_unique (h : document.Violates p reason) (h' : document.Violates p reason') :
    reason = reason' := by
  cases h with
  | root => cases h' with | root => rfl
  | list => cases h' with | list => rfl
  | entry => cases h' with | entry => rfl
  | missing hat _ hf hnone =>
      cases h' with
      | missing => rfl
      | notString hat' _ hv =>
          rw [hat.unique hat', hv] at hnone
          cases hnone
      | notOctal => simp [ListSection.required] at hf
  | notString hat hf hv =>
      cases h' with
      | notString => rfl
      | missing hat' _ _ hnone =>
          rw [hat.unique hat', hnone] at hv
          cases hv
      | notOctal => simp [ListSection.required] at hf
  | notOctal =>
      cases h' with
      | notOctal => rfl
      | missing _ _ hf => simp [ListSection.required] at hf
      | notString _ hf => simp [ListSection.required] at hf

/-- The fields that entries of a conforming document must have hold strings. -/
theorem Conforms.hasString (h : document.Conforms) (hat : document.EntryAt s index entry)
    (hf : f ∈ s.required) : entry.HasString f.label := by
  obtain ⟨entries, hlist, hentry⟩ := hat
  have hmem := List.mem_of_getElem? hentry
  cases s with
  | interfaces =>
      obtain rfl := List.mem_singleton.mp hf
      exact h.interfaces entries hlist entry hmem
  | files =>
      obtain ⟨hpath, hcontents, _⟩ := h.files entries hlist entry hmem
      rcases List.mem_cons.mp hf with rfl | hf
      · exact hpath
      · obtain rfl := List.mem_singleton.mp hf
        exact hcontents
  | tunnels | wireguard | vxlan => cases hf

/-- The structure of a document that conforms is broken nowhere. -/
theorem Conforms.not_violates (h : document.Conforms) : ¬ document.Violates p reason := by
  intro hviolates
  cases hviolates with
  | root hroot =>
      rw [h.root] at hroot
      cases hroot
  | list hv hno =>
      obtain ⟨entries, rfl, _⟩ := h.lists _ _ hv
      exact hno entries rfl
  | entry hat he =>
      obtain ⟨entries, hlist, hentry⟩ := hat
      obtain ⟨_, heq, hobjects⟩ := h.lists _ _ hlist
      cases heq
      rw [hobjects _ (List.mem_of_getElem? hentry)] at he
      cases he
  | missing hat _ hf hnone =>
      obtain ⟨text, htext⟩ := h.hasString hat hf
      rw [hnone] at htext
      cases htext
  | notString hat hf hv hno =>
      obtain ⟨text, htext⟩ := h.hasString hat hf
      exact hno text (Option.some.inj (hv.symm.trans htext))
  | notOctal hat hno =>
      obtain ⟨entries, hlist, hentry⟩ := hat
      exact hno (h.files entries hlist _ (List.mem_of_getElem? hentry)).2.2

/-- A field that must be there and is not broken holds a string. -/
theorem hasString_of_not_violates (hat : document.EntryAt s index entry)
    (he : entry.isObject = true) (hf : f ∈ s.required)
    (h : ∀ reason, ¬ document.Violates (.field s index f) reason) : entry.HasString f.label := by
  cases hv : entry.field? f.label with
  | none => exact absurd (Violates.missing hat he hf hv) (h _)
  | some v =>
      apply Classical.byContradiction
      intro hno
      refine h _ (Violates.notString hat hf hv ?_)
      rintro text rfl
      exact hno ⟨text, hv⟩

/-- A document conforms if its structure is broken nowhere. -/
theorem conforms_of_not_violates (h : ∀ p reason, ¬ document.Violates p reason) :
    document.Conforms := by
  have hat : ∀ {s : ListSection} {entries}, document.field? s.name = some (array entries) →
      ∀ entry ∈ entries, ∃ index, document.EntryAt s index entry := by
    intro s entries hlist entry hmem
    obtain ⟨index, hindex⟩ := List.getElem?_of_mem hmem
    exact ⟨index, entries, hlist, hindex⟩
  have hobject : ∀ {s index entry}, document.EntryAt s index entry → entry.isObject = true := by
    intro s index entry hentry
    rw [← Bool.not_eq_false]
    exact fun he => h _ _ (.entry hentry he)
  have hstring : ∀ {s index entry f}, document.EntryAt s index entry → f ∈ s.required →
      entry.HasString f.label :=
    fun hentry hf => hasString_of_not_violates hentry (hobject hentry) hf fun reason => h _ reason
  refine ⟨?_, fun s v hv => ?_, fun entries hlist entry hmem => ?_,
    fun entries hlist entry hmem => ?_⟩
  · rw [← Bool.not_eq_false]
    exact fun hroot => h _ _ (.root hroot)
  · by_cases harray : ∃ entries, v = array entries
    · obtain ⟨entries, rfl⟩ := harray
      refine ⟨entries, rfl, fun entry hmem => ?_⟩
      obtain ⟨index, hentry⟩ := hat hv entry hmem
      exact hobject hentry
    · exact absurd (Violates.list hv fun entries heq => harray ⟨entries, heq⟩) (h _ _)
  · obtain ⟨index, hentry⟩ := hat (s := .interfaces) hlist entry hmem
    exact hstring hentry (f := .name) List.mem_cons_self
  · obtain ⟨index, hentry⟩ := hat (s := .files) hlist entry hmem
    have hoctal : entry.ModeOctal := by
      apply Classical.byContradiction
      exact fun hno => h _ _ (.notOctal hentry hno)
    exact ⟨hstring hentry (f := .path) List.mem_cons_self,
      hstring hentry (f := .contents) (List.mem_cons_of_mem _ List.mem_cons_self), hoctal⟩

/-! ## Checks of places -/

/-- A check of some places of a document passes if the structure is broken at none of them, and is
refused for the first of them where it is broken otherwise. -/
def Reports (document : Json) (places : Place → Prop) : Except Error Unit → Prop
  | .ok () => ∀ p reason, places p → ¬ document.Violates p reason
  | .error e => ∃ p reason, places p ∧ document.Violates p reason ∧
    e = .schemaViolation p.path reason ∧
    ∀ q reason', places q → document.Violates q reason' → ¬ q.Before p

namespace Reports

variable {P Q : Place → Prop} {r r' : Except Error Unit}

/-- A check that is refused for the only place that it is about. -/
theorem refused (h : document.Violates p reason) :
    document.Reports (· = p) (violation p.path reason) := by
  refine ⟨p, reason, rfl, h, rfl, ?_⟩
  rintro q _ rfl _
  exact q.not_before_self

/-- Places where the structure cannot be broken may be added. -/
theorem widen (h : document.Reports P r) (hP : ∀ p, P p → Q p)
    (hQ : ∀ p reason, Q p → document.Violates p reason → P p) : document.Reports Q r := by
  cases r with
  | ok => exact fun p reason hp hviolates => h p reason (hQ p reason hp hviolates) hviolates
  | error e =>
      obtain ⟨p, reason, hp, hviolates, he, hfirst⟩ := h
      exact ⟨p, reason, hP p hp, hviolates, he, fun q reason' hq hv =>
        hfirst q reason' (hQ q reason' hq hv) hv⟩

/-- A check, and if it passes a check of places that come after. -/
theorem seq (h : document.Reports P r) (h' : r = .ok () → document.Reports Q r')
    (hbefore : ∀ p q, P p → Q q → ¬ q.Before p) :
    document.Reports (fun p => P p ∨ Q p) (r.bind fun _ => r') := by
  cases r with
  | error e =>
      obtain ⟨p, reason, hp, hviolates, he, hfirst⟩ := h
      refine ⟨p, reason, Or.inl hp, hviolates, he, ?_⟩
      rintro q reason' (hq | hq) hv
      · exact hfirst q reason' hq hv
      · exact hbefore p q hp hq
  | ok =>
      exact (h' rfl).widen (fun p hp => Or.inr hp) fun p reason hp hv =>
        hp.resolve_left fun hleft => h p reason hleft hv

end Reports

/-! ## The fields of an entry -/

/-- The check of the mode of a file. -/
theorem reports_checkMode (hat : document.EntryAt .files index entry) :
    document.Reports (· = .field .files index .mode)
      (checkMode (Place.entry .files index).path entry) := by
  have hpasses : entry.ModeOctal → document.Reports (· = .field .files index .mode) (.ok ()) := by
    rintro hoctal _ reason rfl h
    cases h with
    | missing _ _ hf => simp [ListSection.required] at hf
    | notString _ hf => simp [ListSection.required] at hf
    | notOctal hat' hno => exact hno (hat.unique hat' ▸ hoctal)
  have hpath : (Place.field .files index .mode).path = (Place.entry .files index).path ++ "/mode" :=
    String.append_assoc
  have hrefused : ¬ entry.ModeOctal → document.Reports (· = .field .files index .mode)
      (violation ((Place.entry .files index).path ++ "/mode") "must be an octal mode string") := by
    intro hno
    rw [← hpath]
    exact Reports.refused (.notOctal hat hno)
  unfold checkMode
  split
  · rename_i hnone
    refine hpasses fun v hv => ?_
    rw [hnone] at hv
    cases hv
  · rename_i mode hv
    split
    · rename_i hoctal
      refine hpasses fun v hv' => ⟨mode, ?_, isOctalMode_iff.mp hoctal⟩
      exact Option.some.inj (hv'.symm.trans hv)
    · rename_i hno
      refine hrefused fun hoctal => ?_
      obtain ⟨mode', heq, hmode⟩ := hoctal _ hv
      cases heq
      exact hno (isOctalMode_iff.mpr hmode)
  · rename_i v hno hv
    refine hrefused fun hoctal => ?_
    obtain ⟨mode, rfl, _⟩ := hoctal v hv
    exact hno mode rfl

section Fields

variable (hat : document.EntryAt s index entry) (he : entry.isObject = true)

include hat he

/-- The check of a field that must be there. -/
theorem reports_requireString (hf : f ∈ s.required) :
    document.Reports (· = .field s index f)
      (requireString (Place.entry s index).path f.label entry) := by
  unfold requireString
  split
  · rename_i text hv
    rintro _ reason rfl h
    cases h with
    | missing hat' _ _ hnone =>
        rw [← hat.unique hat', hv] at hnone
        cases hnone
    | notString hat' _ hv' hno =>
        rw [← hat.unique hat', hv] at hv'
        exact hno text (Option.some.inj hv').symm
    | notOctal => simp [ListSection.required] at hf
  · rename_i v hno hv
    exact Reports.refused (.notString hat hf hv hno)
  · rename_i hnone
    exact Reports.refused (.missing hat he hf hnone)

/-- The check of the fields of an entry. -/
theorem reports_checkFields : document.Reports (fun p => ∃ f, p = .field s index f)
    (s.checkFields (Place.entry s index).path entry) := by
  unfold ListSection.checkFields
  cases s with
  | interfaces =>
      refine (reports_requireString hat he (f := .name) List.mem_cons_self).widen
        (fun p hp => ⟨.name, hp⟩) ?_
      rintro _ reason ⟨f, rfl⟩ h
      cases h with
      | missing _ _ hf | notString _ hf => rw [List.mem_singleton.mp hf]
  | files =>
      have hpath := reports_requireString hat he (f := .path) List.mem_cons_self
      have hcontents := reports_requireString hat he (f := .contents)
        (List.mem_cons_of_mem _ List.mem_cons_self)
      have hmode := reports_checkMode hat
      refine (hpath.seq (fun _ => hcontents.seq (fun _ => hmode) ?_) ?_).widen ?_ ?_
      · rintro _ _ rfl rfl
        exact Place.not_before_field (by decide)
      · rintro _ _ rfl (rfl | rfl) <;> exact Place.not_before_field (by decide)
      · rintro p (hp | hp | hp) <;> exact ⟨_, hp⟩
      · rintro _ reason ⟨f, rfl⟩ h
        cases h with
        | missing _ _ hf | notString _ hf =>
            rcases List.mem_cons.mp hf with rfl | hf
            · exact Or.inl rfl
            · rw [List.mem_singleton.mp hf]
              exact Or.inr (Or.inl rfl)
        | notOctal => exact Or.inr (Or.inr rfl)
  | tunnels | wireguard | vxlan =>
      rintro _ reason ⟨f, rfl⟩ h
      cases h with
      | missing _ _ hf | notString _ hf => cases hf

end Fields

/-! ## The entries of a section -/

/-- Entries are checked one after the other. -/
theorem checkEntries_cons (s : ListSection) (index : Nat) (entry : Json) (rest : List Json) :
    s.checkEntries index (entry :: rest) =
      if entry.isObject then
        (s.checkFields (Place.entry s index).path entry).bind fun _ =>
          s.checkEntries (index + 1) rest
      else violation (Place.entry s index).path "must be an object" := by
  rw [ListSection.checkEntries]
  show (if entry.isObject then
      match s.checkFields (Place.entry s index).path entry with
      | .ok () => s.checkEntries (index + 1) rest
      | .error e => .error e
    else _) = _
  cases s.checkFields (Place.entry s index).path entry <;> rfl

/-- The check of entries from an index on. -/
theorem reports_checkEntries {entries : List Json}
    (hlist : document.field? s.name = some (array entries)) (rest : List Json) :
    ∀ index, entries.drop index = rest →
      document.Reports (fun p => ∃ i, index ≤ i ∧ p.AtEntry s i) (s.checkEntries index rest) := by
  induction rest with
  | nil =>
      rintro index hdrop p reason ⟨i, hi, hp⟩ h
      -- There is no entry at the index or after it.
      have hnone : ∀ entry, ¬ document.EntryAt s i entry := by
        rintro entry ⟨entries', hlist', hentry⟩
        cases hlist.symm.trans hlist'
        have hlength := List.drop_eq_nil_iff.mp hdrop
        rw [List.getElem?_eq_none (Nat.le_trans hlength hi)] at hentry
        cases hentry
      rcases hp with rfl | ⟨f, rfl⟩
      · cases h with
        | entry hat => exact hnone _ hat
      · cases h with
        | missing hat | notString hat | notOctal hat => exact hnone _ hat
  | cons entry rest ih =>
      intro index hdrop
      have hat : document.EntryAt s index entry := by
        refine ⟨entries, hlist, ?_⟩
        rw [← Nat.add_zero index, ← List.getElem?_drop, hdrop]
        rfl
      have hrest : entries.drop (index + 1) = rest := by
        rw [← List.drop_drop, hdrop]
        rfl
      rw [checkEntries_cons]
      split
      · rename_i he
        refine ((reports_checkFields hat he).seq (fun _ => ih (index + 1) hrest) ?_).widen ?_ ?_
        · rintro p q hp ⟨i, hi, hq⟩
          exact Place.not_before_of_atEntry (Or.inr hp) hq hi
        · rintro p (⟨f, hp⟩ | ⟨i, hi, hp⟩)
          · exact ⟨index, Nat.le_refl _, Or.inr ⟨f, hp⟩⟩
          · exact ⟨i, Nat.le_of_succ_le hi, hp⟩
        · rintro p reason ⟨i, hi, hp⟩ h
          rcases Nat.eq_or_lt_of_le hi with rfl | hi
          · rcases hp with rfl | hp
            · cases h with
              | entry hat' he' =>
                  rw [← hat.unique hat', he] at he'
                  cases he'
            · exact Or.inl hp
          · exact Or.inr ⟨i, hi, hp⟩
      · rename_i he
        refine ⟨.entry s index, _, ⟨index, Nat.le_refl _, Or.inl rfl⟩,
          .entry hat (Bool.not_eq_true _ ▸ he), rfl, ?_⟩
        rintro q reason' ⟨i, hi, hq⟩ _
        rcases Nat.eq_or_lt_of_le hi with rfl | hi
        · exact Place.not_before_entry hq
        · exact Place.not_before_of_atEntry (Or.inl rfl) hq hi

/-! ## Sections -/

/-- The check of a section. -/
theorem reports_check (s : ListSection) :
    document.Reports (·.AtSection s) (s.check document) := by
  unfold ListSection.check
  split
  · rename_i hnone
    rintro p reason hp h
    have hno : ∀ {index entry}, ¬ document.EntryAt s index entry := by
      rintro index entry ⟨entries, hlist, _⟩
      rw [hnone] at hlist
      cases hlist
    rcases hp with rfl | ⟨index, rfl | ⟨f, rfl⟩⟩
    · cases h with
      | list hv =>
          rw [hnone] at hv
          cases hv
    · cases h with
      | entry hat => exact hno hat
    · cases h with
      | missing hat | notString hat | notOctal hat => exact hno hat
  · rename_i entries hlist
    refine (reports_checkEntries hlist entries 0 rfl).widen ?_ ?_
    · rintro p ⟨index, _, hp⟩
      exact Or.inr ⟨index, hp⟩
    · rintro p reason (rfl | ⟨index, hp⟩) h
      · cases h with
        | list hv hno =>
            cases hlist.symm.trans hv
            exact absurd rfl (hno entries)
      · exact ⟨index, Nat.zero_le _, hp⟩
  · rename_i v hno hv
    refine ⟨.list s, _, Or.inl rfl, .list hv hno, rfl, ?_⟩
    exact fun q _ hq _ => Place.not_before_list hq

/-- Sections are checked one after the other. -/
theorem checkSections_cons (document : Json) (s : ListSection) (rest : List ListSection) :
    checkSections document (s :: rest) =
      (s.check document).bind fun _ => checkSections document rest := by
  rw [checkSections]
  cases s.check document <;> rfl

/-- The check of sections that are in order. -/
theorem reports_checkSections (sections : List ListSection)
    (hsorted : sections.Pairwise fun s s' => s.ordinal < s'.ordinal) :
    document.Reports (fun p => ∃ s ∈ sections, p.AtSection s)
      (checkSections document sections) := by
  induction sections with
  | nil =>
      rintro p reason ⟨s, hs, _⟩
      cases hs
  | cons s rest ih =>
      obtain ⟨hfirst, hrest⟩ := List.pairwise_cons.mp hsorted
      rw [checkSections_cons]
      refine ((reports_check s).seq (fun _ => ih hrest) ?_).widen ?_ ?_
      · rintro p q hp ⟨s', hs', hq⟩
        exact Place.not_before_of_atSection hp hq (hfirst s' hs')
      · rintro p (hp | ⟨s', hs', hp⟩)
        · exact ⟨s, List.mem_cons_self, hp⟩
        · exact ⟨s', List.mem_cons_of_mem s hs', hp⟩
      · rintro p reason ⟨s', hs', hp⟩ _
        rcases List.mem_cons.mp hs' with rfl | hs'
        · exact Or.inl hp
        · exact Or.inr ⟨s', hs', hp⟩

/-- The check of a document is about all its places. -/
theorem reports_validate (document : Json) :
    document.Reports (fun _ => True) document.validate := by
  unfold validate
  split
  · rename_i hroot
    refine (reports_checkSections ListSection.all (by decide)).widen (fun _ _ => trivial) ?_
    rintro p reason - h
    have hmem : ∀ s : ListSection, s ∈ ListSection.all := by
      intro s
      cases s <;> decide
    cases h with
    | root h =>
        rw [hroot] at h
        cases h
    | @list s => exact ⟨s, hmem s, Or.inl rfl⟩
    | @entry s index => exact ⟨s, hmem s, Or.inr ⟨index, Or.inl rfl⟩⟩
    | @missing s index _ f | @notString s index _ _ f =>
        exact ⟨s, hmem s, Or.inr ⟨index, Or.inr ⟨f, rfl⟩⟩⟩
    | @notOctal index => exact ⟨.files, hmem .files, Or.inr ⟨index, Or.inr ⟨.mode, rfl⟩⟩⟩
  · rename_i hroot
    refine ⟨.root, _, trivial, .root (Bool.not_eq_true _ ▸ hroot), rfl, ?_⟩
    exact fun q _ _ _ => q.not_before_root

/-! ## The check of documents -/

/-- A document has one first violation at most. -/
theorem FirstViolation.unique (h : document.FirstViolation p reason)
    (h' : document.FirstViolation q reason') : p = q ∧ reason = reason' := by
  obtain rfl := Place.eq_of_not_before (h'.2 p reason h.1) (h.2 q reason' h'.1)
  exact ⟨rfl, h.1.reason_unique h'.1⟩

/-- The check of documents passes those that conform and no others, and it is refused for the first
place where the structure of a document is broken. -/
theorem validate_conforms (document : Json) :
    (document.validate = .ok () ↔ document.Conforms) ∧
      ∀ e, document.validate = .error e ↔
        ∃ p reason, document.FirstViolation p reason ∧ e = .schemaViolation p.path reason := by
  have hreports := reports_validate document
  cases hresult : document.validate with
  | ok =>
      rw [hresult] at hreports
      have hconforms : document.Conforms :=
        conforms_of_not_violates fun p reason => hreports p reason trivial
      refine ⟨iff_of_true rfl hconforms, fun e => iff_of_false nofun ?_⟩
      rintro ⟨p, reason, hfirst, _⟩
      exact hconforms.not_violates hfirst.1
  | error e =>
      rw [hresult] at hreports
      obtain ⟨p, reason, _, hviolates, rfl, hleast⟩ := hreports
      have hfirst : document.FirstViolation p reason :=
        ⟨hviolates, fun q reason' => hleast q reason' trivial⟩
      refine ⟨iff_of_false nofun fun hconforms => hconforms.not_violates hviolates, fun e => ?_⟩
      constructor
      · intro he
        exact ⟨p, reason, hfirst, (Except.error.inj he).symm⟩
      · rintro ⟨q, reason', hfirst', rfl⟩
        obtain ⟨rfl, rfl⟩ := hfirst.unique hfirst'
        rfl

end Fleet.Json
