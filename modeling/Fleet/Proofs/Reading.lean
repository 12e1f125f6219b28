/-
# Indented texts are read back

The indented text of a value is read as that value, except that numbers become what their texts
denote, and that what denotes nothing was written as null.

Main statements: `Json.readString_escaped`, `Json.Written.parse?_pretty`.
-/
import Fleet.Proofs.Numerals
import Mathlib.Data.List.DropRight

namespace Fleet.Json

/-! ## Strings -/

/-- A control character is read back from its two hexadecimal digits. -/
theorem hexNumber?_hexDigit :
    ∀ n < 0x20, hexNumber? ['0', '0', hexDigit (n / 16), hexDigit (n % 16)] = some n := by
  decide

/-- A character inside quotes is read back. -/
theorem readText_escape (chars : List Char) (c : Char) (cs : List Char) :
    readText ⟨chars, none, true⟩ (escape c ++ cs) = readText ⟨c :: chars, none, true⟩ cs := by
  unfold escape
  split
  · rfl
  · rfl
  · rfl
  · rfl
  · rfl
  · rfl
  · rfl
  · rename_i hquote hbackslash _ _ _ _ _
    split
    · rename_i hcontrol
      have hunit :
          (⟨chars, none, true⟩ : TextState).pushUnit c.toNat = ⟨c :: chars, none, true⟩ := by
        unfold TextState.pushUnit
        rw [if_neg (by omega), if_neg (by omega), Char.ofNat_toNat]
        rfl
      simp only [List.cons_append, List.nil_append]
      rw [readText]
      simp only [hexNumber?_hexDigit c.toNat hcontrol, hunit]
    · rename_i hcontrol
      have hplain : (c.toNat < 0x20 || c == '\\') = false := by
        rw [decide_eq_false hcontrol, Bool.false_or]
        exact beq_false_of_ne hbackslash
      rw [List.cons_append, List.nil_append, readText.eq_def]
      -- The character is neither a quote nor a backslash.
      split
      · rename_i heq
        cases heq
      · rename_i heq
        cases heq
        exact absurd rfl hquote
      · rename_i heq
        cases heq
        exact absurd rfl hbackslash
      · rename_i heq
        cases heq
        exact absurd rfl hbackslash
      · rename_i heq
        cases heq
        rw [hplain]
        rfl

/-- A string is read back behind its opening quote. -/
theorem readText_escaped (chars text : List Char) (rest : List Char) :
    readText ⟨chars, none, true⟩ (text.flatMap escape ++ '"' :: rest) =
      some (some (String.ofList (chars.reverse ++ text)), rest) := by
  induction text generalizing chars with
  | nil =>
      rw [List.flatMap_nil, List.nil_append, readText, List.append_nil]
      rfl
  | cons c text ih =>
      rw [List.flatMap_cons, List.append_assoc, readText_escape, ih, List.reverse_cons,
        List.append_assoc, List.singleton_append]

/-- A string in quotes is its escaped characters between two quotes. -/
theorem quoted_append (s : String) (rest : List Char) :
    quoted s ++ rest = '"' :: (s.toList.flatMap escape ++ '"' :: rest) := by
  rw [quoted, List.cons_append, List.append_assoc, List.singleton_append]

/-- A string is read back. -/
theorem readString_escaped (s : String) (rest : List Char) :
    readString (s.toList.flatMap escape ++ '"' :: rest) = some (some s, rest) := by
  rw [readString, readText_escaped, List.reverse_nil, List.nil_append, String.ofList_toList]

/-! ## White space -/

variable {width level fuel : Nat} {cs rest : List Char}

/-- White space in front is skipped once and for all. -/
theorem skipBlanks_skipBlanks (cs : List Char) : skipBlanks (skipBlanks cs) = skipBlanks cs :=
  List.dropWhile_idempotent _ _

/-- A line break and its indentation are skipped. -/
theorem skipBlanks_newline (width level : Nat) (cs : List Char) :
    skipBlanks (Written.newline width level ++ cs) = skipBlanks cs := by
  have hblank : ∀ c ∈ Written.newline width level, isJsonBlank c = true := by
    intro c hc
    rcases List.mem_cons.mp hc with rfl | hc
    · rfl
    · rw [List.eq_of_mem_replicate hc]
      rfl
  exact List.dropWhile_append_of_pos hblank

/-- White space before a value does not matter. -/
theorem readValue_skipBlanks (fuel : Nat) (cs : List Char) :
    readValue fuel (skipBlanks cs) = readValue fuel cs := by
  cases fuel with
  | zero => rfl
  | succ fuel => rw [readValue, readValue, skipBlanks_skipBlanks]

/-- A blank before a value does not matter. -/
theorem readValue_blank (fuel : Nat) (cs : List Char) :
    readValue fuel (' ' :: cs) = readValue fuel cs := by
  rw [← readValue_skipBlanks fuel (' ' :: cs), ← readValue_skipBlanks fuel cs]
  rfl

/-- White space before the items of a list does not matter. -/
theorem readItems_skipBlanks (fuel : Nat) (cs : List Char) :
    readItems fuel (skipBlanks cs) = readItems fuel cs := by
  cases fuel with
  | zero => rfl
  | succ fuel => rw [readItems, readItems, readValue_skipBlanks]

/-- White space before the members of an object does not matter. -/
theorem readMembers_skipBlanks (fuel : Nat) (cs : List Char) :
    readMembers fuel (skipBlanks cs) = readMembers fuel cs := by
  cases fuel with
  | zero => rfl
  | succ fuel => rw [readMembers, readMembers, skipBlanks_skipBlanks]

/-- A list that does not close at once is read as its items. -/
theorem readValue_bracket {c : Char} {tail : List Char} (hcs : skipBlanks cs = c :: tail)
    (hc : c ≠ ']') :
    readValue (fuel + 1) ('[' :: cs) =
      (readItems fuel cs).map fun read => (.array read.1, read.2) := by
  have hskip : skipBlanks ('[' :: cs) = '[' :: cs := rfl
  rw [← readItems_skipBlanks fuel cs, readValue, hskip]
  simp only
  split
  · rename_i heq
    rw [hcs] at heq
    cases heq
    exact absurd rfl hc
  · rfl

/-- An object that does not close at once is read as its members. -/
theorem readValue_brace {c : Char} {tail : List Char} (hcs : skipBlanks cs = c :: tail)
    (hc : c ≠ '\x7d') :
    readValue (fuel + 1) ('\x7b' :: cs) =
      (readMembers fuel cs).map fun read => ((read.1.map .object).getD .void, read.2) := by
  have hskip : skipBlanks ('\x7b' :: cs) = '\x7b' :: cs := rfl
  rw [← readMembers_skipBlanks fuel cs, readValue, hskip]
  simp only
  split
  · rename_i heq
    rw [hcs] at heq
    cases heq
    exact absurd rfl hc
  · congr 1
    funext read
    obtain ⟨members, rest⟩ := read
    cases members <;> rfl

/-- A member is read behind its name and a colon. -/
theorem readMembers_newline (width level fuel : Nat) (name : String) (cs : List Char) :
    readMembers (fuel + 1) (Written.newline width level ++ (quoted name ++ ':' :: cs)) =
      (readValue fuel cs).bind fun (value, rest) =>
        match skipBlanks rest with
        | ',' :: rest =>
          (readMembers fuel rest).map fun (members, rest) =>
            (members.map ((name, value) :: ·), rest)
        | '\x7d' :: rest => some (some [(name, value)], rest)
        | _ => none := by
  have hquote : ∀ cs, skipBlanks ('"' :: cs) = '"' :: cs := fun _ => rfl
  have hcolon : ∀ cs, skipBlanks (':' :: cs) = ':' :: cs := fun _ => rfl
  rw [readMembers, skipBlanks_newline, quoted_append, hquote]
  simp only [readString_escaped, hcolon]
  cases readValue fuel cs with
  | none => rfl
  | some read => rfl

/-! ## Values -/

namespace Written

mutual

/-- What the text of a value reads as: numbers become what their texts denote, and what denotes
nothing becomes null. -/
def reread : Written → Written
  | null => null
  | bool b => bool b
  | number n => n.reread
  | string s => string s
  | array items => array (rereadItems items)
  | object members => object (rereadMembers members)
  | void => null

/-- What the texts of items read as. -/
def rereadItems : List Written → List Written
  | [] => []
  | w :: rest => reread w :: rereadItems rest

/-- What the texts of members read as. -/
def rereadMembers : List (String × Written) → List (String × Written)
  | [] => []
  | (name, w) :: rest => (name, reread w) :: rereadMembers rest

end

end Written

/-- A text starts with a character of a value. -/
def StartsValue (cs : List Char) : Prop :=
  ∃ c tail, cs = c :: tail ∧ isJsonBlank c = false ∧ c ≠ ']'

/-- The text of a number starts with a sign or a digit. -/
theorem Number.startsValue_render (n : Number) : StartsValue n.render := by
  obtain ⟨l, hl, hspell⟩ := n.exists_spell_eq
  rw [hspell, Literal.spell]
  obtain ⟨hne, hds⟩ := hl.whole
  obtain ⟨d, ds, hwhole⟩ := List.exists_cons_of_ne_nil hne
  have hd : d < 10 := hds d (by rw [hwhole]; exact List.mem_cons_self)
  cases l.negative with
  | true => exact ⟨'-', l.unsignedText, rfl, by decide, by decide⟩
  | false =>
      have hdigit : ∀ d < 10, isJsonBlank d.digitChar = false ∧ d.digitChar ≠ ']' := by decide
      refine ⟨d.digitChar, digitsText ds ++ (Literal.fractionText l.fraction ++
        Literal.exponentText l.exponent), ?_, hdigit d hd⟩
      simp [Literal.unsignedText, hwhole, digitsText]

namespace Written

/-- The text of a value starts with a character of a value. -/
theorem startsValue_pretty (width level : Nat) (w : Written) :
    StartsValue (w.pretty width level) := by
  cases w with
  | null | void => exact ⟨'n', _, rfl, by decide, by decide⟩
  | bool b =>
      cases b with
      | true => exact ⟨'t', _, rfl, by decide, by decide⟩
      | false => exact ⟨'f', _, rfl, by decide, by decide⟩
  | number n => exact n.startsValue_render
  | string s => exact ⟨'"', _, rfl, by decide, by decide⟩
  | array items =>
      cases items with
      | nil => exact ⟨'[', _, rfl, by decide, by decide⟩
      | cons w rest => exact ⟨'[', _, by rw [pretty]; simp, by decide, by decide⟩
  | object members =>
      cases members with
      | nil => exact ⟨'\x7b', _, rfl, by decide, by decide⟩
      | cons m rest => exact ⟨'\x7b', _, by rw [pretty]; simp, by decide, by decide⟩

/-- The text of a list that is not empty. -/
theorem pretty_array (width level : Nat) (w : Written) (ws : List Written) :
    (array (w :: ws)).pretty width level =
      '[' :: (prettyItems width (level + 1) (w :: ws) ++ (newline width level ++ [']'])) := by
  rw [pretty]
  simp

/-- The text of an object that is not empty. -/
theorem pretty_object (width level : Nat) (m : String × Written) (ms : List (String × Written)) :
    (object (m :: ms)).pretty width level =
      '\x7b' :: (prettyMembers width (level + 1) (m :: ms) ++
        (newline width level ++ ['\x7d'])) := by
  rw [pretty]
  simp

/-- The text of several items. -/
theorem prettyItems_cons (width level : Nat) (w w' : Written) (ws : List Written) :
    prettyItems width level (w :: w' :: ws) =
      newline width level ++ (pretty width level w ++ ',' ::
        prettyItems width level (w' :: ws)) := by
  rw [prettyItems]
  simp

/-- The text of several members. -/
theorem prettyMembers_cons (width level : Nat) (name : String) (w : Written) (m : String × Written)
    (ms : List (String × Written)) :
    prettyMembers width level ((name, w) :: m :: ms) =
      newline width level ++ (quoted name ++
        ':' :: ' ' :: (pretty width level w ++ ',' :: prettyMembers width level (m :: ms))) := by
  rw [prettyMembers]
  simp

/-- The text of items starts with a character of a value, behind white space. -/
theorem startsValue_prettyItems (width level : Nat) (w : Written) (ws : List Written)
    (cs : List Char) : StartsValue (skipBlanks (prettyItems width level (w :: ws) ++ cs)) := by
  obtain ⟨c, tail, htext, hblank, hbracket⟩ := startsValue_pretty width level w
  have hskip : ∀ cs, skipBlanks (c :: cs) = c :: cs := fun cs =>
    List.dropWhile_cons_of_neg (by rw [hblank]; exact Bool.false_ne_true)
  cases ws with
  | nil =>
      rw [prettyItems, List.append_assoc, skipBlanks_newline, htext, List.cons_append, hskip]
      exact ⟨c, _, rfl, hblank, hbracket⟩
  | cons w' ws =>
      rw [prettyItems_cons, List.append_assoc, skipBlanks_newline, htext, List.cons_append,
        List.cons_append, hskip]
      exact ⟨c, _, rfl, hblank, hbracket⟩

/-- The text of members starts with a quote, behind white space. -/
theorem skipBlanks_prettyMembers (width level : Nat) (m : String × Written)
    (ms : List (String × Written)) (cs : List Char) :
    ∃ tail, skipBlanks (prettyMembers width level (m :: ms) ++ cs) = '"' :: tail := by
  obtain ⟨name, w⟩ := m
  cases ms with
  | nil =>
      rw [prettyMembers, List.append_assoc, skipBlanks_newline]
      exact ⟨_, rfl⟩
  | cons m ms =>
      rw [prettyMembers_cons, List.append_assoc, skipBlanks_newline]
      exact ⟨_, rfl⟩

/-- A value ends before a line break. -/
theorem endsNumber_newline (width level : Nat) (cs : List Char) :
    EndsNumber (newline width level ++ cs) := by
  rintro c ⟨⟩
  decide

/-- A value ends before a comma. -/
theorem endsNumber_comma (cs : List Char) : EndsNumber (',' :: cs) := by
  rintro c ⟨⟩
  decide

mutual

/-- The text of a value is read up to its end. -/
theorem readValue_pretty (width level : Nat) : ∀ (w : Written) {fuel : Nat} {rest : List Char},
    EndsNumber rest → 2 * (w.pretty width level).length ≤ fuel + 1 →
      readValue fuel (w.pretty width level ++ rest) = some (w.reread, rest)
  | w, 0, rest, _, hfuel => by
      obtain ⟨c, tail, htext, _⟩ := startsValue_pretty width level w
      rw [htext, List.length_cons] at hfuel
      omega
  | null, fuel + 1, rest, _, _ => rfl
  | void, fuel + 1, rest, _, _ => rfl
  | bool true, fuel + 1, rest, _, _ => rfl
  | bool false, fuel + 1, rest, _, _ => rfl
  | number n, fuel + 1, rest, hrest, _ => by
      rw [pretty, reread]
      exact readValue_number n hrest fuel
  | string s, fuel + 1, rest, _, _ => by
      rw [pretty, quoted_append]
      show (readString (s.toList.flatMap escape ++ '"' :: rest)).map _ = _
      rw [readString_escaped]
      rfl
  | array [], fuel + 1, rest, _, _ => rfl
  | array (w :: ws), fuel + 1, rest, _, hfuel => by
      have hitems : readItems fuel (prettyItems width (level + 1) (w :: ws) ++
          (newline width level ++ ']' :: rest)) = some (rereadItems (w :: ws), rest) := by
        refine readItems_pretty width (level + 1) (w :: ws) (List.cons_ne_nil w ws) ?_
        rw [pretty_array] at hfuel
        simp only [List.length_cons, List.length_append] at hfuel
        omega
      obtain ⟨c, tail, htext, _, hbracket⟩ := startsValue_prettyItems width (level + 1) w ws
        (newline width level ++ ']' :: rest)
      rw [pretty_array, List.cons_append, List.append_assoc, List.append_assoc,
        List.singleton_append, readValue_bracket htext hbracket, hitems]
      rfl
  | object [], fuel + 1, rest, _, _ => rfl
  | object (m :: ms), fuel + 1, rest, _, hfuel => by
      have hmembers : readMembers fuel (prettyMembers width (level + 1) (m :: ms) ++
          (newline width level ++ '\x7d' :: rest)) =
          some (some (rereadMembers (m :: ms)), rest) := by
        refine readMembers_pretty width (level + 1) (m :: ms) (List.cons_ne_nil m ms) ?_
        rw [pretty_object] at hfuel
        simp only [List.length_cons, List.length_append] at hfuel
        omega
      obtain ⟨tail, htext⟩ := skipBlanks_prettyMembers width (level + 1) m ms
        (newline width level ++ '\x7d' :: rest)
      rw [pretty_object, List.cons_append, List.append_assoc, List.append_assoc,
        List.singleton_append, readValue_brace htext (by decide), hmembers]
      rfl

/-- The text of items is read up to the closing bracket. -/
theorem readItems_pretty (width level : Nat) :
    ∀ (ws : List Written) {fuel outer : Nat} {rest : List Char},
    ws ≠ [] → 2 * (prettyItems width level ws).length ≤ fuel →
      readItems fuel (prettyItems width level ws ++ (newline width outer ++ ']' :: rest)) =
        some (rereadItems ws, rest)
  | [], _, _, _, h, _ => absurd rfl h
  | [w], 0, outer, rest, _, hfuel => by
      rw [prettyItems] at hfuel
      simp [newline] at hfuel
  | [w], fuel + 1, outer, rest, _, hfuel => by
      rw [prettyItems] at hfuel ⊢
      have hitem : readValue fuel (w.pretty width level ++ (newline width outer ++ ']' :: rest)) =
          some (w.reread, newline width outer ++ ']' :: rest) := by
        refine readValue_pretty width level w (endsNumber_newline _ _ _) ?_
        rw [List.length_append] at hfuel
        omega
      rw [List.append_assoc, ← readItems_skipBlanks, skipBlanks_newline, readItems_skipBlanks,
        readItems, hitem]
      dsimp only
      rw [skipBlanks_newline]
      rfl
  | w :: w' :: ws, 0, outer, rest, _, hfuel => by
      rw [prettyItems_cons] at hfuel
      simp [newline] at hfuel
  | w :: w' :: ws, fuel + 1, outer, rest, _, hfuel => by
      rw [prettyItems_cons] at hfuel ⊢
      simp only [List.length_cons, List.length_append] at hfuel
      have hitem : readValue fuel (w.pretty width level ++
          ',' :: (prettyItems width level (w' :: ws) ++ (newline width outer ++ ']' :: rest))) =
            some (w.reread,
              ',' :: (prettyItems width level (w' :: ws) ++
                (newline width outer ++ ']' :: rest))) :=
        readValue_pretty width level w (endsNumber_comma _) (by omega)
      have hitems : readItems fuel
          (prettyItems width level (w' :: ws) ++ (newline width outer ++ ']' :: rest)) =
            some (rereadItems (w' :: ws), rest) :=
        readItems_pretty width level (w' :: ws) (List.cons_ne_nil w' ws) (by omega)
      rw [List.append_assoc, List.append_assoc, ← readItems_skipBlanks, skipBlanks_newline,
        readItems_skipBlanks, List.cons_append, readItems, hitem]
      show (readItems fuel _).map _ = _
      rw [hitems]
      rfl

/-- The text of members is read up to the closing brace. -/
theorem readMembers_pretty (width level : Nat) :
    ∀ (ms : List (String × Written)) {fuel outer : Nat} {rest : List Char},
      ms ≠ [] → 2 * (prettyMembers width level ms).length ≤ fuel →
        readMembers fuel (prettyMembers width level ms ++ (newline width outer ++ '\x7d' :: rest)) =
          some (some (rereadMembers ms), rest)
  | [], _, _, _, h, _ => absurd rfl h
  | [(name, w)], 0, outer, rest, _, hfuel => by
      rw [prettyMembers] at hfuel
      simp [newline] at hfuel
  | [(name, w)], fuel + 1, outer, rest, _, hfuel => by
      rw [prettyMembers] at hfuel ⊢
      simp only [List.length_cons, List.length_append] at hfuel
      have hvalue : readValue fuel (w.pretty width level ++
          (newline width outer ++ '\x7d' :: rest)) =
          some (w.reread, newline width outer ++ '\x7d' :: rest) :=
        readValue_pretty width level w (endsNumber_newline _ _ _) (by omega)
      rw [List.append_assoc, List.append_assoc, List.cons_append, List.cons_append,
        readMembers_newline, readValue_blank, hvalue, Option.bind_some]
      dsimp only
      rw [skipBlanks_newline]
      rfl
  | (name, w) :: m :: ms, 0, outer, rest, _, hfuel => by
      rw [prettyMembers_cons] at hfuel
      simp [newline] at hfuel
  | (name, w) :: m :: ms, fuel + 1, outer, rest, _, hfuel => by
      rw [prettyMembers_cons] at hfuel ⊢
      simp only [List.length_cons, List.length_append] at hfuel
      have hvalue : readValue fuel (w.pretty width level ++
          ',' :: (prettyMembers width level (m :: ms) ++ (newline width outer ++ '\x7d' :: rest))) =
            some (w.reread,
              ',' :: (prettyMembers width level (m :: ms) ++
                (newline width outer ++ '\x7d' :: rest))) :=
        readValue_pretty width level w (endsNumber_comma _) (by omega)
      have hmembers : readMembers fuel
          (prettyMembers width level (m :: ms) ++ (newline width outer ++ '\x7d' :: rest)) =
            some (some (rereadMembers (m :: ms)), rest) :=
        readMembers_pretty width level (m :: ms) (List.cons_ne_nil m ms) (by omega)
      rw [List.append_assoc, List.append_assoc, List.cons_append, List.cons_append,
        List.append_assoc, List.cons_append, readMembers_newline, readValue_blank, hvalue,
        Option.bind_some]
      show (readMembers fuel _).map _ = _
      rw [hmembers]
      rfl

end

/-- The indented text of a value is read as the value that its parts denote. -/
theorem parse?_pretty (width : Nat) (w : Written) :
    parse? (String.ofList (w.pretty width 0)) = some w.reread := by
  have hread : readValue (2 * (w.pretty width 0).length + 2) (w.pretty width 0 ++ []) =
      some (w.reread, []) :=
    readValue_pretty width 0 w (by simp [EndsNumber]) (by omega)
  rw [List.append_nil] at hread
  unfold parse?
  rw [String.toList_ofList]
  dsimp only
  rw [hread]
  rfl

end Written

end Fleet.Json
