/-
# Compact texts tell documents apart

The compact text of a value is read as that value, just as the indented one is.  Documents in order
whose numbers are read back are therefore written alike only if they are the same.

Main statements: `Json.Written.parse?_compact`, `Json.eq_of_render_eq`.
-/
import Fleet.Proofs.Documents

namespace Fleet.Json

namespace Written

/-! ## Parts of compact texts -/

/-- The compact text of a value starts with a character of a value. -/
theorem startsValue_compact (w : Written) : StartsValue w.compact := by
  cases w with
  | null | void => exact ⟨'n', _, rfl, by decide, by decide⟩
  | bool b =>
      cases b with
      | true => exact ⟨'t', _, rfl, by decide, by decide⟩
      | false => exact ⟨'f', _, rfl, by decide, by decide⟩
  | number n => exact n.startsValue_render
  | string s => exact ⟨'"', _, rfl, by decide, by decide⟩
  | array items => exact ⟨'[', _, rfl, by decide, by decide⟩
  | object members => exact ⟨'\x7b', _, rfl, by decide, by decide⟩

/-- The compact text of several items. -/
theorem compactItems_cons (w w' : Written) (ws : List Written) :
    compactItems (w :: w' :: ws) = w.compact ++ ',' :: compactItems (w' :: ws) := by
  rw [compactItems]
  simp

/-- The compact text of several members. -/
theorem compactMembers_cons (name : String) (w : Written) (m : String × Written)
    (ms : List (String × Written)) :
    compactMembers ((name, w) :: m :: ms) =
      quoted name ++ ':' :: (w.compact ++ ',' :: compactMembers (m :: ms)) := by
  rw [compactMembers]
  simp

/-- The compact text of items starts with a character of a value, and no white space
comes before it. -/
theorem startsValue_compactItems (w : Written) (ws : List Written) (cs : List Char) :
    ∃ c tail, skipBlanks (compactItems (w :: ws) ++ cs) = c :: tail ∧ c ≠ ']' := by
  obtain ⟨c, tail, htext, hblank, hbracket⟩ := startsValue_compact w
  have hskip : ∀ cs, skipBlanks (c :: cs) = c :: cs := fun cs =>
    List.dropWhile_cons_of_neg (by rw [hblank]; exact Bool.false_ne_true)
  cases ws with
  | nil => exact ⟨c, tail ++ cs, by rw [compactItems, htext, List.cons_append, hskip], hbracket⟩
  | cons w' ws =>
      refine ⟨c, tail ++ ',' :: compactItems (w' :: ws) ++ cs, ?_, hbracket⟩
      rw [compactItems_cons, htext, List.cons_append, List.cons_append, hskip]

/-- The compact text of members starts with a quote. -/
theorem compactMembers_eq (m : String × Written) (ms : List (String × Written)) :
    ∃ tail, compactMembers (m :: ms) = '"' :: tail := by
  obtain ⟨name, w⟩ := m
  cases ms with
  | nil => exact ⟨_, by rw [compactMembers, quoted_append]⟩
  | cons m' ms => exact ⟨_, by rw [compactMembers_cons, quoted_append]⟩

/-- A member is read behind its name and a colon, also without a line break. -/
theorem readMembers_quoted (fuel : Nat) (name : String) (cs : List Char) :
    readMembers (fuel + 1) (quoted name ++ ':' :: cs) =
      (readValue fuel cs).bind fun (value, rest) =>
        match skipBlanks rest with
        | ',' :: rest =>
          (readMembers fuel rest).map fun (members, rest) =>
            (members.map ((name, value) :: ·), rest)
        | '\x7d' :: rest => some (some [(name, value)], rest)
        | _ => none := by
  have hline : readMembers (fuel + 1) (newline 0 0 ++ (quoted name ++ ':' :: cs)) =
      readMembers (fuel + 1) (quoted name ++ ':' :: cs) := by
    rw [← readMembers_skipBlanks, skipBlanks_newline, readMembers_skipBlanks]
  rw [← hline]
  exact readMembers_newline 0 0 fuel name cs

/-- A value ends before the bracket that closes a list. -/
theorem endsNumber_bracket (cs : List Char) : EndsNumber (']' :: cs) := by
  rintro c ⟨⟩
  decide

/-- A value ends before the brace that closes an object. -/
theorem endsNumber_brace (cs : List Char) : EndsNumber ('\x7d' :: cs) := by
  rintro c ⟨⟩
  decide

/-! ## Reading compact texts -/

mutual

/-- The compact text of a value is read up to its end. -/
theorem readValue_compact : ∀ (w : Written) {fuel : Nat} {rest : List Char},
    EndsNumber rest → 2 * w.compact.length ≤ fuel + 1 →
      readValue fuel (w.compact ++ rest) = some (w.reread, rest)
  | w, 0, rest, _, hfuel => by
      obtain ⟨c, tail, htext, _⟩ := startsValue_compact w
      rw [htext, List.length_cons] at hfuel
      omega
  | null, fuel + 1, rest, _, _ => rfl
  | void, fuel + 1, rest, _, _ => rfl
  | bool true, fuel + 1, rest, _, _ => rfl
  | bool false, fuel + 1, rest, _, _ => rfl
  | number n, fuel + 1, rest, hrest, _ => by
      rw [compact, reread]
      exact readValue_number n hrest fuel
  | string s, fuel + 1, rest, _, _ => by
      rw [compact, quoted_append]
      show (readString (s.toList.flatMap escape ++ '"' :: rest)).map _ = _
      rw [readString_escaped]
      rfl
  | array [], fuel + 1, rest, _, _ => rfl
  | array (w :: ws), fuel + 1, rest, _, hfuel => by
      rw [compact] at hfuel ⊢
      simp only [List.length_cons, List.length_append] at hfuel
      have hitems : readItems fuel (compactItems (w :: ws) ++ ']' :: rest) =
          some (rereadItems (w :: ws), rest) :=
        readItems_compact (w :: ws) (List.cons_ne_nil w ws) (by omega)
      obtain ⟨c, tail, htext, hbracket⟩ := startsValue_compactItems w ws (']' :: rest)
      rw [List.cons_append, List.append_assoc, List.singleton_append,
        readValue_bracket htext hbracket, hitems]
      rfl
  | object [], fuel + 1, rest, _, _ => rfl
  | object (m :: ms), fuel + 1, rest, _, hfuel => by
      rw [compact] at hfuel ⊢
      simp only [List.length_cons, List.length_append] at hfuel
      have hmembers : readMembers fuel (compactMembers (m :: ms) ++ '\x7d' :: rest) =
          some (some (rereadMembers (m :: ms)), rest) :=
        readMembers_compact (m :: ms) (List.cons_ne_nil m ms) (by omega)
      obtain ⟨tail, htext⟩ := compactMembers_eq m ms
      have hskip : skipBlanks (compactMembers (m :: ms) ++ '\x7d' :: rest) =
          '"' :: (tail ++ '\x7d' :: rest) := by
        rw [htext]
        rfl
      rw [List.cons_append, List.append_assoc, List.singleton_append,
        readValue_brace hskip (by decide), hmembers]
      rfl

/-- The compact text of items is read up to the closing bracket. -/
theorem readItems_compact : ∀ (ws : List Written) {fuel : Nat} {rest : List Char},
    ws ≠ [] → 2 * (compactItems ws).length ≤ fuel →
      readItems fuel (compactItems ws ++ ']' :: rest) = some (rereadItems ws, rest)
  | [], _, _, h, _ => absurd rfl h
  | w :: ws, 0, rest, _, hfuel => by
      obtain ⟨c, tail, htext, _⟩ := startsValue_compact w
      cases ws with
      | nil =>
          rw [compactItems, htext, List.length_cons] at hfuel
          omega
      | cons w' ws =>
          rw [compactItems_cons, htext, List.cons_append, List.length_cons] at hfuel
          omega
  | [w], fuel + 1, rest, _, hfuel => by
      rw [compactItems] at hfuel ⊢
      have hitem : readValue fuel (w.compact ++ ']' :: rest) = some (w.reread, ']' :: rest) :=
        readValue_compact w (endsNumber_bracket _) (by omega)
      rw [readItems, hitem]
      rfl
  | w :: w' :: ws, fuel + 1, rest, _, hfuel => by
      rw [compactItems_cons] at hfuel ⊢
      simp only [List.length_cons, List.length_append] at hfuel
      have hitem : readValue fuel (w.compact ++ ',' :: (compactItems (w' :: ws) ++ ']' :: rest)) =
          some (w.reread, ',' :: (compactItems (w' :: ws) ++ ']' :: rest)) :=
        readValue_compact w (endsNumber_comma _) (by omega)
      have hitems : readItems fuel (compactItems (w' :: ws) ++ ']' :: rest) =
          some (rereadItems (w' :: ws), rest) :=
        readItems_compact (w' :: ws) (List.cons_ne_nil w' ws) (by omega)
      rw [List.append_assoc, List.cons_append, readItems, hitem]
      show (readItems fuel _).map _ = _
      rw [hitems]
      rfl

/-- The compact text of members is read up to the closing brace. -/
theorem readMembers_compact : ∀ (ms : List (String × Written)) {fuel : Nat} {rest : List Char},
    ms ≠ [] → 2 * (compactMembers ms).length ≤ fuel →
      readMembers fuel (compactMembers ms ++ '\x7d' :: rest) = some (some (rereadMembers ms), rest)
  | [], _, _, h, _ => absurd rfl h
  | m :: ms, 0, rest, _, hfuel => by
      obtain ⟨tail, htext⟩ := compactMembers_eq m ms
      rw [htext, List.length_cons] at hfuel
      omega
  | [(name, w)], fuel + 1, rest, _, hfuel => by
      rw [compactMembers] at hfuel ⊢
      simp only [List.length_cons, List.length_append] at hfuel
      have hvalue : readValue fuel (w.compact ++ '\x7d' :: rest) =
          some (w.reread, '\x7d' :: rest) :=
        readValue_compact w (endsNumber_brace _) (by omega)
      rw [List.append_assoc, List.cons_append, readMembers_quoted, hvalue]
      rfl
  | (name, w) :: m :: ms, fuel + 1, rest, _, hfuel => by
      rw [compactMembers_cons] at hfuel ⊢
      simp only [List.length_cons, List.length_append] at hfuel
      have hvalue :
          readValue fuel (w.compact ++ ',' :: (compactMembers (m :: ms) ++ '\x7d' :: rest)) =
            some (w.reread, ',' :: (compactMembers (m :: ms) ++ '\x7d' :: rest)) :=
        readValue_compact w (endsNumber_comma _) (by omega)
      have hmembers : readMembers fuel (compactMembers (m :: ms) ++ '\x7d' :: rest) =
          some (some (rereadMembers (m :: ms)), rest) :=
        readMembers_compact (m :: ms) (List.cons_ne_nil m ms) (by omega)
      rw [List.append_assoc, List.cons_append, List.append_assoc, List.cons_append,
        readMembers_quoted, hvalue, Option.bind_some]
      show (readMembers fuel _).map _ = _
      rw [hmembers]
      rfl

end

/-- The compact text of a value is read as the value that its parts denote. -/
theorem parse?_compact (w : Written) : parse? (String.ofList w.compact) = some w.reread := by
  have hread : readValue (2 * w.compact.length + 2) (w.compact ++ []) = some (w.reread, []) :=
    readValue_compact w (by simp [EndsNumber]) (by omega)
  rw [List.append_nil] at hread
  unfold parse?
  rw [String.toList_ofList]
  dsimp only
  rw [hread]
  rfl

end Written

/-! ## Documents that are written alike -/

/-- Documents whose numbers are read back are written alike only if they are the same. -/
theorem eq_of_render_eq {a b : Json} (ha : a.Canonical) (hb : b.Canonical)
    (hanumbers : a.NumbersReadBack) (hbnumbers : b.NumbersReadBack) (h : a.render = b.render) :
    a = b := by
  have hread : (Written.ofJson a).reread = (Written.ofJson b).reread := by
    have hparse := Written.parse?_compact (Written.ofJson a)
    rw [show String.ofList (Written.ofJson a).compact = String.ofList (Written.ofJson b).compact
      from h, Written.parse?_compact] at hparse
    exact (Option.some.inj hparse).symm
  -- A reader that goes deep enough for both gets both of them back.
  have hreada : reread? (max a.depth b.depth) a = some a :=
    (reread?_eq_some_iff ha).mpr ⟨Nat.le_max_left _ _, hanumbers⟩
  have hreadb : reread? (max a.depth b.depth) b = some b :=
    (reread?_eq_some_iff hb).mpr ⟨Nat.le_max_right _ _, hbnumbers⟩
  rw [reread?, hread, ← reread?, hreadb] at hreada
  exact (Option.some.inj hreada).symm

end Fleet.Json
