/-
# The variables of the fleet

Variables come from the table of a configuration file and from assignments on the command line.  All
names are checked, those of the table first; an assignment counts more than the table, and of
assignments to one name the last one counts, where the blanks around a name are no part of it.

Main statements: `Text.trimsTo_iff`, `parseVariable_eq_ok_iff`, `mergesInto_of_addVariables`,
`fleetVariables_resolves`.
-/
import Fleet.Command.Config
import Fleet.Proofs.Outcomes
import Fleet.Proofs.Patterns
import Mathlib.Data.List.DropRight

namespace Fleet

open Outcomes

/-! ## Trimming -/

namespace Text

variable {cs t : List Char}

/-- A text is another one without the white space at both ends. -/
structure TrimsTo (cs t : List Char) : Prop where
  /-- It stands in the other one between blanks. -/
  between : ∃ front back, cs = front ++ (t ++ back) ∧ (∀ c ∈ front, isBlank c = true) ∧
    ∀ c ∈ back, isBlank c = true
  /-- It begins with no blank. -/
  first : ∀ c, t.head? = some c → isBlank c = false
  /-- It ends with no blank. -/
  last : ∀ c, t.getLast? = some c → isBlank c = false

/-- Dropping the blanks at both ends leaves the trimmed text. -/
theorem trimsTo_trimmed (cs : List Char) :
    TrimsTo cs (trimEndBy isBlank (trimStartBy isBlank cs)) := by
  have hhead : ∀ (l : List Char) c, (l.dropWhile isBlank).head? = some c → isBlank c = false := by
    intro l c hc
    have h := List.head?_dropWhile_not isBlank l
    rw [hc] at h
    exact h
  have htake : ∀ (l : List Char), ∀ c ∈ l.takeWhile isBlank, isBlank c = true :=
    fun l c hc => List.mem_takeWhile_imp hc
  unfold trimEndBy trimStartBy
  -- What is kept is the text behind the blanks in front, read backwards behind those at the end.
  have hsplit : cs.dropWhile isBlank = ((cs.dropWhile isBlank).reverse.dropWhile isBlank).reverse ++
      ((cs.dropWhile isBlank).reverse.takeWhile isBlank).reverse := by
    rw [← List.reverse_append, List.takeWhile_append_dropWhile, List.reverse_reverse]
  refine ⟨⟨cs.takeWhile isBlank, ((cs.dropWhile isBlank).reverse.takeWhile isBlank).reverse, ?_,
    htake cs, ?_⟩, ?_, ?_⟩
  · rw [← hsplit, List.takeWhile_append_dropWhile]
  · intro c hc
    exact htake _ c (List.mem_reverse.mp hc)
  · intro c hc
    refine hhead cs c ?_
    rw [hsplit, List.head?_append, hc]
    rfl
  · intro c hc
    rw [List.getLast?_reverse] at hc
    exact hhead _ c hc

/-- The trimmed text is what dropping the blanks at both ends leaves. -/
theorem trimsTo_iff : TrimsTo cs t ↔ t = trimEndBy isBlank (trimStartBy isBlank cs) := by
  constructor
  · rintro ⟨⟨front, back, rfl, hfront, hback⟩, hfirst, hlast⟩
    rw [trimStartBy, List.dropWhile_append_of_pos hfront, trimEndBy]
    cases t with
    | nil =>
        rw [List.nil_append, List.dropWhile_eq_nil_iff.mpr hback]
        rfl
    | cons c rest =>
        have hc : isBlank c = false := hfirst c rfl
        rw [List.cons_append, List.dropWhile_cons_of_neg (by rw [hc]; exact Bool.false_ne_true),
          ← List.cons_append, List.reverse_append,
          List.dropWhile_append_of_pos fun d hd => hback d (List.mem_reverse.mp hd)]
        obtain ⟨d, hd⟩ : ∃ d, (c :: rest).getLast? = some d :=
          ⟨_, List.getLast?_eq_getLast_of_ne_nil (List.cons_ne_nil c rest)⟩
        obtain ⟨before, hbefore⟩ := List.getLast?_eq_some_iff.mp hd
        have hblank : isBlank d = false := hlast d hd
        rw [hbefore, List.reverse_concat,
          List.dropWhile_cons_of_neg (by rw [hblank]; exact Bool.false_ne_true),
          ← List.reverse_concat, List.reverse_reverse]
  · rintro rfl
    exact trimsTo_trimmed cs

end Text

open Text (TrimsTo)

/-! ## Assignments -/

/-- A name of a variable: letters, digits and underscores, and no digit first. -/
def IsVariableName (name : String) : Prop :=
  ∃ c rest, name.toList = c :: rest ∧ (c.isAlpha = true ∨ c = '_') ∧
    ∀ d ∈ rest, d.isAlphanum = true ∨ d = '_'

/-- A text assigns a value to a name: the value stands behind the first equals sign, and the name,
without the blanks around it, before that. -/
def Assigns (text name value : String) : Prop :=
  ∃ before, '=' ∉ before ∧ text.toList = before ++ '=' :: value.toList ∧ TrimsTo before name.toList

/-- A text assigns a value to a name that a variable may have. -/
def WellAssigned (text : String) : Prop :=
  ∃ name value, Assigns text name value ∧ IsVariableName name

/-- What is wrong with a text that is no such assignment. -/
inductive Faulty (text : String) : VariableFault → Prop where
  | form (h : '=' ∉ text.toList) : Faulty text .form
  | name {name value : String} (h : Assigns text name value) (hno : ¬ IsVariableName name) :
      Faulty text .name

variable {text name value : String} {context : Context} {e : ConfigError}

/-- The pattern of names has the names of variables. -/
theorem accepts_variableName_iff :
    variableName.accepts name.toList = true ↔ IsVariableName name := by
  rw [Text.Pattern.accepts_iff, variableName, Text.Pattern.matches_one_many_iff]
  simp only [IsVariableName, Bool.or_eq_true, beq_iff_eq]

/-- The check of names passes the names of variables. -/
theorem checkVariableName_eq_ok_iff :
    checkVariableName text name = .ok () ↔ IsVariableName name := by
  rw [← accepts_variableName_iff, checkVariableName]
  split <;> simp [*]

/-- Every other name is refused with the text that it is part of. -/
theorem checkVariableName_eq_error_iff :
    checkVariableName text name = .error e ↔
      ¬ IsVariableName name ∧ e = .invalidVariable text .name := by
  rw [← accepts_variableName_iff, checkVariableName]
  split <;> simp [*, eq_comm]

/-- A text without an equals sign is refused. -/
theorem parseVariable_of_not_mem (h : '=' ∉ text.toList) :
    parseVariable text = .error (.invalidVariable text .form) := by
  have hall : text.toList.takeWhile (· != '=') = text.toList := by
    rw [List.takeWhile_eq_self_iff]
    intro c hc
    exact bne_iff_ne.mpr fun heq => h (heq ▸ hc)
  rw [parseVariable, hall, List.drop_length]

/-- A text that assigns a value to a name is read if the name passes the check. -/
theorem parseVariable_of_assigns (h : Assigns text name value) :
    parseVariable text = (checkVariableName text name).map fun _ => (name, value) := by
  obtain ⟨before, hbefore, htext, htrims⟩ := h
  have htake : text.toList.takeWhile (· != '=') = before := by
    have hother : ∀ c ∈ before, (c != '=') = true :=
      fun c hc => bne_iff_ne.mpr fun heq => hbefore (heq ▸ hc)
    rw [htext, List.takeWhile_append_of_pos hother, List.takeWhile_cons_of_neg (by simp),
      List.append_nil]
  have hname : Text.trim (String.ofList before) = name := by
    rw [Text.trim, String.toList_ofList, ← Text.trimsTo_iff.mp htrims, String.ofList_toList]
  have hdrop : text.toList.drop before.length = '=' :: value.toList := by
    rw [htext, List.drop_left]
  rw [parseVariable, htake]
  dsimp only
  rw [hdrop]
  dsimp only
  rw [hname, String.ofList_toList]
  cases checkVariableName text name <;> rfl

/-- A text with an equals sign assigns something. -/
theorem exists_assigns (h : '=' ∈ text.toList) : ∃ name value, Assigns text name value := by
  obtain ⟨before, value, htext, hbefore⟩ := List.eq_append_cons_of_mem h
  exact ⟨_, String.ofList value, before, hbefore, by rw [htext, String.toList_ofList], by
    rw [String.toList_ofList]
    exact Text.trimsTo_trimmed before⟩

/-- A text is read exactly if it assigns a value to a name that a variable may have. -/
theorem parseVariable_eq_ok_iff :
    parseVariable text = .ok (name, value) ↔ Assigns text name value ∧ IsVariableName name := by
  constructor
  · intro h
    by_cases hmem : '=' ∈ text.toList
    · obtain ⟨name', value', hassigns⟩ := exists_assigns hmem
      rw [parseVariable_of_assigns hassigns, map_eq_ok] at h
      obtain ⟨_, hcheck, heq⟩ := h
      cases heq
      exact ⟨hassigns, checkVariableName_eq_ok_iff.mp hcheck⟩
    · rw [parseVariable_of_not_mem hmem] at h
      cases h
  · rintro ⟨hassigns, hname⟩
    rw [parseVariable_of_assigns hassigns, checkVariableName_eq_ok_iff.mpr hname]
    rfl

/-- Every other text is refused for what is wrong with it. -/
theorem parseVariable_eq_error_iff :
    parseVariable text = .error e ↔
      ∃ fault, Faulty text fault ∧ e = .invalidVariable text fault := by
  constructor
  · intro h
    by_cases hmem : '=' ∈ text.toList
    · obtain ⟨name, value, hassigns⟩ := exists_assigns hmem
      rw [parseVariable_of_assigns hassigns] at h
      cases hcheck : checkVariableName text name with
      | ok =>
          rw [hcheck] at h
          cases h
      | error e' =>
          rw [hcheck] at h
          cases h
          obtain ⟨hno, rfl⟩ := checkVariableName_eq_error_iff.mp hcheck
          exact ⟨.name, .name hassigns hno, rfl⟩
    · rw [parseVariable_of_not_mem hmem] at h
      exact ⟨.form, .form hmem, (Except.error.inj h).symm⟩
  · rintro ⟨fault, hfaulty, rfl⟩
    cases hfaulty with
    | form hmem => exact parseVariable_of_not_mem hmem
    | name hassigns hno =>
        rw [parseVariable_of_assigns hassigns, checkVariableName_eq_error_iff.mpr ⟨hno, rfl⟩]
        rfl

/-- A text is read exactly if it is an assignment. -/
theorem exists_parseVariable_eq_ok : (∃ a, parseVariable text = .ok a) ↔ WellAssigned text := by
  constructor
  · rintro ⟨⟨name, value⟩, h⟩
    exact ⟨name, value, parseVariable_eq_ok_iff.mp h⟩
  · rintro ⟨name, value, h⟩
    exact ⟨(name, value), parseVariable_eq_ok_iff.mpr h⟩

/-- A text that is read assigns nothing but what is read. -/
theorem Assigns.eq_of_parseVariable {first v : String} (h : Assigns text name value)
    (hparse : parseVariable text = .ok (first, v)) : name = first ∧ value = v := by
  rw [parseVariable_of_assigns h, map_eq_ok] at hparse
  obtain ⟨_, _, heq⟩ := hparse
  exact ⟨congrArg Prod.fst heq, congrArg Prod.snd heq⟩

/-! ## Assignments one after the other -/

variable {texts : List String}

/-- The first text is read, and the others are merged over what it assigns. -/
theorem addVariables_cons (context : Context) (text : String) (rest : List String) :
    addVariables context (text :: rest) =
      (parseVariable text).bind fun a => addVariables (context.insert a.1 a.2) rest := by
  rw [addVariables, List.foldlM_cons]
  cases parseVariable text <;> rfl

/-- Whether a text is read. -/
def checkAssignment (text : String) : Except ConfigError Unit :=
  (parseVariable text).map fun _ => ()

/-- The check of a text passes assignments. -/
theorem checkAssignment_eq_ok_iff : checkAssignment text = .ok () ↔ WellAssigned text := by
  rw [checkAssignment, map_eq_ok, ← exists_parseVariable_eq_ok]
  simp only [and_true]

/-- The check of a text refuses every other text for what is wrong with it. -/
theorem checkAssignment_eq_error_iff :
    checkAssignment text = .error e ↔
      ∃ fault, Faulty text fault ∧ e = .invalidVariable text fault := by
  rw [checkAssignment, map_eq_error, parseVariable_eq_error_iff]

/-- Merging succeeds or fails as the texts are read one after the other, whatever they
are merged into. -/
theorem map_addVariables (context : Context) (texts : List String) :
    (addVariables context texts).map (fun _ => ()) = texts.forM checkAssignment := by
  induction texts generalizing context with
  | nil => rfl
  | cons text rest ih =>
      rw [addVariables_cons, forM_cons, checkAssignment]
      cases parseVariable text with
      | error e => rfl
      | ok a => exact ih (context.insert a.1 a.2)

/-- The last of the texts that assign something to a name assigns a value to it. -/
def LastAssigned (texts : List String) (name value : String) : Prop :=
  ∃ earlier text later, texts = earlier ++ text :: later ∧ Assigns text name value ∧
    ∀ t ∈ later, ∀ w, ¬ Assigns t name w

/-- Variables of a table are merged with assignments: a name that is assigned has the value of the
last assignment to it, and every other name the value of the table, if it has one there. -/
structure MergesInto (table : Context) (texts : List String) (context : Context) : Prop where
  /-- The last assignment to a name counts. -/
  assigned : ∀ name value, LastAssigned texts name value → context.get? name = some value
  /-- Other names are those of the table. -/
  others : ∀ name, (∀ text ∈ texts, ∀ value, ¬ Assigns text name value) →
    context.get? name = table.get? name

/-- Texts that are merged over a context. -/
theorem mergesInto_of_addVariables {table : Context} (h : addVariables table texts = .ok context) :
    MergesInto table texts context := by
  induction texts generalizing table with
  | nil =>
      cases h
      refine ⟨?_, fun _ _ => rfl⟩
      rintro name value ⟨earlier, text, later, h, _⟩
      cases earlier <;> cases h
  | cons text rest ih =>
      rw [addVariables_cons] at h
      cases hparse : parseVariable text with
      | error e =>
          rw [hparse] at h
          cases h
      | ok a =>
          obtain ⟨first, v⟩ := a
          rw [hparse] at h
          have hrest := ih h
          refine ⟨?_, fun name hno => ?_⟩
          · rintro name value ⟨earlier, t, later, hsplit, hassigns, hlater⟩
            cases earlier with
            | nil =>
                -- No later text assigns anything to the name.
                cases hsplit
                obtain ⟨rfl, rfl⟩ := hassigns.eq_of_parseVariable hparse
                rw [hrest.others name hlater, SortedMap.get?_insert_self]
            | cons first earlier =>
                cases hsplit
                exact hrest.assigned name value ⟨earlier, t, later, rfl, hassigns, hlater⟩
          · obtain ⟨hfirst, hlater⟩ := List.forall_mem_cons.mp hno
            have hne : first ≠ name := by
              rintro rfl
              exact hfirst v (parseVariable_eq_ok_iff.mp hparse).1
            rw [hrest.others name hlater, SortedMap.get?_insert_ne hne]

/-! ## The table and the assignments -/

/-- The error for the first fault: names of the table come before assignments, both
in their order. -/
inductive FirstFault (table : Context) (texts : List String) : ConfigError → Prop where
  | key {earlier later : List String} {key : String} (hkeys : table.keys = earlier ++ key :: later)
      (hearlier : ∀ k ∈ earlier, IsVariableName k) (hno : ¬ IsVariableName key) :
      FirstFault table texts (.invalidVariable key .name)
  | text {earlier later : List String} {text : String} {fault : VariableFault}
      (hkeys : ∀ key ∈ table.keys, IsVariableName key) (htexts : texts = earlier ++ text :: later)
      (hearlier : ∀ t ∈ earlier, WellAssigned t) (hfaulty : Faulty text fault) :
      FirstFault table texts (.invalidVariable text fault)

/-- Resolving succeeds where the names of the table pass the check and the
assignments are merged. -/
theorem fleetVariables_eq_ok_iff {table : Context} :
    fleetVariables table texts = .ok context ↔
      (∀ key ∈ table.keys, IsVariableName key) ∧ addVariables table texts = .ok context := by
  rw [fleetVariables, seq_eq_ok, forM_eq_ok_iff]
  simp only [checkVariableName_eq_ok_iff]

/-- Resolving fails with the error for the first fault. -/
theorem fleetVariables_eq_error_iff {table : Context} :
    fleetVariables table texts = .error e ↔ FirstFault table texts e := by
  rw [fleetVariables, seq_eq_error, forM_eq_error_iff, forM_eq_ok_iff,
    ← map_eq_error (f := fun _ => ()), map_addVariables, forM_eq_error_iff]
  simp only [checkVariableName_eq_ok_iff, checkVariableName_eq_error_iff, checkAssignment_eq_ok_iff,
    checkAssignment_eq_error_iff]
  constructor
  · rintro (⟨earlier, key, later, hkeys, hearlier, hno, rfl⟩ |
      ⟨hkeys, earlier, text, later, htexts, hearlier, fault, hfaulty, rfl⟩)
    · exact .key hkeys hearlier hno
    · exact .text hkeys htexts hearlier hfaulty
  · intro h
    cases h with
    | key hkeys hearlier hno => exact Or.inl ⟨_, _, _, hkeys, hearlier, hno, rfl⟩
    | text hkeys htexts hearlier hfaulty =>
        exact Or.inr ⟨hkeys, _, _, _, htexts, hearlier, _, hfaulty, rfl⟩

/-- Resolving the variables of the fleet succeeds exactly if every name of the table and of an
assignment is one that a variable may have, and then the assignments are merged over the table; it
fails with the error for the first fault. -/
theorem fleetVariables_resolves (table : Context) (texts : List String) :
    ((∃ context, fleetVariables table texts = .ok context) ↔
        (∀ key ∈ table.keys, IsVariableName key) ∧ ∀ text ∈ texts, WellAssigned text) ∧
      (∀ context, fleetVariables table texts = .ok context → MergesInto table texts context) ∧
      ∀ e, fleetVariables table texts = .error e ↔ FirstFault table texts e := by
  refine ⟨?_, fun context h => ?_, fun e => fleetVariables_eq_error_iff⟩
  · have hmerged : (∃ context, addVariables table texts = .ok context) ↔
        ∀ text ∈ texts, WellAssigned text := by
      simp only [← checkAssignment_eq_ok_iff]
      rw [← forM_eq_ok_iff, ← map_addVariables table, map_eq_ok]
      simp only [and_true]
    simp only [fleetVariables_eq_ok_iff, exists_and_left, hmerged]
  · exact mergesInto_of_addVariables (fleetVariables_eq_ok_iff.mp h).2

/-- The blanks around a name are no part of it, so that the second assignment to `ntp` replaces the
first one as well as the value of the table; further equals signs belong to the value. -/
example :
    fleetVariables (.ofList [("dns", "9.9.9.9"), ("ntp", "table")])
        [" ntp =first", "opts=a=b", "ntp= last"] =
      .ok (.ofList [("dns", "9.9.9.9"), ("ntp", " last"), ("opts", "a=b")]) := by
  decide +kernel

end Fleet
