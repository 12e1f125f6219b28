/-
# Tags that hold a name

A tag with nothing but a name in it stands for the value of that name, whatever follows the tag.
The word for the alternative of a block is looked for before names are, and no matter what follows
it: of a name that begins with it only the rest is left, and the tag is read as such an alternative.

Main statement: `Variable.readTag_append`.
-/
import Fleet.Placeholder.Helper
import Fleet.Placeholder.Token

namespace Fleet.Placeholder

/-! ## Words -/

/-- A word holds characters of names only. -/
structure IsWord (w : List Char) : Prop where
  /-- There is at least one. -/
  ne_nil : w ≠ []
  /-- There are no others. -/
  all : ∀ c ∈ w, isNameChar c = true

/-- A character of names is none of the other characters. -/
theorem ne_of_isNameChar {c d : Char} (hc : isNameChar c = true) (hd : isNameChar d = false) :
    c ≠ d := by
  rintro rfl
  rw [hc] at hd
  exact Bool.noConfusion hd

namespace IsWord

variable {w : List Char} (hw : IsWord w)

include hw

/-- A word starts with a character of names. -/
theorem eq_cons : ∃ c tail, w = c :: tail ∧ isNameChar c = true := by
  obtain ⟨c, tail, rfl⟩ := List.exists_cons_of_ne_nil hw.ne_nil
  exact ⟨c, tail, rfl, hw.all c List.mem_cons_self⟩

/-- A text that starts with a word starts with no other character. -/
theorem append_ne_cons {d : Char} (hd : isNameChar d = false) (cs rest : List Char) :
    w ++ cs ≠ d :: rest := by
  obtain ⟨c, tail, rfl, hc⟩ := hw.eq_cons
  intro heq
  exact ne_of_isNameChar hc hd (List.cons.inj heq).1

/-- No white space comes before a word. -/
theorem skipBlanks_append (cs : List Char) : skipBlanks (w ++ cs) = w ++ cs := by
  obtain ⟨c, tail, rfl, hc⟩ := hw.eq_cons
  have hblank : Json.isJsonBlank c = false := by
    have hspace := ne_of_isNameChar (d := ' ') hc rfl
    have htab := ne_of_isNameChar (d := '\t') hc rfl
    have hline := ne_of_isNameChar (d := '\n') hc rfl
    have hreturn := ne_of_isNameChar (d := '\r') hc rfl
    simp [Json.isJsonBlank, hspace, htab, hline, hreturn]
  exact List.dropWhile_cons_of_neg (by rw [hblank]; exact Bool.false_ne_true)

/-- No tilde comes before a word. -/
theorem readTilde_append (cs : List Char) : readTilde (w ++ cs) = (false, w ++ cs) := by
  rw [readTilde, hw.skipBlanks_append]
  split
  · rename_i heq
    exact absurd heq (hw.append_ne_cons rfl _ _)
  · rfl

/-- A word does not start like a text that starts with another character. -/
theorem isPrefixOf_append {d : Char} (hd : isNameChar d = false) (stop cs : List Char) :
    (d :: stop).isPrefixOf (w ++ cs) = false := by
  obtain ⟨c, tail, rfl, hc⟩ := hw.eq_cons
  have hne : (d == c) = false := beq_false_of_ne (ne_of_isNameChar hc hd).symm
  rw [List.cons_append, List.isPrefixOf_cons_cons, hne]
  rfl

/-- A text that starts with another character is not found where a word starts. -/
theorem dropWord_append {d : Char} (hd : isNameChar d = false) (stop cs : List Char) :
    dropWord (d :: stop) (w ++ cs) = none := by
  rw [dropWord, hw.isPrefixOf_append hd]
  rfl

/-- A tag does not end where a word starts. -/
theorem readEnd_append (before : Bool) (t : Tag) (cs : List Char) :
    readEnd closeBraces before t (w ++ cs) = none := by
  rw [readEnd, hw.readTilde_append]
  show (dropWord closeBraces (w ++ cs)).map _ = none
  rw [closeBraces, hw.dropWord_append rfl]
  rfl

end IsWord

/-! ## Closing braces -/

section Closed

variable (rest : List Char)

/-- A tag ends at closing braces. -/
theorem readEnd_closeBraces (before : Bool) (t : Tag) :
    readEnd closeBraces before t (closeBraces ++ rest) = some ⟨t, before, false, rest⟩ := rfl

/-- Closing braces are no literal. -/
theorem skipLiteral_closeBraces (fuel : Nat) : skipLiteral fuel (closeBraces ++ rest) = none := by
  cases fuel <;> rfl

/-- Closing braces are no call. -/
theorem readNested_closeBraces (fuel : Nat) : readNested fuel (closeBraces ++ rest) = none := by
  cases fuel <;> rfl

/-- Closing braces are no argument. -/
theorem readParam_closeBraces (fuel : Nat) : readParam fuel (closeBraces ++ rest) = none := by
  cases fuel with
  | zero => rfl
  | succ fuel =>
      have hkeyword : startsWithKeyword (closeBraces ++ rest) = false := rfl
      have hpath : readPath (closeBraces ++ rest) = none := rfl
      rw [readParam, hkeyword, skipLiteral_closeBraces, hpath]
      exact readNested_closeBraces rest fuel

/-- No arguments come before closing braces. -/
theorem readArgs_closeBraces (fuel : Nat) :
    readArgs fuel (closeBraces ++ rest) = ([], closeBraces ++ rest) := by
  cases fuel with
  | zero => rfl
  | succ fuel =>
      have hblank : skipBlanks (closeBraces ++ rest) = closeBraces ++ rest := rfl
      have hname : readName (closeBraces ++ rest) = none := rfl
      rw [readArgs, hblank, hname, readParam_closeBraces]

/-- A text of characters of names that a text before closing braces starts with ends before them. -/
theorem isPrefixOf_append_closeBraces (start : List Char)
    (hstart : ∀ c ∈ start, isNameChar c = true) (cs : List Char) :
    start.isPrefixOf (cs ++ (closeBraces ++ rest)) = start.isPrefixOf cs := by
  induction start generalizing cs with
  | nil => rfl
  | cons c start ih =>
      cases cs with
      | nil =>
          have hne : (c == '\x7d') = false :=
            beq_false_of_ne (ne_of_isNameChar (hstart c List.mem_cons_self) rfl)
          show List.isPrefixOf (c :: start) ('\x7d' :: '\x7d' :: rest) = false
          rw [List.isPrefixOf_cons_cons, hne]
          rfl
      | cons d cs =>
          rw [List.cons_append, List.isPrefixOf_cons_cons, List.isPrefixOf_cons_cons,
            ih (fun c hc => hstart c (List.mem_cons_of_mem _ hc))]

/-- No arguments come before closing braces. -/
theorem readArguments_closeBraces :
    readArguments (closeBraces ++ rest) = ([], closeBraces ++ rest) := by
  have hargs := readArgs_closeBraces rest (fuelFor (closeBraces ++ rest))
  simp only [readArguments, hargs]
  rfl

/-- No further items of a path come before closing braces. -/
theorem readItems_closeBraces (fuel : Nat) :
    readItems fuel (closeBraces ++ rest) = ([], closeBraces ++ rest) := by
  cases fuel <;> rfl

namespace IsWord

variable {w : List Char} (hw : IsWord w)

include hw

/-- What follows a word before closing braces is the braces. -/
theorem dropWhile_append :
    (w ++ (closeBraces ++ rest)).dropWhile isNameChar = closeBraces ++ rest := by
  rw [List.dropWhile_append_of_pos hw.all]
  rfl

/-- A word ends at closing braces. -/
theorem readName_append :
    readName (w ++ (closeBraces ++ rest)) = some (String.ofList w, closeBraces ++ rest) := by
  have htake : (w ++ (closeBraces ++ rest)).takeWhile isNameChar = w := by
    rw [List.takeWhile_append_of_pos hw.all]
    exact List.append_nil w
  rw [readName, htake, hw.dropWhile_append, if_neg]
  rw [List.isEmpty_iff]
  exact hw.ne_nil

/-- A word alone is no call of a helper. -/
theorem readCall_append (fuel : Nat) : readCall fuel (w ++ (closeBraces ++ rest)) = none := by
  cases fuel with
  | zero => rfl
  | succ fuel =>
      rw [readCall, hw.readName_append]
      simp only [readArgs_closeBraces]

/-- A word alone is the head of a block without arguments. -/
theorem readHead_append :
    readHead (w ++ (closeBraces ++ rest)) =
      some (⟨String.ofList w, [], []⟩, closeBraces ++ rest) := by
  rw [readHead, hw.skipBlanks_append, hw.readName_append]
  simp only [Option.map_some, readArguments_closeBraces]
  rfl

/-- No separator follows the beginning of a word alone. -/
theorem dropStep_append {start : List Char} (hstart : ∀ c ∈ start, isNameChar c = true) :
    dropStep start (w ++ (closeBraces ++ rest)) = none := by
  rw [dropStep, dropWord]
  split
  · rename_i hprefix
    obtain ⟨tail, htail⟩ := List.isPrefixOf_iff_prefix.mp hprefix
    have hclosed : tail.dropWhile isNameChar = closeBraces ++ rest := by
      rw [← hw.dropWhile_append, ← htail, List.dropWhile_append_of_pos hstart]
    rw [← htail, List.drop_left]
    show dropSeparator tail = none
    unfold dropSeparator
    split
    · exact absurd (List.cons.inj hclosed).1 (by decide)
    · exact absurd (List.cons.inj hclosed).1 (by decide)
    · rfl
  · rfl

/-- No step to an enclosing scope is in a word alone. -/
theorem countUp_append (fuel : Nat) :
    countUp fuel (w ++ (closeBraces ++ rest)) = (0, w ++ (closeBraces ++ rest)) := by
  cases fuel with
  | zero => rfl
  | succ fuel =>
      rw [countUp, dropStep, hw.dropWord_append rfl]
      rfl

/-- A word alone is an item of a path, unless it stands for the scope itself. -/
theorem readItem_append (hthis : String.ofList w ≠ "this") :
    readItem (w ++ (closeBraces ++ rest)) = some ([String.ofList w], closeBraces ++ rest) := by
  unfold readItem
  split
  · rename_i heq
    exact absurd heq (hw.append_ne_cons rfl _ _)
  · rw [hw.readName_append]
    simp only [Option.map_some, if_neg hthis]

/-- A word alone is a path of one name, unless it stands for the scope itself. -/
theorem readPath_append (hthis : String.ofList w ≠ "this") :
    readPath (w ++ (closeBraces ++ rest)) =
      some (⟨String.ofList w, false, false, 0, [String.ofList w]⟩, closeBraces ++ rest) := by
  have hhere : skipHere (w ++ (closeBraces ++ rest)) = w ++ (closeBraces ++ rest) := by
    rw [skipHere, hw.dropStep_append rest (List.all_eq_true.mp rfl), hw.dropWord_append rfl]
    rfl
  have hroot : dropStep "@root".toList (w ++ (closeBraces ++ rest)) = none := by
    rw [dropStep, show "@root".toList = '@' :: "root".toList from rfl, hw.dropWord_append rfl]
    rfl
  have hwritten :
      (w ++ (closeBraces ++ rest)).take
        ((w ++ (closeBraces ++ rest)).length - (closeBraces ++ rest).length) = w := by
    rw [List.length_append, Nat.add_sub_cancel, List.take_left]
  simp only [readPath, hhere, hroot, Option.getD_none, Option.isSome_none]
  split
  · rename_i heq
    exact absurd heq (hw.append_ne_cons rfl _ _)
  · simp only [hw.countUp_append, hw.readItem_append rest hthis, readItems_closeBraces, hwritten,
      Option.map_some, List.append_nil]

/-- What a tag inserts that holds a word alone, unless the word stands for the scope itself. -/
theorem readInserted_append (hthis : String.ofList w ≠ "this") :
    readInserted (w ++ (closeBraces ++ rest)) =
      some (.value (.path ⟨String.ofList w, false, false, 0, [String.ofList w]⟩),
        closeBraces ++ rest) := by
  have hnested : ∀ fuel, readNested fuel (w ++ (closeBraces ++ rest)) = none := by
    intro fuel
    cases fuel with
    | zero => rfl
    | succ fuel =>
        unfold readNested
        split
        · rename_i heq
          exact absurd heq (hw.append_ne_cons rfl _ _)
        · rfl
  rw [readInserted, hw.readCall_append, readTarget, hnested, hw.readPath_append rest hthis]
  rfl

end IsWord

end Closed

/-! ## Tags -/

/-- The inside of a tag that starts with a word is read as an alternative if it starts with the word
for one, and otherwise as what is to be inserted. -/
theorem IsWord.readBody_append {w : List Char} (hw : IsWord w) (before : Bool) (cs : List Char) :
    readBody before (w ++ cs) =
      ((dropWord "else".toList (w ++ cs)).bind (readOtherwise before)).or
        ((readInserted (w ++ cs)).bind fun (t, rest) => readEnd closeBraces before t rest) := by
  unfold readBody
  split
  all_goals first
    | rfl
    | exact absurd ‹_› (hw.append_ne_cons rfl _ _)

/-- A tag that starts with a word has no sign. -/
theorem IsWord.readTag_append {w : List Char} (hw : IsWord w) (cs : List Char) :
    readTag (w ++ cs) = readBody false (w ++ cs) := by
  simp only [readTag, hw.readTilde_append]
  split
  · exact absurd ‹_› (hw.append_ne_cons rfl _ _)
  · exact absurd ‹_› (hw.append_ne_cons rfl _ _)
  · rfl

/-- The name of a variable: a word that is neither the word for the scope itself nor the name of a
helper. -/
structure Variable where
  /-- The name. -/
  name : String
  /-- It is a word. -/
  isWord : IsWord name.toList
  /-- It does not stand for the scope itself. -/
  ne_this : name ≠ "this"
  /-- It does not call a helper. -/
  not_helper : helper? name = none

namespace Variable

/-- Whether a name begins with the word for the alternative of a block. -/
def leadsOtherwise (v : Variable) : Bool :=
  "else".toList.isPrefixOf v.name.toList

/-- The path to the value of a variable. -/
def path (v : Variable) : Path :=
  ⟨v.name, false, false, 0, [v.name]⟩

/-- The alternative that is read for a name that begins with the word for one. -/
def chained (v : Variable) : Option Head :=
  match v.name.toList.drop "else".toList.length with
  | [] => none
  | rest => some ⟨String.ofList rest, [], []⟩

/-- The tag that is read for the name of a variable. -/
def read (v : Variable) : Tag :=
  if v.leadsOtherwise then .otherwise v.chained else .value (.path v.path)

/-- A name that begins with the word for an alternative is read as one. -/
theorem read_of_leadsOtherwise {v : Variable} (h : v.leadsOtherwise = true) :
    v.read = .otherwise v.chained := by
  rw [read, if_pos h]

/-- Any other name is read as a path. -/
theorem read_of_not_leadsOtherwise {v : Variable} (h : v.leadsOtherwise = false) :
    v.read = .value (.path v.path) := by
  rw [read, h]
  rfl

/-- A name that begins with the word for an alternative loses it, and the rest of the tag is read as
that of an alternative. -/
theorem readOtherwise_append (v : Variable) {tail : List Char}
    (htail : "else".toList ++ tail = v.name.toList) (rest : List Char) :
    readOtherwise false (tail ++ (closeBraces ++ rest)) =
      some ⟨.otherwise v.chained, false, false, rest⟩ := by
  have hdrop : v.name.toList.drop "else".toList.length = tail := by
    rw [← htail, List.drop_left]
  cases tail with
  | nil =>
      rw [chained, hdrop, readOtherwise, List.nil_append, readEnd_closeBraces]
      rfl
  | cons c tail =>
      have hword : IsWord (c :: tail) := by
        refine ⟨List.cons_ne_nil c tail, fun d hd => v.isWord.all d ?_⟩
        rw [← htail]
        exact List.mem_append_right _ hd
      rw [chained, hdrop, readOtherwise, hword.readEnd_append, hword.readHead_append]
      exact readEnd_closeBraces rest false _

/-- A tag with the name of a variable in it is read the same whatever follows it. -/
theorem readTag_append (v : Variable) (rest : List Char) :
    readTag (v.name.toList ++ (closeBraces ++ rest)) = some ⟨v.read, false, false, rest⟩ := by
  have hname : String.ofList v.name.toList = v.name := String.ofList_toList
  have hprefix :=
    isPrefixOf_append_closeBraces rest "else".toList (List.all_eq_true.mp rfl) v.name.toList
  rw [v.isWord.readTag_append, v.isWord.readBody_append, dropWord, hprefix]
  cases hleads : v.leadsOtherwise with
  | false =>
      have hinserted := v.isWord.readInserted_append rest (by rw [hname]; exact v.ne_this)
      rw [show "else".toList.isPrefixOf v.name.toList = false from hleads, hinserted, hname,
        read_of_not_leadsOtherwise hleads]
      exact readEnd_closeBraces rest false _
  | true =>
      obtain ⟨tail, htail⟩ := List.isPrefixOf_iff_prefix.mp hleads
      have hotherwise := v.readOtherwise_append htail rest
      rw [show "else".toList.isPrefixOf v.name.toList = true from hleads, ← htail, if_pos rfl,
        List.append_assoc, List.drop_left, Option.bind_some, hotherwise,
        read_of_leadsOtherwise hleads]
      rfl

end Variable

end Fleet.Placeholder
