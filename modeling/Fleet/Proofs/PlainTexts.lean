/-
# Texts made of plain pieces and tags

A text that is put together from plain pieces and from tags with names of variables falls into just
these parts again, wherever pieces and tags are next to each other; only plain pieces side by side
become one.  The text is malformed if and only if one of the names begins with the word for the
alternative of a block, since there is no block that the alternative could belong to.

Main statement: `Segment.pieces_written`.
-/
import Mathlib.Data.List.Forall2
import Fleet.Placeholder.Piece
import Fleet.Proofs.NameTags

namespace Fleet.Placeholder

/-! ## Segments -/

/-- A plain character stands for itself wherever it is: it is no brace and no backslash. -/
def isPlainChar (c : Char) : Bool :=
  c != '\x7b' && c != '\x7d' && c != '\\'

/-- A plain character is no opening brace and no backslash. -/
theorem ne_of_isPlainChar {c : Char} (h : isPlainChar c = true) : c ≠ '\x7b' ∧ c ≠ '\\' := by
  simp only [isPlainChar, Bool.and_eq_true, bne_iff_ne] at h
  exact ⟨h.1.1, h.2⟩

/-- A piece of plain text, which may be empty. -/
structure Plain where
  /-- The characters. -/
  chars : List Char
  /-- They are plain. -/
  all : ∀ c ∈ chars, isPlainChar c = true

/-- Two pieces of plain text side by side. -/
def Plain.append (p q : Plain) : Plain :=
  ⟨p.chars ++ q.chars, fun c hc => (List.mem_append.mp hc).elim (p.all c) (q.all c)⟩

/-- A part of a text: plain text, or a tag with the name of a variable. -/
inductive Segment where
  /-- Plain text. -/
  | plain (p : Plain)
  /-- A tag. -/
  | tag (v : Variable)

namespace Segment

/-- A segment as it is written. -/
def chars : Segment → List Char
  | plain p => p.chars
  | tag v => openBraces ++ (v.name.toList ++ closeBraces)

/-- The text that segments make up. -/
def written (segments : List Segment) : String :=
  String.ofList (segments.flatMap chars)

/-- The variables of a segment. -/
def tags : Segment → List Variable
  | plain _ => []
  | tag v => [v]

/-- The piece that a segment is read as. -/
def piece : Segment → Piece
  | plain p => .text p.chars
  | tag v => .value (.path v.path)

/-! ## Joining plain text -/

/-- Puts plain text in front of segments: into the first one if that is plain. -/
def join (p : Plain) : List Segment → List Segment
  | plain q :: rest => plain (p.append q) :: rest
  | segments => if p.chars = [] then segments else plain p :: segments

/-- Joins plain segments that are next to each other and drops empty ones. -/
def joined : List Segment → List Segment
  | [] => []
  | plain p :: rest => join p (joined rest)
  | tag v :: rest => tag v :: joined rest

/-- What comes after plain text: the end, or two opening braces. -/
def Opens (cs : List Char) : Prop :=
  cs = [] ∨ ∃ rest, cs = openBraces ++ rest

/-- Segments of which none is empty and the plain ones are as long as they can be. -/
inductive Joined : List Segment → Prop where
  /-- No segments. -/
  | nil : Joined []
  /-- Plain text in front of a tag or of the end. -/
  | plain {p : Plain} {rest : List Segment} (hp : p.chars ≠ []) (hrest : Opens (rest.flatMap chars))
    (h : Joined rest) : Joined (plain p :: rest)
  /-- A tag in front of anything. -/
  | tag {v : Variable} {rest : List Segment} (h : Joined rest) : Joined (tag v :: rest)

/-- What starts with a tag comes after plain text. -/
theorem opens_tag (v : Variable) (rest : List Segment) : Opens ((tag v :: rest).flatMap chars) := by
  refine Or.inr ⟨v.name.toList ++ closeBraces ++ rest.flatMap chars, ?_⟩
  rw [List.flatMap_cons, chars, List.append_assoc]

/-- Plain text in front of joined segments is joined with them. -/
theorem Joined.join {segments : List Segment} (h : Joined segments) (p : Plain) :
    Joined (join p segments) := by
  cases h with
  | nil =>
      rw [Segment.join]
      split
      · exact .nil
      · rename_i hp
        exact .plain hp (Or.inl rfl) .nil
      · intro q rest heq
        exact absurd heq (List.cons_ne_nil _ _).symm
  | plain hq hrest h => exact .plain (List.append_ne_nil_of_right_ne_nil _ hq) hrest h
  | tag h =>
      rw [Segment.join]
      split
      · exact .tag h
      · rename_i hp
        exact .plain hp (opens_tag _ _) (.tag h)
      · intro q rest heq
        exact Segment.noConfusion (List.cons.inj heq).1

/-- Joining leaves joined segments. -/
theorem joined_joined (segments : List Segment) : Joined (joined segments) := by
  induction segments with
  | nil => exact .nil
  | cons s rest ih =>
      cases s with
      | plain p => exact ih.join p
      | tag v => exact .tag ih

/-- Joining changes nothing of what is put together from the parts of the segments, if that of plain
text is put together from the parts of its pieces. -/
theorem flatMap_joined {β : Type} {f : Segment → List β}
    (happend : ∀ p q : Plain, f (plain (p.append q)) = f (plain p) ++ f (plain q))
    (hempty : ∀ p : Plain, p.chars = [] → f (plain p) = []) (segments : List Segment) :
    (joined segments).flatMap f = segments.flatMap f := by
  have hjoin : ∀ (p : Plain) (rest : List Segment),
      (join p rest).flatMap f = f (plain p) ++ rest.flatMap f := by
    intro p rest
    unfold join
    split
    · rw [List.flatMap_cons, List.flatMap_cons, happend, List.append_assoc]
    · split
      · rename_i hp
        rw [hempty p hp, List.nil_append]
      · rw [List.flatMap_cons]
  induction segments with
  | nil => rfl
  | cons s rest ih =>
      cases s with
      | plain p => rw [joined, hjoin, ih, List.flatMap_cons]
      | tag v => rw [joined, List.flatMap_cons, List.flatMap_cons, ih]

/-- Joining changes nothing of the text. -/
theorem flatMap_chars_joined (segments : List Segment) :
    (joined segments).flatMap chars = segments.flatMap chars :=
  flatMap_joined (fun _ _ => rfl) (fun _ hp => hp) segments

/-- Joining changes nothing of the variables. -/
theorem flatMap_tags_joined (segments : List Segment) :
    (joined segments).flatMap tags = segments.flatMap tags :=
  flatMap_joined (fun _ _ => rfl) (fun _ _ => rfl) segments

/-! ## Tokens -/

/-- How a segment may come out as a token.  A tag removes no white space. -/
inductive Stands : Segment → Token → Prop where
  /-- Plain text. -/
  | text {p : Plain} : Stands (plain p) (.text p.chars)
  /-- Plain text of white space. -/
  | blank {p : Plain} : Stands (plain p) (.blank p.chars)
  /-- A tag. -/
  | tag {v : Variable} {edges : Edges} (hbefore : edges.trimBefore = false)
    (hafter : edges.trimAfter = false) : Stands (tag v) (.tag v.read edges)

/-- Plain text ends where it has to. -/
theorem spanText_append {cs : List Char} (hcs : ∀ c ∈ cs, isPlainChar c = true) {rest : List Char}
    (hrest : Opens rest) : spanText openBraces 0 (cs ++ rest) = (cs, rest) := by
  induction cs with
  | nil =>
      obtain rfl | ⟨inside, rfl⟩ := hrest
      · rfl
      · rw [List.nil_append, openBraces, List.cons_append, spanText, if_pos (by rfl)]
  | cons c cs ih =>
      have hplain := ne_of_isPlainChar (hcs c List.mem_cons_self)
      have hbrace : ('\x7b' == c) = false := beq_false_of_ne hplain.1.symm
      have hslash : (c == '\\') = false := beq_false_of_ne hplain.2
      have ih := ih fun d hd => hcs d (List.mem_cons_of_mem c hd)
      have hstop : openBraces.isPrefixOf (c :: (cs ++ rest)) = false := by
        rw [openBraces, List.isPrefixOf_cons_cons, hbrace]
        rfl
      rw [List.cons_append, spanText, hstop]
      simp only [hslash, ih, Bool.false_and, Bool.false_eq_true, if_false]

/-- Plain text comes out as one token. -/
theorem tokensFrom_plain {p : Plain} (hp : p.chars ≠ []) {rest : List Char} (hrest : Opens rest)
    (fuel : Nat) (before : List Char) :
    ∃ token before', Stands (plain p) token ∧
      tokensFrom (fuel + 1) before (p.chars ++ rest) =
        (tokensFrom fuel before' rest).map (token :: ·) := by
  have hspan := spanText_append p.all hrest
  have hopen : dropWord openBraces (p.chars ++ rest) = none := by
    obtain ⟨c, tail, hchars⟩ := List.exists_cons_of_ne_nil hp
    have hplain := ne_of_isPlainChar (p.all c (by rw [hchars]; exact List.mem_cons_self))
    have hbrace : ('\x7b' == c) = false := beq_false_of_ne hplain.1.symm
    rw [hchars, dropWord, openBraces, List.cons_append, List.isPrefixOf_cons_cons, hbrace]
    rfl
  have hraw : (p.chars ++ rest).take ((p.chars ++ rest).length - rest.length) = p.chars := by
    rw [List.length_append, Nat.add_sub_cancel, List.take_left]
  refine ⟨if p.chars.all Json.isJsonBlank then .blank p.chars else .text p.chars,
    advance before (p.chars ++ rest) rest, ?_, ?_⟩
  · split
    · exact .blank
    · exact .text
  · rw [tokensFrom]
    · simp only [hopen, hspan, hraw]
    · exact List.append_ne_nil_of_left_ne_nil hp rest

/-- A tag comes out as one token. -/
theorem tokensFrom_tag (v : Variable) (rest : List Char) (fuel : Nat) (before : List Char) :
    ∃ token before', Stands (tag v) token ∧
      tokensFrom (fuel + 1) before ((tag v).chars ++ rest) =
        (tokensFrom fuel before' rest).map (token :: ·) := by
  have htext : (tag v).chars ++ rest = openBraces ++ (v.name.toList ++ (closeBraces ++ rest)) := by
    rw [chars, List.append_assoc, List.append_assoc]
  have hopen : dropWord openBraces ((tag v).chars ++ rest) =
      some (v.name.toList ++ (closeBraces ++ rest)) := by
    rw [htext]
    rfl
  have hraw : readRaw before ((tag v).chars ++ rest) = none := by
    have hbraces : (openBraces ++ openBraces).isPrefixOf ((tag v).chars ++ rest) = false := by
      rw [htext]
      exact v.isWord.isPrefixOf_append rfl ['\x7b'] (closeBraces ++ rest)
    simp only [readRaw, dropWord, hbraces, Bool.false_eq_true, if_false, Option.bind_none]
  refine ⟨(TagRead.mk v.read false false rest).token before,
    advance before ((tag v).chars ++ rest) rest, .tag rfl rfl, ?_⟩
  rw [tokensFrom]
  · simp only [hopen, hraw, v.readTag_append]
    simp
  · rw [htext]
    exact List.cons_ne_nil _ _

/-- A joined text has at least as many characters as segments. -/
theorem Joined.length_le {segments : List Segment} (h : Joined segments) :
    segments.length ≤ (segments.flatMap chars).length := by
  induction h with
  | nil => exact Nat.le_refl 0
  | @plain p rest hp hrest h ih =>
      have hpos := List.length_pos_iff.mpr hp
      rw [List.flatMap_cons, chars, List.length_append, List.length_cons]
      omega
  | @tag v rest h ih =>
      rw [List.flatMap_cons, chars, List.length_append, List.length_append, List.length_cons,
        openBraces, List.length_cons]
      omega

/-- The tokens of segments are that of the first one and those of the further ones. -/
theorem tokensFrom_cons {s : Segment} {rest : List Segment} {fuel : Nat} {before : List Char}
    (hfirst : ∃ token before', Stands s token ∧
      tokensFrom (fuel + 1) before (s.chars ++ rest.flatMap chars) =
        (tokensFrom fuel before' (rest.flatMap chars)).map (token :: ·))
    (hrest : ∀ before', ∃ ts, tokensFrom fuel before' (rest.flatMap chars) = some ts ∧
      List.Forall₂ Stands rest ts) :
    ∃ ts, tokensFrom (fuel + 1) before ((s :: rest).flatMap chars) = some ts ∧
      List.Forall₂ Stands (s :: rest) ts := by
  obtain ⟨token, before', hstands, hread⟩ := hfirst
  obtain ⟨ts, hts, hall⟩ := hrest before'
  refine ⟨token :: ts, ?_, .cons hstands hall⟩
  rw [List.flatMap_cons, hread, hts]
  rfl

/-- The tokens of joined segments are these segments. -/
theorem tokensFrom_joined {segments : List Segment} (h : Joined segments) :
    ∀ (fuel : Nat) (before : List Char), segments.length < fuel →
      ∃ ts, tokensFrom fuel before (segments.flatMap chars) = some ts ∧
        List.Forall₂ Stands segments ts := by
  induction h with
  | nil =>
      intro fuel before hfuel
      obtain ⟨fuel, rfl⟩ := Nat.exists_eq_add_of_lt hfuel
      exact ⟨[], rfl, .nil⟩
  | @plain p rest hp hrest h ih =>
      intro fuel before hfuel
      cases fuel with
      | zero => exact absurd hfuel (Nat.not_lt_zero _)
      | succ fuel =>
          exact tokensFrom_cons (tokensFrom_plain hp hrest fuel before)
            fun before' => ih fuel before' (Nat.lt_of_succ_lt_succ hfuel)
  | @tag v rest h ih =>
      intro fuel before hfuel
      cases fuel with
      | zero => exact absurd hfuel (Nat.not_lt_zero _)
      | succ fuel =>
          exact tokensFrom_cons (tokensFrom_tag v _ fuel before)
            fun before' => ih fuel before' (Nat.lt_of_succ_lt_succ hfuel)

/-- The tags of segments are among their tokens. -/
theorem exists_tag_mem {segments : List Segment} {ts : List Token}
    (h : List.Forall₂ Stands segments ts) {v : Variable} (hv : v ∈ segments.flatMap tags) :
    ∃ edges, .tag v.read edges ∈ ts := by
  induction h with
  | nil => exact absurd hv List.not_mem_nil
  | @cons s token segments ts hstands h ih =>
      rw [List.flatMap_cons, List.mem_append] at hv
      cases hstands with
      | text | blank =>
          obtain ⟨edges, hmem⟩ := ih (hv.resolve_left List.not_mem_nil)
          exact ⟨edges, List.mem_cons_of_mem _ hmem⟩
      | @tag u edges hbefore hafter =>
          obtain hu | hv := hv
          · obtain rfl := List.mem_singleton.mp hu
            exact ⟨edges, List.mem_cons_self⟩
          · obtain ⟨edges, hmem⟩ := ih hv
            exact ⟨edges, List.mem_cons_of_mem _ hmem⟩

/-- The tags among the tokens of segments are those of the segments and remove no white space. -/
theorem exists_mem_of_tag_mem {segments : List Segment} {ts : List Token}
    (h : List.Forall₂ Stands segments ts) {t : Tag} {edges : Edges} (ht : .tag t edges ∈ ts) :
    ∃ v ∈ segments.flatMap tags,
      t = v.read ∧ edges.trimBefore = false ∧ edges.trimAfter = false := by
  induction h with
  | nil => exact absurd ht List.not_mem_nil
  | @cons s token segments ts hstands h ih =>
      rw [List.flatMap_cons]
      obtain heq | ht := List.mem_cons.mp ht
      · cases hstands with
        | text | blank => exact Token.noConfusion heq
        | @tag u edges hbefore hafter =>
            obtain ⟨rfl, rfl⟩ := Token.tag.inj heq
            exact ⟨u, List.mem_append_left _ (List.mem_singleton_self u), rfl, hbefore, hafter⟩
      · obtain ⟨v, hv, hread⟩ := ih ht
        exact ⟨v, List.mem_append_right _ hv, hread⟩

end Segment

/-! ## Layout -/

/-- A token of white space as text. -/
def Token.asText : Token → Token
  | .blank cs => .text cs
  | token => token

/-- A token that leaves the text around it alone: no tag, or one that only inserts something. -/
def Token.Inserts : Token → Prop
  | .tag t edges => t.takesLine = false ∧ edges.trimBefore = false ∧ edges.trimAfter = false
  | _ => True

/-- Texts in which tags only insert something are laid out as they are. -/
theorem layOut_eq_map {ts : List Token} (h : ∀ token ∈ ts, token.Inserts) :
    layOut ts = ts.map Token.asText := by
  have hfold : ∀ (ts earlier : List Token), (∀ token ∈ ts, token.Inserts) →
      (ts.foldl Layout.step (⟨false, false⟩, earlier)) =
        (⟨false, false⟩, (ts.map Token.asText).reverse ++ earlier) := by
    intro ts
    induction ts with
    | nil =>
        intro earlier _
        rfl
    | cons token ts ih =>
        intro earlier h
        obtain ⟨htoken, hts⟩ := List.forall_mem_cons.mp h
        have hstep : Layout.step (⟨false, false⟩, earlier) token =
            (⟨false, false⟩, token.asText :: earlier) := by
          cases token with
          | text cs => rfl
          | blank cs => rfl
          | tag t edges =>
              obtain ⟨htakes, hbefore, hafter⟩ := htoken
              simp [Layout.step, Token.asText, htakes, hbefore, hafter]
        rw [List.foldl_cons, hstep, ih _ hts, List.map_cons, List.reverse_cons, List.append_assoc]
        rfl
  rw [layOut, hfold ts [] h, List.append_nil, List.reverse_reverse]

/-- Trimming text leaves the tags. -/
theorem tag_mem_trimLast {p : Char → Bool} {t : Tag} {edges : Edges} {earlier : List Token} :
    .tag t edges ∈ trimLast p earlier ↔ Token.tag t edges ∈ earlier := by
  unfold trimLast
  split
  · simp
  · rfl

/-- Layout drops no tags and adds none. -/
theorem tag_mem_layOut {t : Tag} {edges : Edges} {ts : List Token} :
    .tag t edges ∈ layOut ts ↔ Token.tag t edges ∈ ts := by
  have htrim : ∀ (trims : Bool) (p : Char → Bool) (earlier : List Token),
      .tag t edges ∈ (if trims then trimLast p earlier else earlier) ↔ .tag t edges ∈ earlier := by
    intro trims p earlier
    split
    · exact tag_mem_trimLast
    · rfl
  have hstep : ∀ (st : Layout × List Token) (token : Token),
      .tag t edges ∈ (Layout.step st token).2 ↔
        Token.tag t edges = token ∨ .tag t edges ∈ st.2 := by
    intro st token
    cases token with
    | text cs => simp [Layout.step]
    | blank cs =>
        simp only [Layout.step]
        split
        · simp
        · simp
    | tag t' edges' =>
        simp only [Layout.step, List.mem_cons, htrim]
  have hfold : ∀ (ts : List Token) (st : Layout × List Token),
      .tag t edges ∈ (ts.foldl Layout.step st).2 ↔ .tag t edges ∈ ts ∨ .tag t edges ∈ st.2 := by
    intro ts
    induction ts with
    | nil => simp
    | cons token ts ih =>
        intro st
        rw [List.foldl_cons, ih, hstep, List.mem_cons]
        tauto
  rw [layOut, List.mem_reverse, hfold]
  simp

/-! ## Pieces -/

namespace Segment

/-- The pieces of the tokens of segments are those of the segments, if no name begins with the word
for an alternative. -/
theorem readPieces_map_asText {segments : List Segment} {ts : List Token}
    (h : List.Forall₂ Stands segments ts)
    (hno : ∀ v ∈ segments.flatMap tags, v.leadsOtherwise = false) :
    ∀ fuel, 2 * ts.length < fuel →
      readPieces fuel (ts.map Token.asText) = some (segments.map piece, []) := by
  induction h with
  | nil =>
      intro fuel hfuel
      obtain ⟨fuel, rfl⟩ := Nat.exists_eq_succ_of_ne_zero (Nat.ne_zero_of_lt hfuel)
      rfl
  | @cons s token segments ts hstands h ih =>
      intro fuel hfuel
      rw [List.length_cons] at hfuel
      obtain ⟨fuel, rfl⟩ := Nat.exists_eq_add_of_le' (show 2 ≤ fuel by omega)
      rw [List.flatMap_cons] at hno
      have ih := ih (fun v hv => hno v (List.mem_append_right _ hv)) fuel (by omega)
      have hfurther : readFurther (fuel + 1) s.piece (ts.map Token.asText) =
          some ((s :: segments).map piece, []) := by
        rw [readFurther, ih]
        rfl
      cases hstands with
      | text => exact hfurther
      | blank => exact hfurther
      | @tag v edges hbefore hafter =>
          have hleads := hno v (List.mem_append_left _ (List.mem_singleton_self v))
          rw [Variable.read_of_not_leadsOtherwise hleads]
          exact hfurther

/-- The pieces of a text without blocks end at an alternative. -/
theorem readPieces_of_otherwise {c : Option Head} {edges : Edges} {ts : List Token}
    (hmem : .tag (.otherwise c) edges ∈ ts)
    (htags : ∀ t e, Token.tag t e ∈ ts → ∃ v : Variable, t = v.read) :
    ∀ fuel ps, readPieces fuel ts ≠ some (ps, []) := by
  induction ts with
  | nil => exact absurd hmem List.not_mem_nil
  | cons token ts ih =>
      intro fuel ps
      cases fuel with
      | zero =>
          rw [readPieces]
          exact (Option.some_ne_none _).symm
      | succ fuel =>
          have hfurther : .tag (.otherwise c) edges ∈ ts →
              ∀ piece, readFurther fuel piece ts ≠ some (ps, []) := by
            intro hmem piece h
            cases fuel with
            | zero => exact absurd h (Option.some_ne_none _).symm
            | succ fuel =>
                rw [readFurther, Option.map_eq_some_iff] at h
                obtain ⟨⟨qs, rest⟩, hread, heq⟩ := h
                obtain rfl : rest = [] := (Prod.mk.inj heq).2
                exact ih hmem (fun t e hte => htags t e (List.mem_cons_of_mem _ hte)) fuel qs hread
          cases token with
          | text cs => exact hfurther (List.mem_of_ne_of_mem Token.noConfusion hmem) _
          | blank cs => exact hfurther (List.mem_of_ne_of_mem Token.noConfusion hmem) _
          | tag t e =>
              obtain ⟨v, rfl⟩ := htags t e List.mem_cons_self
              cases hleads : v.leadsOtherwise with
              | true =>
                  rw [Variable.read_of_leadsOtherwise hleads, readPieces]
                  intro h
                  exact absurd (Prod.mk.inj (Option.some.inj h)).2 (List.cons_ne_nil _ _)
              | false =>
                  rw [Variable.read_of_not_leadsOtherwise hleads] at hmem ⊢
                  refine hfurther (List.mem_of_ne_of_mem ?_ hmem) _
                  intro h
                  exact Tag.noConfusion (Token.tag.inj h).1

/-- A text made of plain pieces and tags falls into these, unless one of its names begins with the
word for an alternative. -/
theorem pieces_written (segments : List Segment) :
    pieces (written segments) =
      if (segments.flatMap tags).any Variable.leadsOtherwise then none
      else some ((joined segments).map piece) := by
  have hjoined := joined_joined segments
  obtain ⟨ts, hts, hstands⟩ := tokensFrom_joined hjoined
    (((joined segments).flatMap chars).length + 1) [] (Nat.lt_succ_of_le hjoined.length_le)
  have htokens : tokens (written segments) = some ts := by
    rw [tokens, written, String.toList_ofList, ← flatMap_chars_joined]
    exact hts
  rw [pieces, htokens, Option.bind_some, ← flatMap_tags_joined]
  cases hany : ((joined segments).flatMap tags).any Variable.leadsOtherwise with
  | true =>
      obtain ⟨v, hv, hleads⟩ := List.any_eq_true.mp hany
      obtain ⟨edges, hmem⟩ := exists_tag_mem hstands hv
      rw [Variable.read_of_leadsOtherwise hleads] at hmem
      have hnot := readPieces_of_otherwise (tag_mem_layOut.mpr hmem) (fun t e hte =>
        (exists_mem_of_tag_mem hstands (tag_mem_layOut.mp hte)).imp fun v hv => hv.2.1)
        (4 * ts.length + 4)
      split
      · rename_i ps hread
        exact absurd hread (hnot ps)
      · rfl
  | false =>
      have hno : ∀ v ∈ (joined segments).flatMap tags, v.leadsOtherwise = false := by
        intro v hv
        exact Bool.eq_false_iff.mpr fun hleads => List.any_eq_false.mp hany v hv hleads
      have hinserts : ∀ token ∈ ts, token.Inserts := by
        intro token htoken
        cases token with
        | text cs | blank cs => trivial
        | tag t edges =>
            obtain ⟨v, hv, rfl, htrims⟩ := exists_mem_of_tag_mem hstands htoken
            rw [Variable.read_of_not_leadsOtherwise (hno v hv)]
            exact ⟨rfl, htrims⟩
      rw [layOut_eq_map hinserts, readPieces_map_asText hstands hno _ (by omega)]
      rfl

end Segment

end Fleet.Placeholder
