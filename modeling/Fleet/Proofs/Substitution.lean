/-
# What substitution puts in place of tags

In a text made of plain pieces and tags every tag gives way to the value of its variable, all of
them at once: no value is read again.  The leftmost variable without a value is the one that is
reported.  In a document this happens to every string, names of members included, and the first
failure in the order of the walk counts, in which a name comes before its value.

A text with a name that begins with the word for an alternative is refused, whatever its variables.

Main statements: `Placeholder.fill_written`, `Json.fillAll_eq`, `Json.substitute_eq_mapTexts`.
-/
import Fleet.Document.Substitute
import Fleet.Proofs.Maps
import Fleet.Proofs.PlainTexts

namespace Fleet

namespace Placeholder

/-! ## Writing without a margin -/

/-- Without a margin nothing is inserted. -/
theorem indent_nil (cs : List Char) : indent [] cs = cs := by
  induction cs with
  | nil => rfl
  | cons c rest ih =>
      rw [indent]
      split
      · rw [List.nil_append, ih]
      · rw [ih]

/-- Without a margin a text is written as it is. -/
theorem Canvas.write_nil_fst (canvas : Canvas) (text : List Char) :
    (canvas.write [] text).1 = text := by
  unfold Canvas.write
  split
  · rename_i hlast
    exact (List.getLast?_eq_none_iff.mp hlast).symm
  · simp only [ite_self, List.nil_append, indent_nil]

/-! ## Rendering -/

/-- Where the text of a document is rendered. -/
def Env.ofContext (context : SortedMap String String) : Env :=
  ⟨⟨.object (context.entries.map fun e => (e.1, .string e.2)), [⟨[], none, [], []⟩]⟩, none, []⟩

/-- The members of the context are strings. -/
theorem find?_map_string (name : String) (entries : List (String × String)) :
    Assoc.find? name (entries.map fun e => (e.1, Json.string e.2)) =
      (Assoc.find? name entries).map Json.string := by
  induction entries with
  | nil => rfl
  | cons e rest ih =>
      rw [List.map_cons, Assoc.find?, Assoc.find?]
      split
      · rfl
      · exact ih

/-- The path of a variable leads to its value in the context. -/
theorem resolve_path (context : SortedMap String String) (v : Variable) :
    ∃ place, (Env.ofContext context).view.resolve v.path =
      .ok ⟨(context.get? v.name).map Json.string, place, some v.name⟩ := by
  have hdescend : descend (Env.ofContext context).view.data [v.name] =
      .ok ((context.get? v.name).map Json.string) := by
    rw [SortedMap.get?, Env.ofContext, descend, find?_map_string]
    cases Assoc.find? v.name context.entries <;> rfl
  refine ⟨if ((context.get? v.name).map Json.string).isSome then some [v.name] else none, ?_⟩
  show (Env.ofContext context).view.atPlace v.name [v.name] = _
  rw [View.atPlace, hdescend]
  rfl

/-- The value of a variable is written as it is, and a variable without one is missing. -/
theorem renderValue_path (context : SortedMap String String) (canvas : Canvas) (v : Variable) :
    renderValue (.ofContext context) canvas (.path v.path) =
      (context.get? v.name).elim (.error (.missing (some v.name)))
        fun value => (Env.ofContext context).write canvas value.toList := by
  obtain ⟨place, hresolve⟩ := resolve_path context v
  have hname : (Expr.path v.path).name (Env.ofContext context).view = .ok v.name := rfl
  have heval : (Expr.path v.path).eval (Env.ofContext context).view =
      (Env.ofContext context).view.resolve v.path := by
    rw [Expr.eval]
  rw [renderValue, hname]
  simp only [bind, Except.bind, v.not_helper, heval, hresolve]
  cases context.get? v.name <;> rfl

/-- Pieces are written one after the other if what the further ones come to does not depend on the
canvas. -/
theorem renderPieces_cons_fst {again : Renderer} {env : Env} {canvas : Canvas} {p : Piece}
    {rest : List Piece} {first more : Except Failure (List Char)}
    (hfirst : (p.render again env canvas).map Prod.fst = first)
    (hmore : ∀ canvas, (renderPieces again env canvas rest).map Prod.fst = more) :
    (renderPieces again env canvas (p :: rest)).map Prod.fst =
      first.bind fun text => more.map (text ++ ·) := by
  rw [renderPieces, ← hfirst]
  cases p.render again env canvas with
  | error e => rfl
  | ok written =>
      obtain ⟨text, canvas'⟩ := written
      rw [← hmore canvas']
      dsimp only
      cases renderPieces again env canvas' rest <;> rfl

namespace Segment

/-- A segment with the value of its variable in place of a tag. -/
def filled (values : String → Option String) : Segment → List Char
  | plain p => p.chars
  | tag v => ((values v.name).getD "").toList

/-- The text of segments with the values of their variables in place of the tags. -/
def filling (values : String → Option String) (segments : List Segment) : String :=
  String.ofList (segments.flatMap (filled values))

/-- The leftmost variable of a text that has no value. -/
def missing? (values : String → Option String) (segments : List Segment) : Option Variable :=
  (segments.flatMap tags).find? fun v => (values v.name).isNone

/-- The first missing variable is in the first segment or in the further ones. -/
theorem missing?_cons (values : String → Option String) (s : Segment) (rest : List Segment) :
    missing? values (s :: rest) = (missing? values [s]).or (missing? values rest) := by
  rw [missing?, List.flatMap_cons, List.find?_append, missing?, List.flatMap_cons, List.flatMap_nil,
    List.append_nil]
  rfl

/-- A segment is written with the value of its variable, unless that is missing. -/
theorem render_piece (again : Renderer) (context : SortedMap String String) (s : Segment)
    (canvas : Canvas) :
    (s.piece.render again (.ofContext context) canvas).map Prod.fst =
      (missing? context.get? [s]).elim (.ok (s.filled context.get?))
        fun v => .error (.missing (some v.name)) := by
  cases s with
  | plain p =>
      rw [piece, Piece.render]
      exact congrArg Except.ok (canvas.write_nil_fst p.chars)
  | tag v =>
      rw [piece, Piece.render, renderValue_path, missing?, List.flatMap_singleton, tags,
        List.find?_singleton, filled]
      cases hvalue : context.get? v.name with
      | none => rfl
      | some value => exact congrArg Except.ok (canvas.write_nil_fst value.toList)

/-- The segments of a text are written one after the other, unless a variable is missing. -/
theorem renderPieces_map_piece (again : Renderer) (context : SortedMap String String)
    (segments : List Segment) (canvas : Canvas) :
    (renderPieces again (.ofContext context) canvas (segments.map piece)).map Prod.fst =
      (missing? context.get? segments).elim (.ok (segments.flatMap (filled context.get?)))
        fun v => .error (.missing (some v.name)) := by
  induction segments generalizing canvas with
  | nil => rfl
  | cons s rest ih =>
      rw [List.map_cons, renderPieces_cons_fst (render_piece again context s canvas) ih,
        missing?_cons context.get? s rest, List.flatMap_cons]
      cases missing? context.get? [s] with
      | some v => rfl
      | none => cases missing? context.get? rest <;> rfl

/-! ## Texts -/

/-- There are no braces in plain text. -/
theorem hasBraces_append {cs : List Char} (hcs : ∀ c ∈ cs, isPlainChar c = true)
    (rest : List Char) : hasBraces (cs ++ rest) = hasBraces rest := by
  induction cs with
  | nil => rfl
  | cons c cs ih =>
      rw [List.cons_append, hasBraces, ih fun d hd => hcs d (List.mem_cons_of_mem c hd)]
      intro tail hc
      exact absurd hc (ne_of_isPlainChar (hcs c List.mem_cons_self)).1

/-- There are braces in a text if there are tags in it. -/
theorem hasBraces_flatMap_chars (segments : List Segment) :
    hasBraces (segments.flatMap chars) = !(segments.flatMap tags).isEmpty := by
  induction segments with
  | nil => rfl
  | cons s rest ih =>
      cases s with
      | plain p =>
          rw [List.flatMap_cons, chars, hasBraces_append p.all, ih]
          rfl
      | tag v => rfl

/-- A text without tags is left alone. -/
theorem flatMap_filled_of_no_tags {segments : List Segment} (h : segments.flatMap tags = [])
    (values : String → Option String) :
    segments.flatMap (filled values) = segments.flatMap chars := by
  induction segments with
  | nil => rfl
  | cons s rest ih =>
      obtain ⟨hs, hrest⟩ := List.append_eq_nil_iff.mp h
      cases s with
      | plain p => rw [List.flatMap_cons, List.flatMap_cons, ih hrest, filled, chars]
      | tag v => exact absurd hs (List.cons_ne_nil v [])

/-- A text made of plain pieces and tags has the values of its variables put in place of the tags.
The leftmost variable without a value is missing, and a name that begins with the word for an
alternative makes the text invalid. -/
theorem fill_written (context : SortedMap String String) (segments : List Segment) :
    fill context (written segments) =
      if (segments.flatMap tags).any Variable.leadsOtherwise then .error .invalid
      else (missing? context.get? segments).elim (.ok (filling context.get? segments))
        fun v => .error (.missing (some v.name)) := by
  have hbraces := hasBraces_flatMap_chars segments
  rw [fill, written, String.toList_ofList, hbraces]
  cases htags : segments.flatMap tags with
  | nil =>
      rw [missing?, htags, filling, flatMap_filled_of_no_tags htags]
      rfl
  | cons v vs =>
      have hpieces := pieces_written segments
      rw [written, htags] at hpieces
      rw [hpieces]
      cases hany : (v :: vs).any Variable.leadsOtherwise with
      | true => rfl
      | false =>
          have hrender := renderPieces_map_piece (renderDeep 999) context (joined segments) .blank
          rw [missing?, flatMap_tags_joined, ← missing?,
            flatMap_joined (fun _ _ => rfl) (fun _ hp => hp)] at hrender
          have hmap : ∀ r : Rendered,
              (r.map fun written => String.ofList written.1) =
                (r.map Prod.fst).map String.ofList := by
            intro r
            cases r <;> rfl
          show (renderPieces (renderDeep 999) (.ofContext context) .blank _).map
            (fun written => String.ofList written.1) = _
          rw [hmap, hrender]
          cases missing? context.get? segments <;> rfl

/-- Why a text cannot be filled in. -/
def failure? (source : String) (values : String → Option String) (segments : List Segment) :
    Option Error :=
  if (segments.flatMap tags).any Variable.leadsOtherwise then some (.invalidPlaceholder source)
  else (missing? values segments).map fun v => .missingVariable source v.name

end Segment

end Placeholder

namespace Json

open Placeholder

/-- Filling in a text made of plain pieces and tags. -/
theorem fillText_written (source : String) (values : Context) (segments : List Segment) :
    fillText source values (Segment.written segments) =
      (Segment.failure? source values.get? segments).elim
        (.ok (Segment.filling values.get? segments)) .error := by
  rw [fillText, Segment.fill_written, Segment.failure?]
  cases (segments.flatMap Segment.tags).any Variable.leadsOtherwise with
  | true => rfl
  | false => cases Segment.missing? values.get? segments <;> rfl

/-! ## Documents -/

mutual

/-- The texts of a document, names of members included, in the order of the walk. -/
def texts : Json → List String
  | string s => [s]
  | array items => itemTexts items
  | object members => memberTexts members
  | null | bool _ | number _ => []

/-- The texts of items, one item after the other. -/
def itemTexts : List Json → List String
  | [] => []
  | j :: rest => j.texts ++ itemTexts rest

/-- The texts of members, each name before its value. -/
def memberTexts : List (String × Json) → List String
  | [] => []
  | (name, j) :: rest => name :: (j.texts ++ memberTexts rest)

end

mutual

/-- A document with other texts.  Of members that get the same name the last one counts. -/
def mapTexts (f : String → String) : Json → Json
  | string s => string (f s)
  | array items => array (mapItemTexts f items)
  | object members => ofMembers (mapMemberTexts f members)
  | null => null
  | bool b => bool b
  | number n => number n

/-- Items with other texts. -/
def mapItemTexts (f : String → String) : List Json → List Json
  | [] => []
  | j :: rest => j.mapTexts f :: mapItemTexts f rest

/-- Members with other texts. -/
def mapMemberTexts (f : String → String) : List (String × Json) → List (String × Json)
  | [] => []
  | (name, j) :: rest => (f name, j.mapTexts f) :: mapMemberTexts f rest

end

section Walk

variable {source : String} {values : Context} {failure : String → Option Error}
  {filled : String → String}

mutual

/-- Filling in a document fails for the first text that fails, and otherwise fills
in all of them. -/
theorem fillAll_eq : ∀ {j : Json},
    (∀ s ∈ j.texts, fillText source values s = (failure s).elim (.ok (filled s)) .error) →
    fillAll source values j = (j.texts.findSome? failure).elim (.ok (j.mapTexts filled)) .error
  | string s, h => by
      rw [fillAll, h s (List.mem_singleton_self s), texts, List.findSome?_cons]
      cases failure s <;> rfl
  | array items, h => by
      rw [fillAll, fillItems_eq h, texts]
      cases (itemTexts items).findSome? failure <;> rfl
  | object members, h => by
      rw [fillAll, fillMembers_eq h, texts]
      cases (memberTexts members).findSome? failure <;> rfl
  | null, _ => rfl
  | bool b, _ => rfl
  | number n, _ => rfl

/-- Filling in a list fails for the first text that fails, and otherwise fills in all of them. -/
theorem fillItems_eq : ∀ {items : List Json},
    (∀ s ∈ itemTexts items, fillText source values s = (failure s).elim (.ok (filled s)) .error) →
    fillItems source values items =
      ((itemTexts items).findSome? failure).elim (.ok (mapItemTexts filled items)) .error
  | [], _ => rfl
  | j :: rest, h => by
      obtain ⟨hj, hrest⟩ := List.forall_mem_append.mp h
      rw [fillItems, fillAll_eq hj, fillItems_eq hrest, itemTexts, List.findSome?_append]
      cases j.texts.findSome? failure with
      | some e => rfl
      | none => cases (itemTexts rest).findSome? failure <;> rfl

/-- Filling in members fails for the first text that fails, and otherwise fills in all of them. -/
theorem fillMembers_eq : ∀ {members done : List (String × Json)},
    (∀ s ∈ memberTexts members,
      fillText source values s = (failure s).elim (.ok (filled s)) .error) →
    fillMembers source values done members =
      ((memberTexts members).findSome? failure).elim
        (.ok (Assoc.insertAll done (mapMemberTexts filled members))) .error
  | [], _, _ => rfl
  | (name, j) :: rest, done, h => by
      obtain ⟨hname, h⟩ := List.forall_mem_cons.mp h
      obtain ⟨hj, hrest⟩ := List.forall_mem_append.mp h
      rw [fillMembers, hname, fillAll_eq hj, memberTexts, List.findSome?_cons,
        List.findSome?_append]
      cases failure name with
      | some e => rfl
      | none =>
          cases j.texts.findSome? failure with
          | some e => rfl
          | none => exact fillMembers_eq hrest

end

end Walk

/-- In a document whose texts are made of plain pieces and tags, substitution puts the value of each
variable in place of its tag: the one of the context, or else the one of the defaults.  If that
fails for some text, the first one in the order of the walk counts. -/
theorem substitute_eq_mapTexts {j : Json} {parts : String → List Segment}
    (hparts : ∀ s ∈ j.texts, Segment.written (parts s) = s) (source : String)
    (context defaults : Context) :
    let values := fun name => (context.get? name).or (defaults.get? name)
    j.substitute source context defaults =
      (j.texts.findSome? fun s => Segment.failure? source values (parts s)).elim
        (.ok (j.mapTexts fun s => Segment.filling values (parts s))) .error := by
  intro values
  have hvalues : (defaults.union context).get? = values :=
    funext fun name => SortedMap.get?_union defaults context name
  rw [substitute]
  refine fillAll_eq fun s hs => ?_
  have hfill := fillText_written source (defaults.union context) (parts s)
  rw [hparts s hs, hvalues] at hfill
  exact hfill

/-- A variable of a context. -/
def siteVariable : Variable := ⟨"site", ⟨by decide, List.all_eq_true.mp rfl⟩, by decide, rfl⟩

/-- A variable of defaults. -/
def zoneVariable : Variable := ⟨"zone", ⟨by decide, List.all_eq_true.mp rfl⟩, by decide, rfl⟩

/-- Two tags next to each other. -/
def adjacentSample : List Segment := [.tag siteVariable, .tag zoneVariable]

/-- A tag behind plain text. -/
def trailingSample : List Segment :=
  [.plain ⟨['a', 't', ' '], List.all_eq_true.mp rfl⟩, .tag zoneVariable]

/-- A document with tags in the name of a member and in an item. -/
def taggedSample : Json :=
  object [(Segment.written adjacentSample, array [string (Segment.written trailingSample), null])]

/-- What the texts of the document are made of. -/
def partsSample (s : String) : List Segment :=
  if s = Segment.written adjacentSample then adjacentSample else trailingSample

/-- A context with a value that looks like a tag. -/
def tagLikeContext : Context := SortedMap.ofList [("site", "\x7b\x7bzone\x7d\x7d")]

/-- Defaults, of which the context overrides one. -/
def zoneDefaults : Context := SortedMap.ofList [("site", "none"), ("zone", "north")]

/-- A value that looks like a tag takes the place of a tag as it is. -/
theorem substitute_eq_mapTexts_sample :
    (∀ s ∈ taggedSample.texts, Segment.written (partsSample s) = s) ∧
      taggedSample.substitute "t" tagLikeContext zoneDefaults =
        .ok (object [("\x7b\x7bzone\x7d\x7dnorth", array [string "at north", null])]) := by
  have hne : Segment.written trailingSample ≠ Segment.written adjacentSample :=
    fun h => absurd (String.ofList_injective h) (by decide)
  have hparts : ∀ s ∈ taggedSample.texts, Segment.written (partsSample s) = s := by
    intro s hs
    obtain rfl | hs := List.mem_cons.mp hs
    · rw [partsSample, if_pos rfl]
    · obtain rfl := List.mem_singleton.mp hs
      rw [partsSample, if_neg hne]
  refine ⟨hparts, ?_⟩
  rw [substitute_eq_mapTexts hparts]
  decide +kernel

/-- A variable whose name begins with the word for the alternative of a block. -/
def elsewhereVariable : Variable :=
  ⟨"elsewhere", ⟨by decide, List.all_eq_true.mp rfl⟩, by decide, rfl⟩

/-- A context with a value for that variable. -/
def elsewhereContext : Context := SortedMap.ofList [("elsewhere", "EW")]

/-- The tag of that variable is refused, although there is a value to take its place. -/
theorem substitute_elsewhere :
    Segment.filling elsewhereContext.get? [.tag elsewhereVariable] = "EW" ∧
      (string (Segment.written [.tag elsewhereVariable])).substitute "t" elsewhereContext .empty =
        .error (.invalidPlaceholder "t") := by
  decide +kernel

end Json

end Fleet
