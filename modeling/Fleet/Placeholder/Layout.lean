/-
# White space around tags

A tag with a tilde removes the white space on that side.  A tag that inserts no value takes its line
with it if it stands alone on the line.
-/
import Fleet.Placeholder.Token

namespace Fleet.Placeholder

/-- What the tags so far ask of the text that follows. -/
structure Layout where
  /-- Remove leading white space. -/
  trim : Bool
  /-- Remove the rest of the line. -/
  endLine : Bool

/-- Removes leading spaces and tabs and one line break. -/
def dropLine (cs : List Char) : List Char :=
  match Text.trimStartBy Text.isSpaceOrTab cs with
  | '\r' :: '\n' :: rest => rest
  | '\n' :: rest => rest
  | rest => rest

/-- Removes characters of a class from the end of the last token, if it is text. -/
def trimLast (p : Char → Bool) : List Token → List Token
  | .text cs :: earlier => .text (Text.trimEndBy p cs) :: earlier
  | earlier => earlier

/-- Whether a tag can take its line with it. -/
def Tag.takesLine : Tag → Bool
  | .value _ => false
  | .invoke _ _ => false
  | _ => true

/-- Whether a tag decides about the white space after it. -/
def Tag.decides : Tag → Bool
  | .comment => false
  | _ => true

/-- Lays out one token after the earlier ones, which are listed backwards. -/
def Layout.step (st : Layout × List Token) (token : Token) : Layout × List Token :=
  let (layout, earlier) := st
  match token with
  | .text cs =>
    let cs :=
      if layout.trim then Text.trimStartBy Text.isBlank cs
      else if layout.endLine then dropLine cs
      else cs
    (⟨layout.trim, false⟩, .text cs :: earlier)
  | .blank cs =>
    if layout.trim then (layout, earlier)
    else (⟨false, false⟩, .text (if layout.endLine then dropLine cs else cs) :: earlier)
  | .tag t edges =>
    let earlier := if edges.trimBefore then trimLast Text.isBlank earlier else earlier
    let alone := t.takesLine && edges.isAlone
    let earlier := if alone then trimLast Text.isSpaceOrTab earlier else earlier
    let trim := if t.decides then edges.trimAfter else layout.trim
    (⟨trim, if t.takesLine then alone else layout.endLine⟩, token :: earlier)

/-- Removes the white space that the tags take with them. -/
def layOut (tokens : List Token) : List Token :=
  (tokens.foldl Layout.step (⟨false, false⟩, [])).2.reverse

end Fleet.Placeholder
