/-
# Lines and margins

The text of a fragment gets its margin in front of every line.  Text is written piece by piece, so
what was written before decides whether a piece starts a line.
-/
import Fleet.Placeholder.Piece

namespace Fleet.Placeholder

/-! ## Lines -/

/-- A line feed or a carriage return. -/
def isLineEnd (c : Char) : Bool :=
  c == '\n' || c == '\r'

/-- Inserts a margin behind every line feed but one at the end. -/
def indent (margin : List Char) : List Char → List Char
  | [] => []
  | c :: rest =>
    if c == '\n' && !rest.isEmpty then c :: (margin ++ indent margin rest)
    else c :: indent margin rest

/-! ## Writing -/

/-- What writing leaves behind. -/
structure Canvas where
  /-- The fragments defined so far, the latest first. -/
  fragments : List (String × List Piece)
  /-- Whether the text so far ends with a line break. -/
  lineEnded : Bool
  /-- Whether the innermost block or fragment has written anything. -/
  written : Bool
  /-- Whether the next text starts a line. -/
  startsLine : Bool

namespace Canvas

/-- The canvas before anything is written. -/
def blank : Canvas := ⟨[], false, false, false⟩

/-- Writes a text with a margin. -/
def write (c : Canvas) (margin text : List Char) : List Char × Canvas :=
  match text.getLast? with
  | none => ([], c)
  | some last =>
    let lead := if c.startsLine && !(text.head?.any isLineEnd) then margin else []
    let ended := isLineEnd last
    (lead ++ indent margin text,
      { c with lineEnded := ended, written := true, startsLine := ended })

/-- Whether the text of a block starts a line; its tag may have its line to itself. -/
def startsBlock (c : Canvas) (fresh : Bool) : Bool :=
  c.startsLine || (fresh && c.lineEnded)

/-- Whether the text of a fragment starts a line; its tag may have its line to itself. -/
def startsFragment (c : Canvas) (fresh : Bool) (margin : List Char) : Bool :=
  fresh && (c.lineEnded || !margin.isEmpty)

/-- Begins a block or a fragment. -/
def enter (c : Canvas) (startsLine : Bool) : Canvas :=
  { c with written := false, startsLine := startsLine }

/-- Ends a block or a fragment; one that has written nothing leaves no trace. -/
def leave (c before : Canvas) : Canvas :=
  if c.written then { c with startsLine := c.lineEnded }
  else { c with written := before.written, startsLine := before.startsLine }

end Canvas

end Fleet.Placeholder
