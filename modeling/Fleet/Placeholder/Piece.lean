/-
# Pieces

A text with placeholders as a sequence of pieces, in which the tags of each block have found each
other.
-/
import Fleet.Placeholder.Layout

namespace Fleet.Placeholder

/-- A piece of a text with placeholders.  `fresh` tells that its tag has its line to itself. -/
inductive Piece where
  /-- Plain text. -/
  | text (cs : List Char)
  /-- The value of a path or of a call in parentheses. -/
  | value (e : Expr)
  /-- What a helper makes of its arguments. -/
  | invoke (helper : String) (args : Args)
  /-- A block of a helper: what it holds, and its alternative. -/
  | block (fresh : Bool) (head : Head) (body : List Piece) (inverse : Option (List Piece))
  /-- A fragment with its margin, and the block it may use. -/
  | fragment (fresh : Bool) (margin : List Char) (name : Expr) (args : Args)
    (body : Option (List Piece))
  /-- A directive, and the block it holds. -/
  | directive (head : Head) (body : Option (List Piece))

/-- Takes a closing tag off the tokens if its name is accepted. -/
def dropClosing (accepts : Option String → Bool) : List Token → Option (List Token)
  | .tag (.closing name) _ :: rest => if accepts name then some rest else none
  | _ => none

/-- Whether a closing tag fits the block of a fragment or a directive: it has no
name, or the same. -/
def closesLoosely (label closing : Option String) : Bool :=
  closing.isNone || closing == label

mutual

/-- Collects pieces up to a tag that divides or closes a block, or up to the end. -/
def readPieces : Nat → List Token → Option (List Piece × List Token)
  | 0, _ => none
  | _ + 1, [] => some ([], [])
  | fuel + 1, .text cs :: rest => readFurther fuel (.text cs) rest
  | fuel + 1, .blank cs :: rest => readFurther fuel (.text cs) rest
  | fuel + 1, .tag t edges :: rest =>
    match t with
    | .value e => readFurther fuel (.value e) rest
    | .invoke helper args => readFurther fuel (.invoke helper args) rest
    | .comment => readPieces fuel rest
    | .fragment name args =>
      let margin := if edges.trimBefore then [] else edges.margin
      readFurther fuel (.fragment edges.isFresh margin name args none) rest
    | .directive head => readFurther fuel (.directive head none) rest
    | .opening head =>
      (readBlock fuel head.helper edges.isFresh head rest).bind fun (block, rest) =>
        readFurther fuel block rest
    | .wrapping name args =>
      (readPieces fuel rest).bind fun (body, rest) =>
        (dropClosing (closesLoosely (label? name)) rest).bind
          (readFurther fuel (.fragment edges.isFresh [] name args (some body)))
    | .defining head =>
      (readPieces fuel rest).bind fun (body, rest) =>
        (dropClosing (closesLoosely (some head.helper)) rest).bind
          (readFurther fuel (.directive head (some body)))
    | .otherwise _ => some ([], .tag t edges :: rest)
    | .closing _ => some ([], .tag t edges :: rest)

/-- Collects the pieces behind a piece. -/
def readFurther : Nat → Piece → List Token → Option (List Piece × List Token)
  | 0, _, _ => none
  | fuel + 1, piece, ts => (readPieces fuel ts).map fun (ps, rest) => (piece :: ps, rest)

/-- Collects a block up to the tag that closes its outermost helper. -/
def readBlock : Nat → String → Bool → Head → List Token → Option (Piece × List Token)
  | 0, _, _, _, _ => none
  | fuel + 1, outermost, fresh, head, ts =>
    (readPieces fuel ts).bind fun (body, rest) =>
      match rest with
      | .tag (.otherwise none) _ :: rest =>
        (readPieces fuel rest).bind fun (inverse, rest) =>
          (dropClosing (· == some outermost) rest).map fun rest =>
            (.block fresh head body (some inverse), rest)
      | .tag (.otherwise (some chained)) edges :: rest =>
        (readBlock fuel outermost edges.isFresh chained rest).map fun (inverse, rest) =>
          (.block fresh head body (some [inverse]), rest)
      | rest =>
        (dropClosing (· == some outermost) rest).map fun rest => (.block fresh head body none, rest)

end

/-- The pieces of a text, if it is well formed. -/
def pieces (s : String) : Option (List Piece) :=
  (tokens s).bind fun ts =>
    match readPieces (4 * ts.length + 4) (layOut ts) with
    | some (ps, []) => some ps
    | _ => none

end Fleet.Placeholder
