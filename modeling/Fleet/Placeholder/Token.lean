/-
# Tokens of a text with placeholders

A text is cut into plain text and tags.  A backslash before two braces makes them plain; of several
backslashes before two braces one is dropped and the tag counts.  White space that stands alone
between two tags, or between a tag and the end, is a token of its own.  What four braces enclose is
plain text between an opening and a closing tag.
-/
import Fleet.Placeholder.Expression
import Fleet.Text.Blank

namespace Fleet.Placeholder

/-! ## Tokens -/

/-- What a tag says. -/
inductive Tag where
  /-- The value of a path or of a call in parentheses goes here. -/
  | value (e : Expr)
  /-- What a helper makes of its arguments goes here. -/
  | invoke (helper : String) (args : Args)
  /-- Nothing goes here. -/
  | comment
  /-- A block of a helper begins. -/
  | opening (head : Head)
  /-- The alternative of a block begins, which may be a block itself. -/
  | otherwise (chained : Option Head)
  /-- A fragment with this name goes here. -/
  | fragment (name : Expr) (args : Args)
  /-- A block begins that a fragment with this name may use, or that stands for it. -/
  | wrapping (name : Expr) (args : Args)
  /-- A directive without a block. -/
  | directive (head : Head)
  /-- The block of a directive begins. -/
  | defining (head : Head)
  /-- A block ends; its name may be missing. -/
  | closing (name : Option String)

/-- How a tag treats the text around it. -/
structure Edges where
  /-- Whether it removes the white space before it. -/
  trimBefore : Bool
  /-- Whether it removes the white space after it. -/
  trimAfter : Bool
  /-- Whether only spaces and tabs precede it on its line. -/
  lineBefore : Bool
  /-- Whether only spaces and tabs follow it on its line. -/
  lineAfter : Bool
  /-- The spaces and tabs directly before it. -/
  margin : List Char

/-- Whether the tag is alone on its line. -/
def Edges.isAlone (e : Edges) : Bool :=
  e.lineBefore && e.lineAfter

/-- Whether the tag is alone on its line and leaves the line break before it. -/
def Edges.isFresh (e : Edges) : Bool :=
  e.isAlone && !e.trimBefore

/-- A piece of a text. -/
inductive Token where
  /-- Plain text. -/
  | text (cs : List Char)
  /-- White space before a tag or the end. -/
  | blank (cs : List Char)
  /-- A tag. -/
  | tag (t : Tag) (edges : Edges)

/-! ## Plain text -/

/-- Two opening braces. -/
def openBraces : List Char := ['\x7b', '\x7b']

/-- Two closing braces. -/
def closeBraces : List Char := ['\x7d', '\x7d']

/-- Splits the text off that stands before the next occurrence of `stop`, without its escaping
backslashes.  The first `kept` characters belong to it whatever they are. -/
def spanText (stop : List Char) : Nat → List Char → List Char × List Char
  | _, [] => ([], [])
  | kept + 1, c :: rest =>
    let (text, rest) := spanText stop kept rest
    (c :: text, rest)
  | 0, c :: rest =>
    if stop.isPrefixOf (c :: rest) then ([], c :: rest)
    else
      let slashes := (rest.takeWhile (· == '\\')).length
      let escapes := c == '\\' && openBraces.isPrefixOf (rest.drop slashes)
      if escapes && slashes == 0 then
        spanText stop (if (openBraces ++ openBraces).isPrefixOf rest then 4 else 2) rest
      else if escapes then spanText stop slashes rest
      else
        let (text, rest) := spanText stop (if c == '\\' then slashes else 0) rest
        (c :: text, rest)

/-! ## Tags -/

/-- A tag, its two signs for removing white space, and what follows it. -/
structure TagRead where
  /-- The tag. -/
  tag : Tag
  /-- Whether it removes the white space before it. -/
  trimBefore : Bool
  /-- Whether it removes the white space after it. -/
  trimAfter : Bool
  /-- The rest of the text. -/
  rest : List Char

/-- Reads the sign for removing white space. -/
def readTilde (cs : List Char) : Bool × List Char :=
  match skipBlanks cs with
  | '~' :: rest => (true, skipBlanks rest)
  | rest => (false, rest)

/-- Reads the end of a tag up to its closing braces. -/
def readEnd (braces : List Char) (before : Bool) (t : Tag) (cs : List Char) : Option TagRead :=
  let (after, rest) := readTilde cs
  (dropWord braces rest).map fun rest => ⟨t, before, after, rest⟩

/-- Reads a path or a call in parentheses. -/
def readTarget (cs : List Char) : Option (Expr × List Char) :=
  (readNested (fuelFor cs) cs).or ((readPath cs).map fun (p, rest) => (.path p, rest))

/-- Reads what a tag inserts. -/
def readInserted (cs : List Char) : Option (Tag × List Char) :=
  ((readCall (fuelFor cs) cs).map fun ((helper, args), rest) => (.invoke helper args, rest)).or
    ((readTarget cs).map fun (e, rest) => (.value e, rest))

/-- Drops the rest of a text in single quotes behind the opening one; a quote with a backslash
belongs to it. -/
def skipApostrophe : List Char → Option (List Char)
  | [] => none
  | '\'' :: rest => some rest
  | '\\' :: '\'' :: rest => skipApostrophe rest
  | _ :: rest => skipApostrophe rest

/-- The characters of names of fragments. -/
def isFragmentChar (c : Char) : Bool :=
  (isNameChar c && c != '$' && c != ':') || c == '@' || c == '/' || c == '.'

/-- Reads a word of some characters or a text in single quotes, as it is written. -/
def readLabel (p : Char → Bool) (cs : List Char) : Option (String × List Char) :=
  let rest :=
    match cs with
    | '\'' :: c :: rest => if c == '\'' then none else skipApostrophe (c :: rest)
    | c :: rest => if p c then some (rest.dropWhile p) else none
    | [] => none
  rest.map fun rest => (String.ofList (cs.take (cs.length - rest.length)), rest)

/-- Reads the name of a fragment as an expression: a label, a path, or a call in parentheses. -/
def readFragmentName (cs : List Char) : Option (Expr × List Char) :=
  ((readLabel isFragmentChar cs).map fun (label, rest) => (.literal (.string label), rest)).or
    (readTarget cs)

/-- The label of a fragment that has one. -/
def label? : Expr → Option String
  | .literal (.string s) => some s
  | _ => none

/-- Reads the name in a closing tag, which may be missing. -/
def readClosed (cs : List Char) : Option String × List Char :=
  match readLabel (fun c => isNameChar c || isFragmentChar c) cs with
  | some (label, rest) => (some label, rest)
  | none => (none, cs)

/-- Reads the tag of an alternative, behind its word or sign. -/
def readOtherwise (before : Bool) (cs : List Char) : Option TagRead :=
  (readEnd closeBraces before (.otherwise none) cs).or
    ((readHead cs).bind fun (chained, rest) =>
      readEnd closeBraces before (.otherwise (some chained)) rest)

/-- Reads the name of a fragment with its arguments. -/
def readFragment (cs : List Char) : Option ((Expr × Args) × List Char) :=
  (readFragmentName (skipBlanks cs)).map fun (name, rest) =>
    let (args, rest) := readArguments rest
    ((name, args), rest)

/-- Reads the tag that begins a block, behind its sign. -/
def readOpening (before : Bool) (cs : List Char) : Option TagRead :=
  match skipBlanks cs with
  | '>' :: rest =>
    (readFragment rest).bind fun ((name, args), rest) =>
      readEnd closeBraces before (.wrapping name args) rest
  | '*' :: rest =>
    (readHead rest).bind fun (head, rest) => readEnd closeBraces before (.defining head) rest
  | rest => (readHead rest).bind fun (head, rest) => readEnd closeBraces before (.opening head) rest

/-- Reads the inside of a tag behind its braces and its first sign. -/
def readBody (before : Bool) (cs : List Char) : Option TagRead :=
  match cs with
  | '#' :: rest => readOpening before rest
  | '/' :: rest =>
    let (name, rest) := readClosed (skipBlanks rest)
    readEnd closeBraces before (.closing name) rest
  | '^' :: rest => readOtherwise before rest
  | '&' :: rest =>
    (readTarget (skipBlanks rest)).bind fun (e, rest) => readEnd closeBraces before (.value e) rest
  | '\x7b' :: rest =>
    (readInserted (skipBlanks rest)).bind fun (t, rest) =>
      (dropWord ['\x7d'] (skipBlanks rest)).bind (readEnd closeBraces before t)
  | '>' :: rest =>
    (readFragment rest).bind fun ((name, args), rest) =>
      readEnd closeBraces before (.fragment name args) rest
  | '*' :: rest =>
    (readHead rest).bind fun (head, rest) => readEnd closeBraces before (.directive head) rest
  | _ =>
    ((dropWord "else".toList cs).bind (readOtherwise before)).or
      ((readInserted cs).bind fun (t, rest) => readEnd closeBraces before t rest)

/-- Drops everything up to the first occurrence of a word, and the word. -/
def dropThrough (word : List Char) : List Char → Option (List Char)
  | [] => if word.isEmpty then some [] else none
  | c :: rest =>
    if word.isPrefixOf (c :: rest) then some ((c :: rest).drop word.length)
    else dropThrough word rest

/-- Drops the rest of a comment behind its sign.  One that starts with two dashes ends with two
dashes if they occur before two braces. -/
def dropComment (cs : List Char) : Option (List Char) :=
  ((dropWord ['-', '-'] (skipBlanks cs)).bind (dropThrough ('-' :: '-' :: closeBraces))).or
    (dropThrough closeBraces cs)

/-- Reads a tag with three braces behind them. -/
def readTriple (cs : List Char) : Option TagRead :=
  let (before, rest) := readTilde cs
  (readInserted rest).bind fun (t, rest) => readEnd ('\x7d' :: closeBraces) before t rest

/-- Reads a tag behind its two opening braces. -/
def readTag (cs : List Char) : Option TagRead :=
  let usual :=
    let (before, rest) := readTilde cs
    readBody before rest
  match cs with
  | '!' :: rest => (dropComment rest).map fun rest => ⟨.comment, false, false, rest⟩
  | '\x7b' :: rest => (readTriple rest).or usual
  | _ => usual

/-- Reads a tag with four braces behind them. -/
def readRawOpening (cs : List Char) : Option TagRead :=
  let (before, rest) := readTilde cs
  (readHead rest).bind fun (head, rest) =>
    readEnd (closeBraces ++ closeBraces) before (.opening head) rest

/-- Reads a closing tag with four braces behind them. -/
def readRawClosing (cs : List Char) : Option TagRead :=
  let (before, rest) := readTilde cs
  (dropWord ['/'] rest).bind fun rest =>
    (readName (skipBlanks rest)).bind fun (name, rest) =>
      readEnd (closeBraces ++ closeBraces) before (.closing (some name)) rest

/-! ## Texts -/

/-- Whether a text, read backwards, ends with a line that holds only spaces and tabs. -/
def endsWithBlankLine (reversed : List Char) : Bool :=
  match reversed.dropWhile Text.isSpaceOrTab with
  | [] => true
  | c :: _ => c == '\n' || c == '\r'

/-- Whether a text is empty or its first line holds only spaces and tabs. -/
def startsWithBlankLine (cs : List Char) : Bool :=
  match cs.dropWhile Text.isSpaceOrTab with
  | [] => cs.isEmpty
  | c :: _ => c == '\n' || c == '\r'

/-- A tag between what precedes it, backwards, and what follows it. -/
def TagRead.token (r : TagRead) (before : List Char) : Token :=
  .tag r.tag {
    trimBefore := r.trimBefore
    trimAfter := r.trimAfter
    lineBefore := endsWithBlankLine before
    lineAfter := startsWithBlankLine r.rest
    margin := (before.takeWhile Text.isSpaceOrTab).reverse }

/-- What precedes the rest of a text, backwards, given what precedes the text. -/
def advance (before cs rest : List Char) : List Char :=
  (cs.take (cs.length - rest.length)).reverse ++ before

/-- Reads what four braces enclose, given what precedes them, backwards.  White space behind the
opening tag does not count. -/
def readRaw (before cs : List Char) : Option (List Token × List Char) :=
  let braces := openBraces ++ openBraces
  (dropWord braces cs).bind fun inside =>
    (readRawOpening inside).bind fun opening =>
      let (text, rest) := spanText braces 0 (skipBlanks opening.rest)
      (dropWord braces rest).bind fun inside =>
        (readRawClosing inside).map fun closing =>
          ([opening.token before, .text text, closing.token (advance before cs rest)], closing.rest)

/-- Cuts a text into tokens; `before` is what precedes it, backwards. -/
def tokensFrom : Nat → List Char → List Char → Option (List Token)
  | 0, _, _ => none
  | _ + 1, _, [] => some []
  | fuel + 1, before, cs =>
    match dropWord openBraces cs with
    | some inside =>
      let read :=
        (readRaw before cs).or ((readTag inside).map fun r => ([r.token before], r.rest))
      read.bind fun (ts, rest) => (tokensFrom fuel (advance before cs rest) rest).map (ts ++ ·)
    | none =>
      let (text, rest) := spanText openBraces 0 cs
      let raw := cs.take (cs.length - rest.length)
      let token := if raw.all Json.isJsonBlank then .blank raw else .text text
      (tokensFrom fuel (advance before cs rest) rest).map (token :: ·)

/-- Cuts a text into tokens. -/
def tokens (s : String) : Option (List Token) :=
  let cs := s.toList
  tokensFrom (cs.length + 1) [] cs

end Fleet.Placeholder
