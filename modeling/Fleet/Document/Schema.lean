/-
# The structure of documents

What every backend relies on: the document is an object, some sections are lists of objects,
interfaces have names, and files have a path, contents and perhaps an octal mode.  The first
violation in the order of the sections is reported.
-/
import Fleet.Error
import Fleet.Json.Basic

namespace Fleet.Json

/-! ## Fields of entries -/

/-- Refuses a value at a path. -/
def violation {α : Type} (path reason : String) : Except Error α :=
  .error (.schemaViolation path reason)

/-- Checks that an entry has a string in a field. -/
def requireString (path field : String) (entry : Json) : Except Error Unit :=
  match entry.field? field with
  | some (string _) => .ok ()
  | some _ => violation (path ++ "/" ++ field) "must be a string"
  | none => violation (path ++ "/" ++ field) "is required"

/-- Whether a text has three or four octal digits. -/
def isOctalMode (mode : String) : Bool :=
  let cs := mode.toList
  3 ≤ cs.length && cs.length ≤ 4 && cs.all fun c => '0' ≤ c && c ≤ '7'

/-- Checks the mode of a file. -/
def checkMode (path : String) (entry : Json) : Except Error Unit :=
  match entry.field? "mode" with
  | none => .ok ()
  | some (string mode) =>
    if isOctalMode mode then .ok () else violation (path ++ "/mode") "must be an octal mode string"
  | some _ => violation (path ++ "/mode") "must be an octal mode string"

/-! ## Sections -/

/-- The sections that are lists of objects. -/
inductive ListSection where
  | interfaces
  | files
  | tunnels
  | wireguard
  | vxlan
  deriving DecidableEq

namespace ListSection

/-- The name of a section. -/
def name : ListSection → String
  | interfaces => "interfaces"
  | files => "files"
  | tunnels => "tunnels"
  | wireguard => "wireguard"
  | vxlan => "vxlan"

/-- The sections in the order in which they are checked. -/
def all : List ListSection := [interfaces, files, tunnels, wireguard, vxlan]

/-- Checks the fields that entries of a section must have. -/
def checkFields (s : ListSection) (path : String) (entry : Json) : Except Error Unit :=
  match s with
  | interfaces => requireString path "name" entry
  | files => do
    requireString path "path" entry
    requireString path "contents" entry
    checkMode path entry
  | _ => .ok ()

/-- Checks entries from an index on. -/
def checkEntries (s : ListSection) : Nat → List Json → Except Error Unit
  | _, [] => .ok ()
  | index, entry :: rest =>
    let path := "/" ++ s.name ++ "/" ++ toString index
    if entry.isObject then
      match s.checkFields path entry with
      | .ok () => checkEntries s (index + 1) rest
      | .error e => .error e
    else violation path "must be an object"

/-- Checks a section, if the document has it. -/
def check (s : ListSection) (document : Json) : Except Error Unit :=
  match document.field? s.name with
  | none => .ok ()
  | some (array entries) => s.checkEntries 0 entries
  | some _ => violation ("/" ++ s.name) "must be a list"

end ListSection

/-- Checks the sections in order. -/
def checkSections (document : Json) : List ListSection → Except Error Unit
  | [] => .ok ()
  | s :: rest =>
    match s.check document with
    | .ok () => checkSections document rest
    | .error e => .error e

/-- Checks the structure of a document. -/
def validate (document : Json) : Except Error Unit :=
  if document.isObject then checkSections document ListSection.all
  else violation "" "document must be an object"

end Fleet.Json
