/-
# Substitution in documents

Placeholders are filled in in every string of a document, names of members included.  Objects are
walked by ascending name, each name before its value, and the first failure counts.
-/
import Fleet.Error
import Fleet.Placeholder.Render

namespace Fleet.Json

/-- The name under which the base document of a configuration appears in errors. -/
def baseDocument : String := "configuration document"

/-- Fills in the placeholders of one text. -/
def fillText (source : String) (values : Context) (s : String) : Except Error String :=
  match Placeholder.fill values s with
  | .ok t => .ok t
  | .error (.missing path) => .error (.missingVariable source (path.getD s))
  | .error .invalid => .error (.invalidPlaceholder source)

mutual

/-- Fills in the placeholders of a document from one set of values. -/
def fillAll (source : String) (values : Context) : Json → Except Error Json
  | string s => (fillText source values s).map string
  | array items => (fillItems source values items).map array
  | object members => (fillMembers source values [] members).map object
  | null => .ok null
  | bool b => .ok (bool b)
  | number n => .ok (number n)

/-- Fills in the items of a list. -/
def fillItems (source : String) (values : Context) : List Json → Except Error (List Json)
  | [] => .ok []
  | j :: rest =>
    match fillAll source values j with
    | .error e => .error e
    | .ok j =>
      match fillItems source values rest with
      | .error e => .error e
      | .ok js => .ok (j :: js)

/-- Fills in members one after the other and collects them. -/
def fillMembers (source : String) (values : Context) (done : List (String × Json)) :
    List (String × Json) → Except Error (List (String × Json))
  | [] => .ok done
  | (name, j) :: rest =>
    match fillText source values name with
    | .error e => .error e
    | .ok name =>
      match fillAll source values j with
      | .error e => .error e
      | .ok j => fillMembers source values (Assoc.insert name j done) rest

end

/-- Fills in the placeholders of a document from a context, or from defaults for the variables that
the context does not define. -/
def substitute (document : Json) (source : String) (context defaults : Context) :
    Except Error Json :=
  fillAll source (defaults.union context) document

end Fleet.Json
