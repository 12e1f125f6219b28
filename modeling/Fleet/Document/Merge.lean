/-
# Merging documents

Objects are merged member by member, lists are appended, and anything else is replaced by what comes
later.  Templates that carry the same file would ship it more than once; of such entries in the
list of files the first is kept.
-/
import Fleet.Json.Printer

namespace Fleet.Json

/-! ## Merging -/

mutual

/-- Merges a fragment into a base: objects deeply, lists by appending, all else by replacing. -/
def merge : Json → Json → Json
  | object base, object fragment => object (mergeMembers base fragment)
  | array base, array fragment => array (base ++ fragment)
  | _, fragment => fragment

/-- Merges members one after the other. -/
def mergeMembers (base : List (String × Json)) : List (String × Json) → List (String × Json)
  | [] => base
  | (name, value) :: rest =>
    match Assoc.find? name base with
    | some old => mergeMembers (Assoc.insert name (merge old value) base) rest
    | none => mergeMembers (Assoc.insert name value base) rest

end

/-! ## Files -/

/-- Keeps the first of the items with equal keys, but none whose key has been seen. -/
def distinctBy {α : Type} (key : α → String) (seen : List String) : List α → List α
  | [] => []
  | a :: rest =>
    if seen.contains (key a) then distinctBy key seen rest
    else a :: distinctBy key (key a :: seen) rest

/-- Collapses the entries of the list of files that are written alike. -/
def dedupeFiles : Json → Json
  | object members =>
    match Assoc.find? "files" members with
    | some (array files) =>
      object (Assoc.insert "files" (array (distinctBy render [] files)) members)
    | _ => object members
  | j => j

end Fleet.Json
