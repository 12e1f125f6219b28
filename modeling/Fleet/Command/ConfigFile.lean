/-
# The configuration file

What a TOML file may set: the inventory file, the lifetime of checksums, the highest tunnel id and
the variables of the fleet.  Everything may be missing; nothing else may be there.
-/
import Fleet.Identifier
import Fleet.Toml.Reader

namespace Fleet

/-- The contents of a configuration file. -/
structure ConfigFile where
  /-- The inventory file. -/
  inventory : Option String
  /-- The lifetime of checksums in seconds. -/
  checksumTtl : Option Nat
  /-- The highest tunnel id. -/
  maxTunnelId : Option Nat
  /-- The variables of the fleet. -/
  context : Context

namespace ConfigFile

open Toml (Value Members)

/-! ## Values -/

/-- The text of a string. -/
def text? : Value → Option String
  | .string s => some s
  | _ => none

/-- An integer that is not negative and below a bound. -/
def natBelow? (bound : Nat) : Value → Option Nat
  | .integer (some n) => if 0 ≤ n ∧ n < bound then some n.toNat else none
  | _ => none

/-! ## Sections -/

/-- The only value that a section may set, if it does: by name in a table, or as the first item of a
list. -/
def only? (name : String) : Value → Option (Option Value)
  | .table _ members =>
    if members.all (·.1 == name) then some (members.lookup name) else none
  | v => v.items?.bind fun items => items.head?.map some

/-- A section that sets at most one value. -/
def section? {α : Type} (members : Members) (table name : String) (read : Value → Option α) :
    Option (Option α) :=
  match members.lookup table with
  | none => some none
  | some v =>
    match only? name v with
    | none => none
    | some none => some none
    | some (some v) => (read v).map some

/-- The name under which a date or time counts as a member of a table. -/
def momentName : String := "$__toml_private_datetime"

/-- The variables in a table. -/
def variables? : Value → Option Context
  | .table _ members =>
    (members.mapM fun m => (text? m.2).map fun text => (m.1, text)).map SortedMap.ofList
  | .moment literal => some (SortedMap.ofList [(momentName, literal)])
  | _ => none

/-- The names of the sections. -/
def sections : List String := ["inventory", "cache", "vpn", "context"]

/-- Reads the members of a file. -/
def ofMembers? (members : Members) : Option ConfigFile := do
  guard (members.all fun m => sections.contains m.1)
  return {
    inventory := ← section? members "inventory" "path" text?
    checksumTtl := ← section? members "cache" "ttl" (natBelow? UInt64.size)
    maxTunnelId := ← section? members "vpn" "tunnel_id_max" (natBelow? UInt32.size)
    context := ← (members.lookup "context").elim (some .empty) variables? }

/-- Reads the text of a file. -/
def parse? (text : String) : Option ConfigFile :=
  (Toml.parse? text).bind ofMembers?

/-! ## The template -/

/-- A file with comments that sets nothing. -/
def template : String := "# devconf configuration file

[inventory]
# Inventory file (default: devconf-inventory.json)
# path = \"devconf-inventory.json\"

[cache]
# Checksum TTL in seconds (default: 2592000, 30 days)
# ttl = 2592000

[vpn]
# Highest tunnel id handed out to VXLAN clients (default: 16777216)
# tunnel_id_max = 16777216

[context]
# Variables available to every template, lowest precedence.
# Organization, group and device variables override these.
# Values given with --var override the ones below key by key.
# ntp_server = \"pool.ntp.org\"
"

end ConfigFile

end Fleet
