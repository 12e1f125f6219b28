/-
# Identifiers

Records refer to one another by identifiers.  An identifier is a text that is marked with the sort
of thing it names, so that a device is never looked up by the name of a template.
-/
import Fleet.Assoc

namespace Fleet

/-- The sorts of things that have identifiers. -/
inductive Named where
  | device
  | template
  | vpnServer
  | organization
  | group
  | backend

/-- An identifier of one sort of thing. -/
structure Id (sort : Named) where
  /-- The text of the identifier. -/
  text : String
  deriving DecidableEq

instance {sort : Named} : Key (Id sort) where
  text := Id.text
  text_injective := fun {a b} h => by cases a; cases b; cases h; rfl

instance {sort : Named} : ToString (Id sort) := ⟨Id.text⟩

/-- A device, by its MAC address or hardware identifier in most fleets. -/
abbrev DeviceId := Id .device

/-- A template. -/
abbrev TemplateId := Id .template

/-- A VPN server. -/
abbrev ServerId := Id .vpnServer

/-- An organization. -/
abbrev OrgId := Id .organization

/-- A group of devices. -/
abbrev GroupId := Id .group

/-- The backend that a configuration and its templates are written for. -/
abbrev Backend := Id .backend

/-- Variables and their values. -/
abbrev Context := SortedMap String String

end Fleet
