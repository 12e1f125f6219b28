/-
# The inventory file

How an inventory is kept between runs: a JSON file with a version.  A file of another version, or
one that cannot be read, is corrupted, and is never taken for an empty inventory.
-/
import Fleet.Inventory.Basic
import Fleet.Json.Printer
import Fleet.Json.Reader
import Fleet.Record.Reader
import Fleet.Record.Writer

namespace Fleet

open Json (Decoder Fields Written)

/-! ## The records as JSON -/

/-- An inventory; collections that are missing are empty. -/
def Inventory.reader : Decoder Inventory := fun levels w => do
  let fs ← Fields.of? ["devices", "configurations", "templates", "vpn_servers", "vpn_clients",
    "organizations", "groups", "tunnel_ids", "template_sequence"] levels w
  return {
    devices := ← fs.withDefault "devices" (.sortedMap Id.mk Device.reader) .empty
    configurations :=
      ← fs.withDefault "configurations" (.sortedMap Id.mk Configuration.reader) .empty
    templates := ← fs.withDefault "templates" (.sortedMap Id.mk Template.reader) .empty
    servers := ← fs.withDefault "vpn_servers" (.sortedMap Id.mk VpnServer.reader) .empty
    clients := ← fs.withDefault "vpn_clients" (.list VpnClient.reader) []
    organizations :=
      ← fs.withDefault "organizations" (.sortedMap Id.mk OrganizationSettings.reader) .empty
    groups := ← fs.withDefault "groups" (.sortedMap Id.mk DeviceGroup.reader) .empty
    tunnelIds := ← fs.withDefault "tunnel_ids" (.sortedMap Id.mk word32) .empty
    templateSequence := ← fs.withDefault "template_sequence" word64 0 }

/-- An inventory with all its collections. -/
def Inventory.written (inv : Inventory) : Written := .object [
  ("devices", .ofMap Device.written inv.devices),
  ("configurations", .ofMap Configuration.written inv.configurations),
  ("templates", .ofMap Template.written inv.templates),
  ("vpn_servers", .ofMap VpnServer.written inv.servers),
  ("vpn_clients", .ofList VpnClient.written inv.clients),
  ("organizations", .ofMap OrganizationSettings.written inv.organizations),
  ("groups", .ofMap DeviceGroup.written inv.groups),
  ("tunnel_ids", .ofMap Written.ofNat inv.tunnelIds),
  ("template_sequence", .ofNat inv.templateSequence)]

namespace InventoryFile

/-! ## Loading -/

/-- Why a file cannot be used. -/
inductive Corruption where
  /-- It cannot be read as text. -/
  | unreadable
  /-- It is no JSON, or not that of an inventory. -/
  | invalidJson
  /-- It has another version. -/
  | incompatibleVersion (found : Nat)
  deriving DecidableEq

/-- The version of files that are written and understood. -/
def version : Nat := 1

/-- The number of levels to which a file may nest. -/
def maxLevels : Nat := 127

/-- What is wrong with a file, in words. -/
def Corruption.describe : Corruption → String
  | unreadable => "Failed to read file"
  | invalidJson => "Invalid JSON"
  | incompatibleVersion found =>
    "Incompatible version: expected " ++ toString version ++ ", got " ++ toString found

/-- The outcome of loading a file. -/
inductive Loaded where
  /-- The inventory in the file. -/
  | inventory (inv : Inventory)
  /-- There is no file. -/
  | notFound
  /-- The file cannot be used. -/
  | corrupted (why : Corruption)

/-- Whether an inventory was loaded. -/
def Loaded.isLoaded : Loaded → Bool
  | inventory _ => true
  | _ => false

/-- A file: its version and its inventory.  The time of saving is read but not used. -/
def reader : Decoder (Nat × Inventory) := fun levels w => do
  let fs ← Fields.of? ["version", "saved_at", "inventory"] levels w
  let version ← fs.required "version" word32
  let _ ← fs.optional "saved_at" word64
  let inventory ← fs.required "inventory" Inventory.reader
  return (version, inventory)

/-- Loads the text of a file. -/
def parse (text : String) : Loaded :=
  match (Written.parse? text).bind (reader maxLevels) with
  | some (found, inventory) =>
    if found = version then .inventory inventory else .corrupted (.incompatibleVersion found)
  | none => .corrupted .invalidJson

/-- Loads a file, if there is one. -/
def load : Option String → Loaded
  | some text => parse text
  | none => .notFound

/-! ## Saving -/

/-- The text of the file of an inventory that is saved at a time. -/
def text (savedAt : Nat) (inv : Inventory) : String :=
  String.ofList ((Written.object [
    ("version", .ofNat version),
    ("saved_at", .ofNat savedAt),
    ("inventory", inv.written)]).pretty 2 0)

end InventoryFile

end Fleet
