/-
# The configuration of a run

Options count more than the configuration file, and that more than the defaults; variables are
merged name by name.  The values are checked in a fixed order, and the first bad one is reported.
-/
import Fleet.Command.Arguments
import Fleet.Command.ConfigFile
import Fleet.Controller.State
import Fleet.Text.Blank

namespace Fleet

open Text (Pattern)

/-! ## Errors -/

/-- Why a file could not be read or written. -/
inductive DiskError where
  /-- There is no such file or directory. -/
  | missing
  /-- The file is a directory. -/
  | isDirectory
  /-- A file stands where a directory should. -/
  | notDirectory
  /-- A name is too long. -/
  | nameTooLong
  /-- Anything else, in words. -/
  | other (why : String)
  deriving DecidableEq

/-- The wording of the system. -/
def DiskError.message : DiskError → String
  | missing => "No such file or directory (os error 2)"
  | isDirectory => "Is a directory (os error 21)"
  | notDirectory => "Not a directory (os error 20)"
  | nameTooLong => "File name too long (os error 36)"
  | other why => why

/-- What is wrong with a variable of the fleet. -/
inductive VariableFault where
  /-- Its name breaks the grammar. -/
  | name
  /-- There is no equals sign. -/
  | form
  deriving DecidableEq

/-- The wording of a fault. -/
def VariableFault.message : VariableFault → String
  | name => "name must be letters, digits or underscores"
  | form => "expected KEY=VALUE"

/-- Why there is no configuration. -/
inductive ConfigError where
  /-- The configuration file could not be read. -/
  | unreadable (path : String) (why : DiskError)
  /-- The configuration file is malformed. -/
  | malformed
  /-- The template could not be written. -/
  | unwritable (path : String) (why : DiskError)
  /-- The lifetime of checksums is zero. -/
  | zeroTtl
  /-- The highest tunnel id is out of range. -/
  | invalidMaxTunnelId (value : Nat)
  /-- A variable of the fleet is malformed. -/
  | invalidVariable (text : String) (fault : VariableFault)
  deriving DecidableEq

/-- The wording of an error. -/
def ConfigError.message : ConfigError → String
  | unreadable path why => s!"Failed to read config file '{path}': {why.message}"
  | malformed => "Failed to parse TOML config"
  | unwritable path why => s!"Failed to write config file '{path}': {why.message}"
  | zeroTtl => "Invalid duration for checksum_ttl: must be greater than 0"
  | invalidMaxTunnelId value =>
    s!"Invalid tunnel id maximum {value}: expected 1 to {Settings.greatestTunnelId}"
  | invalidVariable text fault => s!"Invalid context variable '{text}': {fault.message}"

/-! ## Variables -/

/-- A name of a variable: ASCII letters, digits and underscores, and no digit first. -/
def variableName : Pattern :=
  .seq (.one fun c => c.isAlpha || c == '_') (.many (.one fun c => c.isAlphanum || c == '_'))

/-- Checks a name that is part of a text. -/
def checkVariableName (text name : String) : Except ConfigError Unit :=
  if variableName.accepts name.toList then .ok () else .error (.invalidVariable text .name)

/-- Reads a variable: its name, trimmed, stands before the first equals sign, its value behind. -/
def parseVariable (text : String) : Except ConfigError (String × String) :=
  let before := text.toList.takeWhile (· != '=')
  match text.toList.drop before.length with
  | _ :: value => do
    let name := Text.trim (String.ofList before)
    checkVariableName text name
    return (name, String.ofList value)
  | [] => .error (.invalidVariable text .form)

/-- Merges variables into a context, the later ones over the earlier. -/
def addVariables (context : Context) (texts : List String) : Except ConfigError Context :=
  texts.foldlM (fun context text => do
    let (name, value) ← parseVariable text
    return context.insert name value) context

/-- The variables of the fleet: those of the file, and over them those given as options.  All names
are checked, those of the file first. -/
def fleetVariables (table : Context) (texts : List String) : Except ConfigError Context := do
  table.keys.forM fun name => checkVariableName name name
  addVariables table texts

/-! ## Configurations -/

/-- The configuration of a run. -/
structure Config where
  /-- The inventory file. -/
  inventory : String
  /-- What the controller is set up with. -/
  settings : Settings
  /-- Whether to log more. -/
  verbose : Bool

namespace Config

/-- The inventory file unless told otherwise. -/
def defaultInventory : String := "devconf-inventory.json"

/-- Refuses a lifetime of zero. -/
def checkTtl (seconds : Nat) : Except ConfigError Nat :=
  if seconds = 0 then .error .zeroTtl else .ok seconds

/-- Refuses a highest tunnel id that is out of range. -/
def checkMaxTunnelId (value : Nat) : Except ConfigError Nat :=
  if value = 0 ∨ Settings.greatestTunnelId < value then .error (.invalidMaxTunnelId value)
  else .ok value

/-- The configuration that options and a configuration file give. -/
def resolve (options : Options) (file : Option ConfigFile) : Except ConfigError Config := do
  let inventory := options.inventory <|> file.bind ConfigFile.inventory
  let ttl := options.checksumTtl <|> file.bind ConfigFile.checksumTtl
  let maxTunnelId := options.maxTunnelId <|> file.bind ConfigFile.maxTunnelId
  let checksumTtl ← checkTtl (ttl.getD Settings.defaultTtl)
  let maxTunnelId ← checkMaxTunnelId (maxTunnelId.getD Settings.greatestTunnelId)
  let fleet ← fleetVariables (file.elim .empty ConfigFile.context) options.assignments
  return {
    inventory := inventory.getD defaultInventory
    settings := { fleet, checksumTtl, maxTunnelId }
    verbose := options.verbose }

/-- A summary of the configuration. -/
def describe (c : Config) : String :=
  "Config \x7b inventory: " ++ c.inventory ++ ", checksum_ttl: " ++
    toString c.settings.checksumTtl ++ "s, tunnel_id_max: " ++ toString c.settings.maxTunnelId ++
    ", global_vars: " ++ toString c.settings.fleet.size ++ " \x7d"

end Config

end Fleet
