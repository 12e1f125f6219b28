/-
# The program

From the arguments to the exit code, over a disk that is given by its operations: nothing but they
touches files.
-/
import Fleet.Command.Config
import Fleet.Command.Execution
import Fleet.Text.Logged

namespace Fleet

/-! ## Disks -/

/-- The operations of a disk. -/
structure Disk (m : Type → Type) where
  /-- Reads a file. -/
  read : String → m (Except DiskError String)
  /-- Writes a file in a directory that must exist. -/
  write : String → String → m (Except DiskError Unit)
  /-- Replaces a file at once, making its directory if it is missing. -/
  replace : String → String → m (Except DiskError Unit)

/-- What reading an inventory file gives. -/
def InventoryFile.ofRead : Except DiskError String → InventoryFile.Loaded
  | .ok text => InventoryFile.parse text
  | .error .missing => .notFound
  | .error _ => .corrupted .unreadable

/-! ## Endings -/

/-- How a run of the program ended. -/
inductive Ending where
  /-- The arguments gave no command. -/
  | refused (why : Refusal)
  /-- The configuration is unusable. -/
  | misconfigured (e : ConfigError)
  /-- The template was written. -/
  | created (path : String)
  /-- The template could not be written. -/
  | notCreated (e : ConfigError)
  /-- A command was carried out. -/
  | executed (e : Execution)

namespace Ending

/-- The exit code. -/
def exitCode : Ending → Nat
  | refused .usage => 2
  | refused _ => 0
  | misconfigured _ => 1
  | created _ => 0
  | notCreated _ => 1
  | executed e => if e.failure.isSome then 2 else 0

/-- The name and version of the program. -/
def versionText : String := "devconf 0.1.0\n"

/-- A summary of the commands and options. -/
def helpText : String :=
  "Usage: devconf [OPTIONS] <COMMAND>\n\nCommands:\n" ++
    String.join (Verb.table.map fun v => "  " ++ v.1 ++ "\n") ++ "\nOptions:\n" ++
    String.join ((Switch.allowed none).map fun s => "  --" ++ s.long ++ "\n")

/-- What is printed. -/
def output : Ending → String
  | refused .usage => ""
  | refused .help => helpText
  | refused .version => versionText
  | misconfigured _ => ""
  | created path => "Configuration template written to: " ++ path ++ "\n"
  | notCreated _ => ""
  | executed e => e.output

/-- The advice for an unusable configuration. -/
def configHint : ConfigError → List String
  | .unreadable .. => ["", "Run 'devconf init' to generate a configuration template."]
  | .zeroTtl => ["", "The checksum TTL is given in seconds, e.g. --checksum-ttl 3600."]
  | _ => []

/-- The advice for a failure. -/
def failureHint : Failure → List String
  | .corrupted _ =>
    ["", "Fix or move the inventory file; it is never overwritten while unreadable."]
  | .refused e =>
    match e.kind with
    | .invalidTransition => ["", "Run 'devconf status <device>' to see the current status."]
    | .missingVariable =>
      ["", "Define the variable with --var or in the [context] table of the config file."]
    | _ => []
  | _ => []

/-- The lines that are printed as errors. -/
def errors : Ending → List String
  | refused .usage => ["error: unusable arguments", "", "For more information, try '--help'."]
  | refused _ => []
  | misconfigured e => ("Configuration error: " ++ e.message) :: configHint e
  | created _ => []
  | notCreated e => ["Error: " ++ e.message]
  | executed e =>
    e.failure.elim [] fun why => ("ERROR " ++ Text.logged why.message) :: failureHint why

end Ending

/-! ## Running -/

namespace Program

variable {m : Type → Type} [Monad m]

/-- Reads the configuration file that the options name, if they do. -/
def loadConfig (disk : Disk m) (options : Options) : m (Except ConfigError Config) :=
  match options.config with
  | none => pure (Config.resolve options none)
  | some path => do
    match ← disk.read path with
    | .error why => return .error (.unreadable path why)
    | .ok text =>
      match ConfigFile.parse? text with
      | none => return .error .malformed
      | some file => return Config.resolve options (some file)

/-- Saves the inventory that a command changed. -/
def save (disk : Disk m) (now : Nat) (path : String) (e : Execution) : m Execution :=
  match e.saved with
  | none => pure e
  | some inv => do
    match ← disk.replace path (InventoryFile.text now inv) with
    | .ok () => return e
    | .error why => return { e with saved := none, failure := some (.notSaved why.message) }

/-- Carries a command out on the inventory file at a time, and saves what it changed. -/
def execute (disk : Disk m) (now : Nat) (config : Config) (command : Command) : m Execution := do
  let loaded := InventoryFile.ofRead (← disk.read config.inventory)
  save disk now config.inventory (command.execute config.settings now loaded)

/-- Carries an invocation out at a time. -/
def invoke (disk : Disk m) (now : Nat) (i : Invocation) : m Ending :=
  match i.command with
  | .init path => do
    match ← disk.write path ConfigFile.template with
    | .ok () => return .created path
    | .error why => return .notCreated (.unwritable path why)
  | command => do
    match ← loadConfig disk i.options with
    | .error e => return .misconfigured e
    | .ok config => return .executed (← execute disk now config command)

/-- Runs the program with arguments at a time. -/
def run (disk : Disk m) (now : Nat) (arguments : List String) : m Ending :=
  match Invocation.parse arguments with
  | .error why => pure (.refused why)
  | .ok i => invoke disk now i

end Program

end Fleet
