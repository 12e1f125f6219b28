/-
# The command line

A command is named by a word, followed by its operands; options may stand anywhere.  The options
that every command takes may stand in front of the word as well, and count less there.
-/
import Fleet.Status
import Fleet.Text.Unsigned

namespace Fleet

/-! ## Commands -/

/-- What an agent reports about a configuration. -/
inductive Verdict where
  /-- The configuration was applied. -/
  | applied
  /-- Applying the configuration failed. -/
  | error
  /-- The configuration is no longer used. -/
  | deactivated
  deriving DecidableEq

namespace Verdict

/-- The word for a verdict. -/
def name : Verdict → String
  | applied => "applied"
  | error => "error"
  | deactivated => "deactivated"

/-- The verdicts by their words. -/
def table : List (String × Verdict) :=
  [applied, error, deactivated].map fun v => (v.name, v)

/-- The signal that a verdict sends to the configuration. -/
def signal : Verdict → Signal
  | applied => .applied
  | error => .failed
  | deactivated => .confirmDeactivation

end Verdict

/-- What the program is asked to do. -/
inductive Command where
  /-- Write a template of the settings file. -/
  | init (output : String)
  /-- Print the rendered configuration of a device. -/
  | render (device : DeviceId)
  /-- Print the checksum of a device. -/
  | checksum (device : DeviceId)
  /-- List the peers of a VPN server. -/
  | peers (server : ServerId)
  /-- Print the state of a configuration. -/
  | status (device : DeviceId)
  /-- Record what an agent reported. -/
  | report (device : DeviceId) (verdict : Verdict)
  /-- Deactivate a device. -/
  | deactivate (device : DeviceId)
  /-- Activate a device again. -/
  | activate (device : DeviceId)
  /-- Render every device and list the failures. -/
  | check
  deriving DecidableEq

/-- The words that name commands. -/
inductive Verb where
  | init
  | render
  | checksum
  | peers
  | status
  | report
  | deactivate
  | activate
  | check
  deriving DecidableEq

namespace Verb

/-- The word itself. -/
def name : Verb → String
  | init => "init"
  | render => "render"
  | checksum => "checksum"
  | peers => "peers"
  | status => "status"
  | report => "report"
  | deactivate => "deactivate"
  | activate => "activate"
  | check => "check"

/-- The verbs by their words. -/
def table : List (String × Verb) :=
  [init, render, checksum, peers, status, report, deactivate, activate, check].map fun v =>
    (v.name, v)

/-- The command of a verb and its operands, if these are complete. -/
def command? (output : String) : Verb → List String → Option Command
  | init, [] => some (.init output)
  | render, [d] => some (.render ⟨d⟩)
  | checksum, [d] => some (.checksum ⟨d⟩)
  | peers, [s] => some (.peers ⟨s⟩)
  | status, [d] => some (.status ⟨d⟩)
  | report, [d, v] => (Verdict.table.lookup v).map (.report ⟨d⟩)
  | deactivate, [d] => some (.deactivate ⟨d⟩)
  | activate, [d] => some (.activate ⟨d⟩)
  | check, [] => some .check
  | _, _ => none

/-- Whether operands may be the first ones of a verb. -/
def admits : Verb → List String → Bool
  | _, [] => true
  | init, _ => false
  | check, _ => false
  | report, [_, v] => (Verdict.table.lookup v).isSome
  | _, [_] => true
  | _, _ => false

end Verb

namespace Command

/-- The word that names a command. -/
def verb : Command → Verb
  | init _ => .init
  | render _ => .render
  | checksum _ => .checksum
  | peers _ => .peers
  | status _ => .status
  | report .. => .report
  | deactivate _ => .deactivate
  | activate _ => .activate
  | check => .check

/-- What a command is about: its operands, or the file it writes. -/
def operands : Command → List String
  | init output => [output]
  | render d | checksum d | status d | deactivate d | activate d => [d.text]
  | peers s => [s.text]
  | report d v => [d.text, v.name]
  | check => []

end Command

/-! ## Options -/

/-- The options without a value. -/
inductive Flag where
  | verbose
  | help
  | version
  deriving DecidableEq

/-- The options with a value. -/
inductive Setting where
  | config
  | inventory
  | checksumTtl
  | maxTunnelId
  | assignment
  | output
  deriving DecidableEq

/-- An option of either kind. -/
inductive Switch where
  /-- One without a value. -/
  | flag (f : Flag)
  /-- One with a value. -/
  | setting (s : Setting)
  deriving DecidableEq

namespace Switch

/-- The long name of an option. -/
def long : Switch → String
  | flag .verbose => "verbose"
  | flag .help => "help"
  | flag .version => "version"
  | setting .config => "config"
  | setting .inventory => "inventory"
  | setting .checksumTtl => "checksum-ttl"
  | setting .maxTunnelId => "tunnel-id-max"
  | setting .assignment => "var"
  | setting .output => "output"

/-- The letter of an option, if it has one. -/
def short? : Switch → Option Char
  | flag .verbose => some 'v'
  | flag .help => some 'h'
  | flag .version => some 'V'
  | setting .config => some 'c'
  | setting .output => some 'o'
  | setting _ => none

/-- The options that stand everywhere. -/
def common : List Switch :=
  [flag .verbose, flag .help, setting .config, setting .inventory, setting .checksumTtl,
    setting .maxTunnelId, setting .assignment]

/-- The options that may stand behind a verb, or in front of it. -/
def allowed : Option Verb → List Switch
  | none => flag .version :: common
  | some .init => setting .output :: common
  | some _ => common

end Switch

/-- The values of the options. -/
structure Options where
  /-- The settings file. -/
  config : Option String
  /-- The inventory file. -/
  inventory : Option String
  /-- The lifetime of checksums in seconds. -/
  checksumTtl : Option Nat
  /-- The highest tunnel id. -/
  maxTunnelId : Option Nat
  /-- Variables of the fleet, each as a name, an equals sign and a value. -/
  assignments : List String
  /-- Whether to log more. -/
  verbose : Bool
  /-- The file to write. -/
  output : Option String
  deriving DecidableEq

/-! ## Values of options -/

/-- A number below a bound, which may have a sign; only zero may be negative. -/
def signed? (bound : Nat) (text : String) : Option Nat :=
  match text.toList with
  | '-' :: cs => if cs.isEmpty || !cs.all (· == '0') then none else some 0
  | _ => Text.unsigned? bound text

/-- A path, which may not be empty. -/
def path? (text : String) : Option String :=
  if text.isEmpty then none else some text

namespace Options

/-- No options. -/
def empty : Options := ⟨none, none, none, none, [], false, none⟩

/-- A value that is given for the first time, if it can be read. -/
def once? {α : Type} (given : Option α) (value : Option α) : Option (Option α) :=
  if given.isSome then none else value.map some

/-- Takes the value of an option.  Only variables may be given more than once. -/
def give? (o : Options) (s : Setting) (text : String) : Option Options :=
  match s with
  | .config => (once? o.config (path? text)).map fun config => { o with config }
  | .inventory => (once? o.inventory (path? text)).map fun inventory => { o with inventory }
  | .checksumTtl =>
    (once? o.checksumTtl (Text.unsigned? UInt64.size text)).map fun checksumTtl =>
      { o with checksumTtl }
  | .maxTunnelId =>
    (once? o.maxTunnelId (signed? UInt32.size text)).map fun maxTunnelId => { o with maxTunnelId }
  | .assignment => some { o with assignments := o.assignments ++ [text] }
  | .output => (once? o.output (path? text)).map fun output => { o with output }

/-- The options in front of the verb together with those behind it, which count more. -/
def under (front behind : Options) : Options where
  config := behind.config <|> front.config
  inventory := behind.inventory <|> front.inventory
  checksumTtl := behind.checksumTtl <|> front.checksumTtl
  maxTunnelId := behind.maxTunnelId <|> front.maxTunnelId
  assignments := if behind.assignments.isEmpty then front.assignments else behind.assignments
  verbose := front.verbose || behind.verbose
  output := behind.output

end Options

/-! ## Reading arguments -/

/-- Why there is no command to carry out. -/
inductive Refusal where
  /-- The arguments are none of a command. -/
  | usage
  /-- Help was asked for. -/
  | help
  /-- The version was asked for. -/
  | version
  deriving DecidableEq

/-- What was read of the arguments in front of a verb, or behind it. -/
structure Scan where
  /-- The options. -/
  options : Options
  /-- An option that waits for its value, or whose value has not been looked at yet. -/
  pending : Option (Setting × Option String)
  /-- The operands. -/
  operands : List String

namespace Scan

/-- Nothing was read. -/
def start : Scan := ⟨.empty, none, []⟩

/-- Whether the next argument is a value if it does not look like an option. -/
def awaits (s : Scan) : Bool :=
  match s.pending with
  | some (_, none) => true
  | _ => false

/-- Looks at the value that is pending. -/
def settle (s : Scan) : Except Refusal Scan :=
  match s.pending with
  | none => .ok s
  | some (_, none) => .error .usage
  | some (setting, some text) =>
    match s.options.give? setting text with
    | some options => .ok { s with options, pending := none }
    | none => .error .usage

/-- Takes an option without a value. -/
def takeFlag (s : Scan) (f : Flag) : Except Refusal Scan := do
  let s ← s.settle
  match f with
  | .help => .error .help
  | .version => .error .version
  | .verbose =>
    if s.options.verbose then .error .usage
    else .ok { s with options := { s.options with verbose := true } }

/-- Takes an option whose value is the next argument. -/
def takeSetting (s : Scan) (setting : Setting) : Except Refusal Scan := do
  let s ← s.settle
  return { s with pending := some (setting, none) }

/-- Takes an option together with its value. -/
def takeAttached (s : Scan) (setting : Setting) (text : String) : Except Refusal Scan := do
  let s ← s.settle
  { s with pending := some (setting, some text) }.settle

/-- Takes an operand. -/
def takeOperand (verb : Option Verb) (s : Scan) (text : String) : Except Refusal Scan := do
  let s ← s.settle
  if verb.any fun v => v.admits (s.operands ++ [text]) then
    return { s with operands := s.operands ++ [text] }
  else .error .usage

/-- Takes the option with a long name, with its value if that follows an equals sign. -/
def takeLong (verb : Option Verb) (s : Scan) (name : String) (value : Option String) :
    Except Refusal Scan :=
  match (Switch.allowed verb).find? (·.long == name), value with
  | none, _ => .error .usage
  | some (.flag f), none => s.takeFlag f
  | some (.flag _), some _ => .error .usage
  | some (.setting k), none => s.takeSetting k
  | some (.setting k), some v => s.takeAttached k v

/-- Takes the options with these letters; the rest behind one that has a value is its value. -/
def takeLetters (verb : Option Verb) : List Char → Scan → Except Refusal Scan
  | [], s => .ok s
  | c :: rest, s =>
    match (Switch.allowed verb).find? (·.short? == some c) with
    | none => .error .usage
    | some (.flag f) => (s.takeFlag f).bind (takeLetters verb rest)
    | some (.setting k) =>
      match rest with
      | [] => s.takeSetting k
      | '=' :: value => s.takeAttached k (String.ofList value)
      | value => s.takeAttached k (String.ofList value)

/-- Takes an argument that does not look like an option. -/
def takePlain (verb : Option Verb) (s : Scan) (text : String) : Except Refusal Scan :=
  match s.pending with
  | some (setting, none) => .ok { s with pending := some (setting, some text) }
  | _ => s.takeOperand verb text

/-- Takes an argument. -/
def take (verb : Option Verb) (s : Scan) (argument : String) : Except Refusal Scan :=
  match argument.toList with
  | '-' :: '-' :: long =>
    let name := long.takeWhile (· != '=')
    let value := (long.drop name.length).tail?
    s.takeLong verb (String.ofList name) (value.map String.ofList)
  | '-' :: c :: letters => takeLetters verb (c :: letters) s
  | _ => s.takePlain verb argument

/-- Reads the arguments behind a verb; behind two hyphens everything is an operand. -/
def readBehind (verb : Verb) : Scan → List String → Except Refusal Scan
  | s, [] => s.settle
  | s, argument :: rest =>
    if argument = "--" then (rest.foldlM (takeOperand (some verb)) s).bind settle
    else (s.take (some verb) argument).bind fun s => readBehind verb s rest

/-- The outcome of asking for help about words: it is there for each verb and in general. -/
def helpAbout : List String → Refusal
  | [] => .help
  | [word] => if word = "help" ∨ (Verb.table.lookup word).isSome then .help else .usage
  | _ => .usage

/-- Reads the arguments up to the verb; gives the verb and the arguments behind it. -/
def readFront : Scan → List String → Except Refusal (Scan × Verb × List String)
  | _, [] => .error .usage
  | s, argument :: rest =>
    if !s.awaits && argument == "help" then .error (helpAbout rest)
    else
      match if s.awaits then none else Verb.table.lookup argument with
      | some verb => .ok (s, verb, rest)
      | none =>
        if argument = "--" then .error .usage
        else (s.take none argument).bind fun s => readFront s rest

end Scan

/-- A command and the options it was given. -/
structure Invocation where
  /-- The command. -/
  command : Command
  /-- The options. -/
  options : Options

/-- The file that the template of a settings file is written to unless told otherwise. -/
def defaultConfigPath : String := "devconf.toml"

/-- Reads the arguments of the program.  What stands behind the verb is looked at first, and only
then the last value in front of it. -/
def Invocation.parse (arguments : List String) : Except Refusal Invocation := do
  let (front, verb, rest) ← Scan.readFront .start arguments
  let behind ← Scan.readBehind verb .start rest
  let output := behind.options.output.getD defaultConfigPath
  match verb.command? output behind.operands with
  | none => .error .usage
  | some command =>
    let front ← front.settle
    return { command, options := front.options.under behind.options }

end Fleet
