/-
# Carrying commands out

A command works on the inventory in the file; without a file it starts with an empty one.  The
inventory is saved only if the command changed it and succeeded.
-/
import Fleet.Command.Arguments
import Fleet.Controller.Request
import Fleet.Inventory.File

namespace Fleet

/-! ## Outcomes -/

/-- Why a command failed. -/
inductive Failure where
  /-- The inventory file cannot be used. -/
  | corrupted (why : InventoryFile.Corruption)
  /-- The controller refused. -/
  | refused (e : Error)
  /-- The inventory could not be saved. -/
  | notSaved (why : String)
  /-- Some devices cannot be rendered. -/
  | checkFailed (count : Nat)

/-- The wording of a failure. -/
def Failure.message : Failure → String
  | corrupted why => "Inventory file is unusable: " ++ why.describe
  | refused e => e.message
  | notSaved why => "Failed to save inventory: Failed to write inventory file: " ++ why
  | checkFailed count => toString count ++ " device(s) failed to render"

/-- What a command did. -/
structure Execution where
  /-- The text it printed. -/
  output : String
  /-- The inventory to save, if it changed. -/
  saved : Option Inventory
  /-- Why it failed, if it did. -/
  failure : Option Failure

namespace Execution

/-- A command that only printed something. -/
def printed (output : String) : Execution := ⟨output, none, none⟩

/-- A command that failed and printed nothing. -/
def failed (why : Failure) : Execution := ⟨"", none, some why⟩

/-- A command that prints what an operation gives. -/
def ofResult {α : Type} (print : α → String) : Except Error α → Execution
  | .ok a => printed (print a)
  | .error e => failed (.refused e)

/-- A command that prints the state that an operation gives and saves the inventory. -/
def ofChange : Controller.Outcome Status → Execution
  | (.ok status, c) => ⟨status.name ++ "\n", some c.inventory, none⟩
  | (.error e, _) => failed (.refused e)

end Execution

/-! ## Commands -/

/-- The line for a peer: device, address, public key and tunnel id, if there is one. -/
def Peer.line (p : Peer) : String :=
  p.device.text ++ "\t" ++ p.address.render ++ "\t" ++ p.publicKey.getD "-" ++
    (p.vni.elim "" fun vni => "\t" ++ toString vni) ++ "\n"

namespace Command

/-- Carries a command out with a controller. -/
def run (settings : Settings) (c : Controller) : Command → Execution
  | init _ => .printed ""
  | render device => .ofResult (· ++ "\n") (c.render settings device)
  | checksum device => .ofResult (· ++ "\n") (c.getChecksum settings .none device).1
  | peers server => .ofResult (fun list => String.join (list.map Peer.line)) (c.peersFor server).1
  | status device => .ofResult (·.status.name ++ "\n") (c.inventory.configuration device)
  | report device verdict => .ofChange (c.send .none device verdict.signal)
  | deactivate device => .ofChange (c.send .none device .deactivate)
  | activate device => .ofChange (c.send .none device .activate)
  | check =>
    match c.check settings with
    | [] => .printed "All devices render\n"
    | failures =>
      ⟨String.join (failures.map fun f => f.1.text ++ ": " ++ f.2.message ++ "\n"), none,
        some (.checkFailed failures.length)⟩

/-- Carries a command out on what was loaded from the inventory file at a time. -/
def execute (settings : Settings) (now : Nat) (loaded : InventoryFile.Loaded) (command : Command) :
    Execution :=
  match loaded with
  | .corrupted why => .failed (.corrupted why)
  | .inventory inv => command.run settings (.start inv now)
  | .notFound => command.run settings (.start .empty now)

end Command

end Fleet
