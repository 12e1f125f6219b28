/-
# The command-line program

Runs `Program.run` on the real disk.
-/
import Fleet.Clock
import Fleet.Command.Program
import Std.Time.DateTime.Timestamp

namespace Fleet

/-- The number of an error of the system, which some operations give with its sign changed. -/
def errorNumber (code : UInt32) : Nat :=
  (if code < 0x80000000 then code else 0 - code).toNat

/-- What an error of the system means for a disk. -/
def DiskError.ofSystem (e : IO.Error) : DiskError :=
  match e with
  | .noFileOrDirectory .. => .missing
  | .inappropriateType _ code _ | .invalidArgument _ code _ =>
    match errorNumber code with
    | 20 => .notDirectory
    | 21 => .isDirectory
    | 36 => .nameTooLong
    | _ => .other (toString e)
  | e => .other (toString e)

/-- Runs an action on the disk. -/
def Disk.attempt {α : Type} (action : IO α) : IO (Except DiskError α) := do
  try return .ok (← action) catch e => return .error (.ofSystem e)

/-- The directory part of a path, if it has one. -/
def Disk.directory? (path : String) : Option String :=
  let reversed := path.toList.reverse.dropWhile (· != '/')
  match reversed with
  | [] => none
  | _ :: rest => if rest.isEmpty then none else some (String.ofList rest.reverse)

/-- The disk of the system.  A file is replaced by renaming a complete one. -/
def Disk.system : Disk IO where
  read path := attempt (IO.FS.readFile path)
  write path text := attempt (IO.FS.writeFile path text)
  replace path text := attempt do
    if let some directory := directory? path then IO.FS.createDirAll directory
    IO.FS.writeFile (path ++ ".tmp") text
    IO.FS.rename (path ++ ".tmp") path

end Fleet

/-- Runs the program on the arguments of the system. -/
def main (arguments : List String) : IO UInt32 := do
  let now := Fleet.unixSeconds (← Std.Time.Timestamp.now).toSecondsSinceUnixEpoch.val
  let ending ← Fleet.Program.run Fleet.Disk.system now arguments
  let out ← IO.getStdout
  out.putStr ending.output
  out.flush
  let errors ← IO.getStderr
  for line in ending.errors do
    errors.putStrLn line
  return ending.exitCode.toUInt32
