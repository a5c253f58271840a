import RegisterFile.CommandLine.Run
import Std.Time.DateTime.Timestamp

/-!
The command line program. It carries out the task of its command line on the real file system.
-/

namespace RegisterFile.CommandLine

/-- The path of the directories above a file, if its path has any. -/
def parentPath? (path : String) : Option String :=
  match FileTree.parents path with
  | [] => none
  | parents => some ((if FileTree.isAbsolute path then "/" else "") ++ "/".intercalate parents)

/-- Writes a file and makes its directory. -/
def writeFile (file : String × String) : IO Unit := do
  match parentPath? file.1 with
  | some parent => IO.FS.createDirAll parent
  | none => pure ()
  IO.FS.writeFile file.1 file.2

/-- Carries out a plan; with the exit code. -/
def Plan.execute (plan : Plan) : IO Nat := do
  IO.print plan.output
  try
    plan.writes.forM writeFile
    return plan.exitCode
  catch _ => return exitIo

/-- Carries out a task; with the exit code. -/
def Task.execute (task : Task) : IO Nat :=
  match task with
  | .finished plan => plan.execute
  | .reading path plan => do
    try
      (plan (← IO.FS.readFile path)).execute
    catch _ => return exitIo

/-- The surroundings of the program. -/
def Environment.current : IO Environment := do
  let now ← Std.Time.Timestamp.now
  return {
    timestamp := ← IO.getEnv "SOURCE_DATE_EPOCH"
    now := toString now.toSecondsSinceUnixEpoch.val }

end RegisterFile.CommandLine

/-- The program. -/
def main (words : List String) : IO UInt32 := do
  let environment ← RegisterFile.CommandLine.Environment.current
  return UInt32.ofNat (← (RegisterFile.CommandLine.task environment words).execute)
