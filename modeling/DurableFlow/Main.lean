import DurableFlow.Command.Run

/-!
The command line program. It takes the files that its arguments name and the settings file of the
home directory into a tree, runs the command on the tree, and writes back what the command wrote.
-/

namespace DurableFlow.Program

/-- Puts what stands at a path of the disk into the tree. What is there and cannot be read is taken for
a directory. -/
def take (fs : Files) (path : String) : IO Files := do
  try
    let bytes ← IO.FS.readBinFile path
    return fs.seed path (.raw bytes.toList)
  catch
    | .noFileOrDirectory .. => return fs
    | _ => return (fs.makeDirectory path).1

/-- A path after the paths of the directories on its way. -/
def waypoints (path : String) : List String :=
  let names := Text.splitAt '/' path
  (List.range names.length).map fun i => "/".intercalate (names.take (i + 1))

/-- The paths that a command may read: its arguments and the settings file, with the directories on the
way to them. -/
def named (settings : String) (args : List String) : List String :=
  (settings :: args.map fun arg => ((Command.splitOption arg).2).getD arg).flatMap waypoints

/-- The text that is shown for a fault. -/
def describe : Fault → String
  | .badValue reason => reason
  | .wrongType => "value has the wrong type"
  | .notAnObject => "value is not an object"
  | .tooLarge => "number is too large"
  | .badSchema => "schema is not well formed"
  | .tooDeep place => place

/-- The variables that override settings. -/
def overrideNames : List String :=
  ["STEPFLOW_CYCLE_POLICY", "STEPFLOW_COMPATIBILITY_DATE", "STEPFLOW_HTTP_TIMEOUT_MS"]

def environment : IO Environment := do
  let found ← overrideNames.mapM fun name => do return (name, ← IO.getEnv name)
  return found.filterMap fun p => p.2.map fun value => (p.1, value)

/-- Writes the files that are new or changed. -/
def put (before after : Files) : IO Unit := do
  for (path, text) in after.texts do
    unless before.texts.contains (path, text) do
      IO.FS.createDirAll (parentPath path)
      IO.FS.writeFile path text

end DurableFlow.Program

open DurableFlow in
def main (args : List String) : IO UInt32 := do
  let home := (← IO.getEnv "HOME").getD "."
  let world : Command.World :=
    { env := ← Program.environment, home := home, shownHome := home, describe := Program.describe }
  let settings := (Command.settingsStore world).path
  let files ← (Program.named settings args).foldlM Program.take {}
  let ending := Command.run world files args
  (← IO.getStdout).putStr ending.out
  (← IO.getStderr).putStr ending.err
  Program.put files ending.files
  return ending.exit.toUInt32
