import DurableFlow.Catalog.File
import DurableFlow.Compile
import DurableFlow.Module.Skeleton
import DurableFlow.Settings.Store
import DurableFlow.Text.Terminal

/-!
Sessions of the command line: the files, what was printed, and how a command ended.
-/

namespace DurableFlow.Command

/-- Why a command ended without an answer of its own. -/
inductive Escape where
  | fault (f : Fault)
  | file (e : FileError)
  | encoding (e : Text.Utf8Error)
  deriving Repr

/-- How a command ends before its last step. -/
inductive Stop where
  | exit (code : Nat)
  | usage
  | escaped (e : Escape)
  deriving Repr

/-- Everything outside the program that a command sees. -/
structure World where
  env : Environment
  /-- The home directory, as a path and as messages show it. -/
  home : String
  shownHome : String
  verbose : Bool := false
  /-- The text that is shown for a fault of that kind. -/
  describe : Fault → String

structure Session where
  files : Files
  out : String := ""
  err : String := ""

abbrev Action (α : Type) := ExceptT Stop (StateM Session) α

def echoText (text : String) : Action Unit :=
  modify fun s => { s with out := s.out ++ Text.withoutSequences text }

def echo (line : String) : Action Unit := echoText (line ++ "\n")

/-- Adds a line to what is printed for errors, as it is. -/
def note (line : String) : Action Unit := modify fun s => { s with err := s.err ++ line ++ "\n" }

def complain (line : String) : Action Unit := note (Text.withoutSequences line)

def stop {α : Type} (code : Nat) : Action α := throw (.exit code)

def failWith {α : Type} (message : String) : Action α := do
  complain ("❌ " ++ message)
  stop 1

/-- Prints the notices that are to be seen. -/
def report (w : World) (notices : List Notice) : Action Unit :=
  notices.forM fun n =>
    match n.level with
    | .warning => note ("WARNING: " ++ n.text)
    | .info => if w.verbose then note ("INFO: " ++ n.text) else pure ()

def files : Action Files := do return (← get).files

def setFiles (fs : Files) : Action Unit := modify fun s => { s with files := fs }

def settingsFile : String := ".stepflow/settings.json"

def settingsStore (w : World) : SettingsStore where
  path := joinPath w.home settingsFile
  shownPath := joinPath w.shownHome settingsFile

def loadSettings (w : World) : Action Settings := do
  let (_, found) := (settingsStore w).load (← files) w.env
  report w found.notices
  match found.result with
  | .ok s => return s
  | .error f => throw (.escaped (.fault f))

/-- The catalog: the built-in one, with the definitions of a file over it. -/
def loadCatalog (path : Option String) : Action Catalog := do
  match path.getD "" with
  | "" => return Catalog.builtin
  | path =>
    match Catalog.builtin.loadFile (← files) path with
    | .ok c => return c
    | .error (.fault f) => throw (.escaped (.fault f))
    | .error (.unreadable (.file e)) => throw (.escaped (.file e))
    | .error (.unreadable (.encoding e)) => throw (.escaped (.encoding e))
    | .error e => failWith (e.message (tidyPath path))

def loadDocument (path : String) : Action Json := do
  match (← files).readText path with
  | .error e => failWith ("Could not read graph: " ++ e.message)
  | .ok text =>
    match Json.parse text with
    | .error (.malformed e) =>
      failWith ("Could not read graph: Invalid JSON in " ++ tidyPath path ++ ": " ++ e.message)
    | .error (.limit (.badValue reason)) => failWith ("Could not read graph: " ++ reason)
    | .error (.limit f) => throw (.escaped (.fault f))
    | .ok (.obj ms) => return .obj ms
    | .ok _ =>
      failWith ("Could not read graph: Graph document in " ++ tidyPath path ++
        " must be a JSON object")

def writeFile (path text : String) : Action Unit := do
  match (← files).writeText path text with
  | .ok fs => setFiles fs
  | .error e => throw (.escaped (.file e))

def makeDirectory (path : String) : Action Unit := do
  let (fs, made) := (← files).makeDirectory path
  setFiles fs
  match made with
  | .ok () => pure ()
  | .error e => throw (.escaped (.file e))

end DurableFlow.Command
