import DurableFlow.Files.Tree
import DurableFlow.Json.Convert
import DurableFlow.Json.Reader
import DurableFlow.Json.Writer
import DurableFlow.Settings.Basic
import DurableFlow.Text.Case

/-!
The settings file. A store remembers what it read, and variables of the environment override what is
handed out, never what is stored. Writing replaces the file as a whole or leaves everything as it was.
-/

namespace DurableFlow

/-- The variables of the environment. -/
abbrev Environment := List (String × String)

/-- Access to one settings file; `shownPath` is its path in messages. -/
structure SettingsStore where
  path : String
  shownPath : String
  cached : Option Settings := none
  deriving DecidableEq, Repr

namespace SettingsStore

/-- Settings from the text of a file, or the reason why it has none. -/
def ofText (text : String) : Except String Settings :=
  match Json.parse text with
  | .error e => .error e.message
  | .ok (.obj ms) =>
    match Settings.readMembers ms with
    | .ok s => .ok s
    | .issues found => .error (Issue.summary Settings.recordName found)
    | .stopped => .error "settings cannot be read"
  | .ok v =>
    .error ("stepflow.core.settings." ++ Settings.recordName ++
      "() argument after ** must be a mapping, not " ++ v.typeLabel)

/-- The settings in the file; defaults when there is no file, and, with a notice, when the file cannot
be used. -/
def readFile (store : SettingsStore) (fs : Files) : Settings × List Notice :=
  if fs.contains store.path then
    let found : Except String Settings :=
      match fs.readText store.path with
      | .error (.file e) => .error ({ e with path := store.shownPath } : FileError).message
      | .error e => .error e.message
      | .ok text => ofText text
    match found with
    | .ok s => (s, [])
    | .error reason =>
      ({}, [⟨.warning, "Failed to load settings from " ++ store.shownPath ++ " (" ++ reason ++
        "); using defaults"⟩])
  else ({}, [])

def overridePolicy (env : Environment) (s : CompilerSettings) : Outcome Fault CompilerSettings :=
  match env.lookup "STEPFLOW_CYCLE_POLICY" with
  | none => return s
  | some given =>
    match CyclePolicy.ofName? (Text.lower given) with
    | some policy => return { s with cyclePolicy := policy }
    | none => do
      Outcome.warn ("Invalid STEPFLOW_CYCLE_POLICY: " ++ given ++ ". Using: " ++ s.cyclePolicy.name)
      return s

def overrideDate (env : Environment) (s : CompilerSettings) : Outcome Fault CompilerSettings :=
  let given := (env.lookup "STEPFLOW_COMPATIBILITY_DATE").getD ""
  if given = "" then return s
  else if CompilerSettings.isDate given then return { s with compatibilityDate := given }
  else do
    Outcome.warn ("Invalid STEPFLOW_COMPATIBILITY_DATE: " ++ given ++ ". Expected YYYY-MM-DD")
    return s

def overrideTimeout (env : Environment) (s : CompilerSettings) : Outcome Fault CompilerSettings :=
  let given := (env.lookup "STEPFLOW_HTTP_TIMEOUT_MS").getD ""
  if given = "" then return s
  else do
    let n ← (if given.toList.all Text.isDigitLike then (Json.str given).toInt else .ok 0 :
      Except Fault Int)
    if 0 < n then return { s with httpTimeoutMs := n }
    Outcome.warn ("Invalid STEPFLOW_HTTP_TIMEOUT_MS: " ++ given ++ ". Must be a positive integer")
    return s

def override (env : Environment) (s : Settings) : Outcome Fault Settings := do
  let compiler ← overridePolicy env s.compiler
  let compiler ← overrideDate env compiler
  let compiler ← overrideTimeout env compiler
  return { s with compiler := compiler }

/-- What the store remembers, reading the file if it remembers nothing. -/
def remembered (store : SettingsStore) (fs : Files) : Settings × List Notice :=
  match store.cached with
  | some s => (s, [])
  | none => store.readFile fs

/-- The settings with the overrides of the environment. What was read from the file is remembered. -/
def load (store : SettingsStore) (fs : Files) (env : Environment) :
    SettingsStore × Outcome Fault Settings :=
  let (s, notices) := store.remembered fs
  let found := override env s
  ({ store with cached := some s }, ⟨found.result, notices ++ found.notices⟩)

/-- Forgets what was read, and loads again. -/
def reload (store : SettingsStore) (fs : Files) (env : Environment) :
    SettingsStore × Outcome Fault Settings :=
  load { store with cached := none } fs env

/-- The text of a settings file. There is none for a number that is too long. -/
def fileText (s : Settings) : Except Fault String := s.toJson.write

/-- Writes the settings to a new file, and moves it to the path of the settings file. -/
def fill (store : SettingsStore) (fs : Files) (temporary : Place) (s : Settings) :
    Files × Except SaveError Unit :=
  match fileText s with
  | .error f => (fs, .error (.fault f))
  | .ok text =>
    let fs := fs.set temporary (.file (.text text))
    match fs.replace temporary store.path with
    | .error e => (fs, .error (.file e))
    | .ok fs => (fs, .ok ())

/-- Writes the file by way of a new one in the same directory, and forgets what was read. The directory
is made if it is missing; the new file is taken away again when it cannot take the place of the old. -/
def write (store : SettingsStore) (fs : Files) (s : Settings) :
    SettingsStore × Files × Except SaveError Unit :=
  match fs.makeDirectory (parentPath store.path) with
  | (fs, .error e) => (store, fs, .error (.file e))
  | (fs, .ok ()) =>
    match fs.makeTemporary (parentPath store.path) ".settings." ".tmp" with
    | .error e => (store, fs, .error (.file e))
    | .ok (fs, temporary) =>
      match store.fill fs temporary s with
      | (fs, .error e) => (store, fs.erase temporary, .error e)
      | (fs, .ok ()) => ({ store with cached := none }, fs, .ok ())

/-- Saves the given settings, or what the store remembers. -/
def save (store : SettingsStore) (fs : Files) (given : Option Settings) :
    SettingsStore × Files × Outcome SaveError Unit :=
  let (s, notices) :=
    match given with
    | some s => (s, [])
    | none => store.remembered fs
  let (store, fs, result) := store.write fs s
  (store, fs, ⟨result, notices⟩)

end SettingsStore

end DurableFlow
