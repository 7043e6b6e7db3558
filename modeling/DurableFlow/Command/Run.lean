import DurableFlow.Command.Help
import DurableFlow.Command.Session

/-!
The commands: compiling, checking and recovering graphs, browsing the catalog, and showing and
changing the settings.
-/

namespace DurableFlow.Command

def programName : String := "stepflow"

def version : String := "0.1.0"

/-- A command: what it is called with, and what it does. -/
structure Spec where
  name : String
  summary : String
  options : List OptionSpec := []
  operands : List OperandSpec := []
  run : World → Parsed → Action Unit

def helpOption : OptionSpec where
  names := ["--help"]
  help := "Show this message and exit."

def flag (name help : String) : OptionSpec := { names := [name], help := help }

def valued (name value help : String) : OptionSpec :=
  { names := [name], value := some value, help := help }

def registryOption : OptionSpec :=
  { valued "--registry" "FILE" "Node catalog JSON" with kind := .file }

def graphOperand : OperandSpec := ⟨"GRAPH_FILE", .file⟩

def entryOption : OptionSpec := valued "--entry" "TEXT" "Explicit entry node id"

def jsonOption (help : String) : OptionSpec := flag "--json" help

def operand (p : Parsed) (i : Nat) : String := (p.operands[i]?).getD ""

/-- The message of an error of a compilation; other faults end the command. -/
def compileFailure (w : World) (e : CompileError) : Action Unit :=
  match e with
  | .notJson e => failWith e.message
  | .invalid e => failWith e.message
  | .cycle reason => failWith (PhaseError.cycle reason).message
  | .generation id type cause => failWith (PhaseError.generation id type (w.describe cause)).message
  | .fault f => throw (.escaped (.fault f))

def writeArtifact (a : Artifact) (directory mainModule : String) : Action (List String) := do
  let modulePath := joinPath directory mainModule
  makeDirectory (parentPath modulePath)
  writeFile modulePath a.moduleSource
  let descriptions : List (String × Json) :=
    [("wrangler.json", .obj a.descriptor),
     ("bindings.json", .arr (a.bindings.map Binding.toJson))] ++
    (a.manifest.map fun m => ("mcp-manifest.json", m.toJson Json.keyText)).toList
  descriptions.forM fun d => writeFile (joinPath directory d.1) (d.2.pretty ++ "\n")
  return modulePath :: descriptions.map fun d => joinPath directory d.1

def compileSpec : Spec where
  name := "compile"
  summary := "Compile GRAPH_FILE into a workflow module."
  options :=
    [valued "--name" "TEXT" "Deployment name (defaults to the graph name)",
     valued "--class-name" "TEXT" "Entrypoint class name", entryOption,
     { valued "--out-dir" "DIRECTORY" "Write module and descriptors here" with kind := .directory },
     jsonOption "Print the full artifact as JSON",
     flag "--allow-cycles" "Compile cyclic graphs in declaration order", registryOption]
  operands := [graphOperand]
  run w p := do
    let document ← loadDocument (operand p 0)
    let settings := (← loadSettings w).compiler
    let options : CompileOptions :=
      { deploymentName := p.value? "--name"
        className := p.value? "--class-name"
        entryNodeId := p.value? "--entry"
        cyclePolicy := if p.has "--allow-cycles" then some .fallback else none }
    let catalog ← loadCatalog (p.value? "--registry")
    let outcome := compile catalog settings options (.document document)
    report w outcome.notices
    match outcome.result with
    | .error e => compileFailure w e
    | .ok a =>
      a.warnings.forM fun warning => complain ("⚠️  " ++ warning)
      match (p.value? "--out-dir").getD "" with
      | "" =>
        if p.has "--json" then echo (a.toJson Json.keyText).pretty else echoText a.moduleSource
      | directory =>
        let written ← writeArtifact a directory settings.mainModule
        written.forM fun path => echo ("✓ Wrote " ++ path)

def validateSpec : Spec where
  name := "validate"
  summary := "Validate GRAPH_FILE and report errors and warnings."
  options := [entryOption, jsonOption "Output as JSON", registryOption]
  operands := [graphOperand]
  run w p := do
    let document ← loadDocument (operand p 0)
    let catalog ← loadCatalog (p.value? "--registry")
    match Compile.report (some catalog) (p.value? "--entry") (.document document) with
    | .error e => compileFailure w e
    | .ok r =>
      if p.has "--json" then echo r.toJson.pretty
      else
        r.errors.forM fun error => echo ("❌ " ++ error)
        r.warnings.forM fun warning => echo ("⚠️  " ++ warning)
        if r.isValid then echo "✓ Graph is valid"
      if !r.isValid then stop 1

def decompileSpec : Spec where
  name := "decompile"
  summary := "Recover a graph skeleton from a generated MODULE_FILE."
  operands := [⟨"MODULE_FILE", .file⟩]
  run _ p := do
    match (← files).readText (operand p 0) with
    | .error (.file e) => throw (.escaped (.file e))
    | .error (.encoding e) => failWith e.message
    | .ok text =>
      match Skeleton.recover text with
      | .ok graph => echo graph.pretty
      | .error e => failWith e.message

def listRow (width : Nat) (d : Definition) : String :=
  let margin := String.ofList (List.replicate (width - d.type.length) ' ')
  d.type ++ margin ++ "  [" ++ d.category ++ "] " ++ d.description ++
    (if d.type ∈ Fragment.generatedTypes then "" else "  (passthrough)")

def listSpec : Spec where
  name := "list"
  summary := "List available node types."
  options := [jsonOption "Output as JSON", registryOption]
  run _ p := do
    let definitions := (← loadCatalog (p.value? "--registry")).sorted
    if p.has "--json" then
      echo (Json.arr (definitions.map fun d => .obj
        [("type", .str d.type), ("name", .str d.name), ("category", .str d.category),
         ("description", .str d.description),
         ("hasGenerator", .bool (decide (d.type ∈ Fragment.generatedTypes)))])).pretty
    else
      let width := (definitions.map fun d => d.type.length).foldl max 0
      definitions.forM fun d => echo (listRow width d)

def describeSpec : Spec where
  name := "describe"
  summary := "Show the config schema and bindings of NODE_TYPE."
  options := [registryOption]
  operands := [⟨"NODE_TYPE", .text⟩]
  run _ p := do
    let catalog ← loadCatalog (p.value? "--registry")
    match catalog.get? (operand p 0) with
    | some d => echo d.toJson.pretty
    | none => failWith ("Unknown node type '" ++ operand p 0 ++ "'")

def exportSpec : Spec where
  name := "export"
  summary := "Write the node catalog to OUTPUT_PATH as an editable JSON file."
  options := [registryOption]
  operands := [⟨"OUTPUT_PATH", .output⟩]
  run _ p := do
    let catalog ← loadCatalog (p.value? "--registry")
    let (fs, saved) := catalog.saveFile (← files) (operand p 0)
    setFiles fs
    match saved with
    | .ok () =>
      echo ("✓ Exported " ++ toString catalog.types.length ++ " node type(s) to " ++ operand p 0)
    | .error (.file e) => failWith ("Failed to write node catalog: " ++ e.message)
    | .error (.fault f) => throw (.escaped (.fault f))

def showSpec : Spec where
  name := "show"
  summary := "Show the effective settings, environment overrides included."
  run w _ := do
    echo ("Settings file: " ++ (settingsStore w).shownPath)
    echo (← loadSettings w).toJson.pretty

def settingNames : List String := CompilerSettings.keys.mergeSort fun a b => decide (a ≤ b)

def setSpec : Spec where
  name := "set"
  summary := "Set a compiler setting, e.g. ``stepflow settings set cycle_policy fallback``."
  operands :=
    [⟨"\x7b" ++ "|".intercalate settingNames ++ "\x7d", .choice settingNames⟩, ⟨"VALUE", .text⟩]
  run w p := do
    let key := operand p 0
    let store := settingsStore w
    let (store, found) := store.reload (← files) w.env
    report w found.notices
    match found.result with
    | .error f => throw (.escaped (.fault f))
    | .ok current =>
      let members := Members.set key (.str (operand p 1)) current.compiler.toMembers
      match CompilerSettings.readMembers members with
      | .ok updated =>
        let (_, fs, saved) := store.save (← files) (some { current with compiler := updated })
        setFiles fs
        match saved.result with
        | .error (.file e) => throw (.escaped (.file e))
        | .error (.fault f) => throw (.escaped (.fault f))
        | .ok () =>
          let shown := ((Members.get? key updated.toMembers).getD .null).plainText
          echo ("✓ Set " ++ key ++ " = " ++ shown)
      | .issues (first :: _) => failWith ("Invalid value for " ++ key ++ ": " ++ first.kind.message)
      | _ => failWith ("Invalid value for " ++ key)

/-- A group of commands. -/
structure Group where
  name : String
  summary : String
  commands : List Spec

def nodesGroup : Group where
  name := "nodes"
  summary := "Browse the node catalog."
  commands := [describeSpec, exportSpec, listSpec]

def settingsGroup : Group where
  name := "settings"
  summary := "Show and change compiler settings."
  commands := [setSpec, showSpec]

def specHelp (path : String) (c : Spec) : String :=
  helpText (path ++ " " ++ c.name) (" ".intercalate (c.operands.map (·.name))) c.summary
    (c.options ++ [helpOption]) []

def groupHelp (g : Group) : String :=
  helpText ("main " ++ g.name) "COMMAND [ARGS]..." g.summary [helpOption]
    (g.commands.map fun c => (c.name, c.summary))

def mainOptions : List OptionSpec :=
  [{ names := ["-v", "--verbose"], help := "Show progress logs" },
   flag "--version" "Show the stepflow version"]

def topCommands : List Spec := [compileSpec, decompileSpec, validateSpec]

def groups : List Group := [nodesGroup, settingsGroup]

def mainHelp : String :=
  let commands := topCommands.map (fun c => (c.name, c.summary)) ++
    groups.map (fun g => (g.name, g.summary))
  helpText "main" "[COMMAND] [ARGS]..."
    "stepflow - compile workflow graphs into durable workflow modules." (mainOptions ++ [helpOption])
    (commands.mergeSort fun a b => decide (a.1 ≤ b.1))

/-- Checks a value of the command line. A path that cannot be looked up at all ends the command; a path
that leads nowhere is as good as one at which there is nothing. -/
def checkValue (kind : ValueKind) (value : String) : Action Unit := do
  let refuseIf (refused : Bool) : Action Unit := if refused then throw .usage else pure ()
  match kind with
  | .text => pure ()
  | .choice names => refuseIf (!names.contains value)
  | _ =>
    match (← files).status value with
    | .error .nullInPath => throw (.escaped (.file ⟨.nullInPath, value⟩))
    | .error _ => refuseIf (kind = .file)
    | .ok .directory => refuseIf (kind ≠ .directory)
    | .ok (.file _) => refuseIf (kind = .directory)

/-- Checks what a command is called with: first the options, then the operands, and last that there are
no more operands. -/
def checkParsed (c : Spec) (p : Parsed) : Action Unit := do
  (p.optionValues c.options).forM fun v => checkValue v.1 v.2
  (p.operandValues c.operands).forM fun v =>
    match v.2 with
    | some value => checkValue v.1 value
    | none => throw .usage
  if c.operands.length < p.operands.length then throw .usage

def runSpec (w : World) (path : String) (c : Spec) (args : List String) : Action Unit := do
  match parse (c.options ++ [helpOption]) true args with
  | none => throw .usage
  | some p =>
    if p.has "--help" then echo (specHelp path c)
    else
      checkParsed c p
      c.run w p

/-- Answers words that name no command: they may still ask for help, when options were ended before
them. -/
def unknownCommand (options : List OptionSpec) (help : String) (words : List String) : Action Unit :=
  match parse options false words with
  | some p => if p.has "--help" then echo help else throw .usage
  | none => throw .usage

def runGroup (w : World) (g : Group) (args : List String) : Action Unit :=
  match parse [helpOption] false args with
  | none => throw .usage
  | some p =>
    if p.has "--help" then echo (groupHelp g)
    else
      match p.operands with
      | [] => throw .usage
      | name :: rest =>
        match g.commands.find? (fun c => c.name == name) with
        | some c => runSpec w ("main " ++ g.name) c rest
        | none => unknownCommand [helpOption] (groupHelp g) p.operands

def runMain (w : World) (args : List String) : Action Unit :=
  let options := mainOptions ++ [helpOption]
  match parse options false args with
  | none => throw .usage
  | some p =>
    let w := { w with verbose := p.has "--verbose" }
    let showVersion := echo (programName ++ " version " ++ version)
    if p.has "--help" then echo mainHelp
    else
      match p.operands with
      | [] => if p.has "--version" then showVersion else echo mainHelp
      | name :: rest =>
        match topCommands.find? (fun c => c.name == name), groups.find? (fun g => g.name == name) with
        | some c, _ => if p.has "--version" then showVersion else runSpec w "main" c rest
        | none, some g => if p.has "--version" then showVersion else runGroup w g rest
        | none, none => unknownCommand options mainHelp p.operands

/-- How a command line ended. -/
structure Ending where
  exit : Nat
  out : String
  err : String
  files : Files
  escaped : Option Escape := none

/-- Runs a command line on some files. Arguments that break the rules print nothing. -/
def run (w : World) (files : Files) (args : List String) : Ending :=
  let (result, s) := (runMain w args).run.run { files := files }
  match result with
  | .ok () => ⟨0, s.out, s.err, s.files, none⟩
  | .error (.exit code) => ⟨code, s.out, s.err, s.files, none⟩
  | .error .usage => ⟨2, "", "", s.files, none⟩
  | .error (.escaped e) => ⟨1, s.out, s.err, s.files, some e⟩

end DurableFlow.Command
