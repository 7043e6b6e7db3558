import DurableFlow.Catalog.Builtin
import DurableFlow.Files.Tree

/-!
Catalog files: a JSON list of definitions, or an object that holds such a list under `nodes`. Saving
a catalog gives the second form.
-/

namespace DurableFlow

/-- Why a catalog cannot be loaded. -/
inductive CatalogError where
  | notFound
  | unreadable (e : ReadTextError)
  | notJson (e : Json.ReadError)
  | notAList
  | invalid (found : List Issue)
  | fault (f : Fault)
  deriving Repr

namespace CatalogError

/-- The message for the file at a path; faults and failures of the disk have none of their own. -/
def message (path : String) : CatalogError → String
  | notFound => "Node catalog not found: " ++ path
  | notJson e => "Failed to parse node catalog " ++ path ++ ": " ++ e.message
  | notAList =>
    "Node catalog " ++ path ++ " must be a list of definitions or \x7b'nodes': [...]\x7d"
  | invalid found =>
    "Invalid node definition: " ++ Issue.summary Definition.recordName found
  | unreadable _ => "Node catalog " ++ path ++ " cannot be read"
  | fault _ => "Node catalog " ++ path ++ " cannot be read"

end CatalogError

namespace Catalog

def entries? : Json → Option (List Json)
  | .obj ms => ((Members.get? "nodes" ms).getD .null).items?
  | v => v.items?

def add (c : Catalog) (v : Json) : Except CatalogError (Catalog × Definition) :=
  match Definition.read v with
  | .ok d => .ok (c.register d, d)
  | .issues found => .error (.invalid found)
  | .stopped => .error (.invalid [])

def addAll (c : Catalog) : List Json → Except CatalogError Catalog
  | [] => .ok c
  | v :: vs => do
    let (c, _) ← c.add v
    addAll c vs

def load (start : Catalog) (text : String) : Except CatalogError Catalog :=
  match Json.parse text with
  | .error (.malformed e) => .error (.notJson e)
  | .error (.limit f) => .error (.fault f)
  | .ok v =>
    match entries? v with
    | some entries => start.addAll entries
    | none => .error .notAList

def loadFile (start : Catalog) (fs : Files) (path : String) : Except CatalogError Catalog :=
  match fs.readText (tidyPath path) with
  | .ok text => start.load text
  | .error (.file ⟨.notFound, _⟩) => .error .notFound
  | .error e => .error (.unreadable e)

def save (c : Catalog) : Except Fault String := c.toJson.write

/-- Saves the catalog in the file at a path, with the directories on the way to it. The directories are
made before the text, and stay when there is none. -/
def saveFile (c : Catalog) (fs : Files) (path : String) : Files × Except SaveError Unit :=
  match fs.makeDirectory (parentPath (tidyPath path)) with
  | (fs, .error e) => (fs, .error (.file e))
  | (fs, .ok ()) =>
    match c.save with
    | .error f => (fs, .error (.fault f))
    | .ok text =>
      match fs.writeText (tidyPath path) text with
      | .error e => (fs, .error (.file e))
      | .ok fs => (fs, .ok ())

end Catalog

end DurableFlow
