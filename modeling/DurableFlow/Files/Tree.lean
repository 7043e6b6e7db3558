import DurableFlow.Json.Display
import DurableFlow.Outcome
import DurableFlow.Text.Split
import DurableFlow.Text.Utf8

/-!
A tree of files below one directory. Paths are followed name by name, and each name but the last must
lead to a directory that is there, also when the next name leads back up. Reading and writing fail as
they do on a disk: a parent that is missing, a parent that is a file, a file that is a directory, a
name that is too long.
-/

namespace DurableFlow

/-- What a file holds: a text, or bytes that came from elsewhere. -/
inductive Content where
  | text (s : String)
  | raw (bytes : List UInt8)
  deriving DecidableEq, Repr

inductive FileEntry where
  | directory
  | file (content : Content)
  deriving DecidableEq, Repr

/-- Why a file operation failed. -/
inductive FileCause where
  | notFound
  | taken
  | notADirectory
  | isADirectory
  | nameTooLong
  | busy
  | nullInPath
  deriving DecidableEq, Repr

namespace FileCause

/-- The number by which the system knows the cause; a path with a null character never gets there. -/
def number? : FileCause → Option Nat
  | notFound => some 2
  | taken => some 17
  | notADirectory => some 20
  | isADirectory => some 21
  | nameTooLong => some 36
  | busy => some 16
  | nullInPath => none

def text : FileCause → String
  | notFound => "No such file or directory"
  | taken => "File exists"
  | notADirectory => "Not a directory"
  | isADirectory => "Is a directory"
  | nameTooLong => "File name too long"
  | busy => "Device or resource busy"
  | nullInPath => "embedded null byte"

end FileCause

/-- A failed operation on a path. -/
structure FileError where
  cause : FileCause
  path : String
  deriving DecidableEq, Repr

def FileError.message (e : FileError) : String :=
  match e.cause.number? with
  | some n => "[Errno " ++ toString n ++ "] " ++ e.cause.text ++ ": " ++ Json.displayString e.path
  | none => e.cause.text

/-- Why a value could not be written to a file. -/
inductive SaveError where
  | file (e : FileError)
  | fault (f : Fault)
  deriving Repr

/-- Why a text could not be read. -/
inductive ReadTextError where
  | file (e : FileError)
  | encoding (e : Text.Utf8Error)
  deriving DecidableEq, Repr

def ReadTextError.message : ReadTextError → String
  | .file e => e.message
  | .encoding e => e.message

/-- The names on the way to a file. The way from the root of all directories starts with an empty
name, the way up from the directory of the tree with pairs of dots; other ways start in the directory
of the tree. -/
abbrev Place := List String

namespace Place

/-- The directory above a place; the root is above itself. -/
def up (place : Place) : Place :=
  match place.getLast? with
  | none => [".."]
  | some ".." => place ++ [".."]
  | some "" => place
  | some _ => place.dropLast

/-- Follows one name from a place. -/
def follow (place : Place) (name : String) : Place :=
  if name = "" || name = "." then place
  else if name = ".." then place.up
  else place ++ [name]

/-- Whether the place is the directory of the tree, or lies above it, or is the root. -/
def isGround (place : Place) : Bool := place = [""] || place.all (· = "..")

/-- Whether the place lies below the directory of the tree. -/
def isInside (place : Place) : Bool :=
  match place with
  | [] => false
  | name :: _ => name ≠ "" && name ≠ ".."

def isAbsolute (path : String) : Bool := path.toList.head? = some '/'

/-- Where a path starts. -/
def start (path : String) : Place := if isAbsolute path then [""] else []

def ofPath (path : String) : Place := (Text.splitAt '/' path).foldl follow (start path)

def toPath (place : Place) : String := "/".intercalate place

end Place

/-- The most bytes that a name may have. -/
def maxName : Nat := 255

/-- The most bytes that a path may have. -/
def maxPath : Nat := 4095

/-- The names of a path, without empty ones and those that mean the same directory. -/
def tidyNames (path : String) : List String :=
  (Text.splitAt '/' path).filter fun name => name ≠ "" && name ≠ "."

/-- A path without empty parts and without parts that mean the same directory. -/
def tidyPath (path : String) : String :=
  let names := tidyNames path
  if Place.isAbsolute path then "/" ++ "/".intercalate names
  else if names.isEmpty then "."
  else "/".intercalate names

def parentPath (path : String) : String :=
  let parent := "/".intercalate (Text.splitAt '/' (tidyPath path)).dropLast
  tidyPath (if Place.isAbsolute path then "/" ++ parent else parent)

def joinPath (a b : String) : String :=
  tidyPath (if Place.isAbsolute b then b else a ++ "/" ++ b)

structure Files where
  entries : List (Place × FileEntry) := []
  deriving DecidableEq, Repr

namespace Files

def get? (fs : Files) (place : Place) : Option FileEntry :=
  if place.isGround then some .directory else fs.entries.lookup place

/-- A directory must be at a place for a name to be followed from it. -/
def enter (fs : Files) (place : Place) : Except FileCause Unit :=
  match fs.get? place with
  | some .directory => .ok ()
  | some (.file _) => .error .notADirectory
  | none => .error .notFound

/-- Follows names from a place. There need not be anything at the last of them. -/
def walk (fs : Files) (place : Place) : List String → Except FileCause Place
  | [] => .ok place
  | name :: rest => do
    fs.enter place
    if maxName < name.utf8ByteSize then throw .nameTooLong
    walk fs (place.follow name) rest

/-- Whether a path can be looked up at all. -/
def admissible (path : String) : Except FileCause Unit :=
  if path.toList.contains (Char.ofNat 0) then .error .nullInPath
  else if maxPath < path.utf8ByteSize then .error .nameTooLong
  else if path = "" then .error .notFound
  else .ok ()

def locate (fs : Files) (path : String) : Except FileCause Place := do
  admissible path
  fs.walk (Place.start path) (Text.splitAt '/' path)

def status (fs : Files) (path : String) : Except FileCause FileEntry := do
  match fs.get? (← fs.locate path) with
  | some e => return e
  | none => throw .notFound

def contains (fs : Files) (path : String) : Bool := (fs.status path).isOk

/-- Replaces an entry where it stands, or appends it. -/
def setEntry (place : Place) (e : FileEntry) :
    List (Place × FileEntry) → List (Place × FileEntry)
  | [] => [(place, e)]
  | (p, old) :: rest => if p = place then (p, e) :: rest else (p, old) :: setEntry place e rest

def set (fs : Files) (place : Place) (e : FileEntry) : Files := ⟨setEntry place e fs.entries⟩

/-- Puts a file with its directories into the tree, whatever stood there. -/
def seed (fs : Files) (path : String) (content : Content) : Files :=
  let place := Place.ofPath path
  let parents := (List.range place.length).drop 1 |>.map fun n => place.take n
  let fs := parents.foldl (fun fs p => if (fs.get? p).isSome then fs else fs.set p .directory) fs
  fs.set place (.file content)

def readText (fs : Files) (path : String) : Except ReadTextError String :=
  match fs.status path with
  | .ok (.file (.text s)) => .ok (String.ofList (Text.plainBreaks s.toList))
  | .ok (.file (.raw bytes)) =>
    match Text.decodeUtf8 bytes with
    | .ok s => .ok (String.ofList (Text.plainBreaks s.toList))
    | .error e => .error (.encoding e)
  | .ok .directory => .error (.file ⟨.isADirectory, path⟩)
  | .error cause => .error (.file ⟨cause, path⟩)

def writeText (fs : Files) (path : String) (s : String) : Except FileError Files :=
  match fs.locate path with
  | .error cause => .error ⟨cause, path⟩
  | .ok place =>
    if fs.get? place = some .directory then .error ⟨.isADirectory, path⟩
    else .ok (fs.set place (.file (.text s)))

def erase (fs : Files) (place : Place) : Files := ⟨fs.entries.filter fun e => e.1 ≠ place⟩

/-- The first of some places where nothing stands, if it is among as many as there are entries and one
more. -/
def freePlace (fs : Files) (place : Nat → Place) : Place :=
  place (((List.range (fs.entries.length + 1)).find? fun n => (fs.get? (place n)).isNone).getD 0)

/-- Makes an empty file of a new name in a directory, and gives its place. -/
def makeTemporary (fs : Files) (directory opening ending : String) : Except FileError (Files × Place) :=
  Except.mapError (⟨·, directory⟩) do
    let parent ← fs.locate directory
    fs.enter parent
    let place := fs.freePlace fun n => parent.follow (opening ++ toString n ++ ending)
    return (fs.set place (.file (.text "")), place)

/-- Moves what stands at a place to a path, over the file that stands there. -/
def replace (fs : Files) (source : Place) (path : String) : Except FileError Files :=
  match fs.locate path with
  | .error cause => .error ⟨cause, path⟩
  | .ok place =>
    if fs.get? place = some .directory then
      -- The directory of the tree and the one above are no names that could be given to another.
      let named := (tidyNames path).getLast?.any (· ≠ "..")
      .error ⟨if named then .isADirectory else .busy, path⟩
    else
      match fs.get? source with
      | none => .error ⟨.notFound, path⟩
      | some e => .ok ((fs.erase source).set place e)

/-- Makes the directory at the last of some names, where there is nothing yet. -/
def makeLast (fs : Files) (start : Place) (names : List String) : Except FileCause Files := do
  let parent ← fs.walk start names.dropLast
  fs.enter parent
  let name := names.getLast?.getD "."
  if maxName < name.utf8ByteSize then throw .nameTooLong
  let place := parent.follow name
  if (fs.get? place).isSome then throw .taken
  return fs.set place .directory

/-- Makes the directory at the last of some names; one that is there already is as good as a new one. -/
def ensureLast (fs : Files) (start : Place) (names : List String) : Except FileCause Files :=
  match fs.makeLast start names with
  | .ok fs => .ok fs
  | .error cause =>
    if ((fs.walk start names).toOption.bind fs.get?) = some .directory then .ok fs
    else .error cause

/-- Makes the directories that the first names lead to, one after the other, as far as they are missing.
Directories that were made stay also when a later one fails; a failure comes with the number of names
that led to it. -/
def makeAll (fs : Files) (start : Place) (names : List String) : (count : Nat) →
    Files × Option (Nat × FileCause)
  | 0 => (fs, none)
  | count + 1 =>
    let here := names.take (count + 1)
    let ensure (fs : Files) : Files × Option (Nat × FileCause) :=
      match fs.ensureLast start here with
      | .ok fs => (fs, none)
      | .error cause => (fs, some (count + 1, cause))
    match fs.makeLast start here with
    | .error .notFound =>
      match makeAll fs start names count with
      | (fs, none) => ensure fs
      | failed => failed
    | _ => ensure fs

/-- The path of the first names of a path. -/
def firstPath (path : String) (count : Nat) : String :=
  tidyPath ((if Place.isAbsolute path then "/" else "") ++ "/".intercalate ((tidyNames path).take count))

/-- Makes a directory with its parents; one that is there already is kept. -/
def makeDirectory (fs : Files) (path : String) : Files × Except FileError Unit :=
  let names := tidyNames path
  match admissible (tidyPath path) with
  | .error cause => (fs, .error ⟨cause, tidyPath path⟩)
  | .ok () =>
    match fs.makeAll (Place.start path) names names.length with
    | (fs, none) => (fs, .ok ())
    | (fs, some (count, cause)) => (fs, .error ⟨cause, firstPath path count⟩)

/-- The entries below the directory of the tree. -/
def below (fs : Files) : Files := ⟨fs.entries.filter fun e => e.1.isInside⟩

def paths (fs : Files) : List String :=
  (fs.entries.map fun e => Place.toPath e.1).mergeSort fun a b => decide (a ≤ b)

def texts (fs : Files) : List (String × String) :=
  (fs.entries.filterMap fun e =>
    match e.2 with
    | .file (.text s) => some (Place.toPath e.1, s)
    | _ => none).mergeSort fun a b => decide (a.1 ≤ b.1)

end Files

end DurableFlow
