import DurableFlow.Record.Checked

/-!
Compiler settings: the defaults that go into generated modules and deployment descriptors.
-/

namespace DurableFlow

open Checked

/-- What is done with a graph that has a cycle. -/
inductive CyclePolicy where
  | error
  | fallback
  deriving DecidableEq, Repr, Inhabited

namespace CyclePolicy

def name : CyclePolicy → String
  | error => "error"
  | fallback => "fallback"

def names : List String := ["error", "fallback"]

def ofName? (s : String) : Option CyclePolicy :=
  if s = "error" then some error else if s = "fallback" then some fallback else none

def read (v : Json) : Checked CyclePolicy :=
  (choice names v).andThen fun s =>
    match ofName? s with
    | some p => .ok p
    | none => issue (.choiceExpected names)

end CyclePolicy

structure CompilerSettings where
  compatibilityDate : String := "2024-01-01"
  mainModule : String := "src/index.ts"
  cyclePolicy : CyclePolicy := .error
  httpTimeoutMs : Int := 30000
  aiCacheTtl : Int := 3600
  aiModel : String := "@cf/meta/llama-3.1-8b-instruct"
  deriving DecidableEq, Repr, Inhabited

namespace CompilerSettings

/-- Four, two and two decimal digits of any script, joined by dashes. -/
def isDate (s : String) : Bool :=
  match s.toList with
  | [a, b, c, d, x, e, f, y, g, h] =>
    [a, b, c, d, e, f, g, h].all Text.isDateDigit && x = '-' && y = '-'
  | _ => false

def datePattern : String := "^\\d\x7b4\x7d-\\d\x7b2\x7d-\\d\x7b2\x7d$"

def readDate (v : Json) : Checked String :=
  (string v).andThen fun s => if isDate s then .ok s else issue (.pattern datePattern)

/-- The path of the main module is relative. -/
def readMainModule (v : Json) : Checked String :=
  (string v).andThen fun s =>
    if s.toList.head? = some '/' then
      issue (.refused ("Invalid main_module: " ++ s ++ ". Must be a relative path"))
    else .ok s

def keys : List String :=
  ["compatibility_date", "main_module", "cycle_policy", "default_http_timeout_ms", "ai_cache_ttl",
   "default_ai_model"]

def readMembers (ms : Members) : Checked CompilerSettings :=
  CompilerSettings.mk <$> fieldD ms ["compatibility_date"] readDate "2024-01-01" <*>
    fieldD ms ["main_module"] readMainModule "src/index.ts" <*>
    fieldD ms ["cycle_policy"] CyclePolicy.read .error <*>
    fieldD ms ["default_http_timeout_ms"] (fun v => (int v).andThen (above 0)) 30000 <*>
    fieldD ms ["ai_cache_ttl"] (fun v => (int v).andThen (notBelow 0)) 3600 <*>
    fieldD ms ["default_ai_model"] string "@cf/meta/llama-3.1-8b-instruct"

def read (v : Json) : Checked CompilerSettings := record "CompilerSettings" readMembers v

def toMembers (s : CompilerSettings) : Members :=
  [("compatibility_date", .str s.compatibilityDate), ("main_module", .str s.mainModule),
   ("cycle_policy", .str s.cyclePolicy.name), ("default_http_timeout_ms", .int s.httpTimeoutMs),
   ("ai_cache_ttl", .int s.aiCacheTtl), ("default_ai_model", .str s.aiModel)]

def toJson (s : CompilerSettings) : Json := .obj s.toMembers

end CompilerSettings

/-- All settings, with the version of their format. -/
structure Settings where
  version : String := "1.0.0"
  compiler : CompilerSettings := {}
  deriving DecidableEq, Repr, Inhabited

namespace Settings

def recordName : String := "StepflowSettings"

def readMembers (ms : Members) : Checked Settings :=
  Settings.mk <$> fieldD ms ["version"] string "1.0.0" <*>
    fieldD ms ["compiler"] CompilerSettings.read {}

def read (v : Json) : Checked Settings := record recordName readMembers v

def toJson (s : Settings) : Json :=
  .obj [("version", .str s.version), ("compiler", s.compiler.toJson)]

end Settings

end DurableFlow
