import DurableFlow.Fragment.Body

/-!
Nodes that wait: for a while, until a moment, or for an event.
-/

namespace DurableFlow.Fragment

def timeUnits : List (String × Nat) :=
  [("ms", 1), ("millisecond", 1), ("milliseconds", 1), ("s", 1000), ("second", 1000),
   ("seconds", 1000), ("m", 60000), ("minute", 60000), ("minutes", 60000), ("h", 3600000),
   ("hour", 3600000), ("hours", 3600000), ("d", 86400000), ("day", 86400000), ("days", 86400000),
   ("w", 604800000), ("week", 604800000), ("weeks", 604800000)]

/-- The milliseconds of a value in the unit that its object names; an unknown unit counts as seconds,
with a notice. -/
def milliseconds (what : String) (ms : Members) (value : Json) : Build Int := do
  let unit := ((Members.get? "unit" ms).getD (.str "seconds")).plainText
  match timeUnits.lookup unit with
  | some factor => value.scaled factor
  | none =>
    Outcome.warn ("Unknown " ++ what ++ " unit '" ++ unit ++ "'; treating as seconds")
    value.scaled 1000

/-- How long to sleep. -/
inductive SleepPlan where
  | relative (ms : Int)
  | absolute (moment : Json)
  deriving Repr

/-- Reads how long to sleep; one second when nothing says otherwise. -/
def sleepPlan (config : Members) : Build SleepPlan :=
  match (Members.get? "duration" config).getD ((Members.get? "ms" config).getD .null) with
  | .int n => return .relative n
  | .float x => do
    let n ← (Json.float x).toInt
    return .relative n
  | .obj ms =>
    match Members.get? "type" ms, (Members.get? "timestamp" ms).getD .null with
    | some (.str "absolute"), .null => relative ms
    | some (.str "absolute"), moment => return .absolute moment
    | _, _ => relative ms
  | _ => return .relative 1000
where
  relative (ms : Members) : Build SleepPlan := do
    let n ← milliseconds "sleep" ms ((Members.get? "value" ms).getD (.int 1))
    return .relative n

def sleep (n : Node) (ctx : Context) : Build Body := do
  let plan ← sleepPlan n.config
  let step := Json.quote (ctx.stepName n)
  let (wait, output) : String × String :=
    match plan with
    | .absolute moment =>
      ("await step.sleepUntil(" ++ step ++ ", new Date(" ++ moment.compact ++ "));",
       braced ("until: " ++ moment.compact))
    | .relative ms =>
      ("await step.sleep(" ++ step ++ ", " ++ toString ms ++ ");",
       braced ("sleptMs: " ++ toString ms))
  return .direct (Code.texts ["const inputData = " ++ ctx.input n ++ ";", wait]) "inputData" output

/-- How long to wait for an event, if there is a limit. -/
def waitTimeout (config : Members) : Build (Option Int) :=
  match (Members.get? "timeout" config).getD .null with
  | .obj ms =>
    match (Members.get? "value" ms).getD .null with
    | .null => return none
    | value => do
      let n ← milliseconds "timeout" ms value
      return some n
  | _ => return none

/-- Waits for an event. The end of the waiting time is an error, or a result if the configuration
says so. -/
def waitEvent (n : Node) (ctx : Context) : Build Body := do
  match n.setting "eventType" with
  | .str eventType =>
    if eventType = "" then Outcome.fail (missingEvent n)
    else
      let timeout ← waitTimeout n.config
      let limit :=
        match timeout with
        | some ms => ", timeout: " ++ toString ms
        | none => ""
      let wait := "received = await step.waitForEvent(" ++ Json.quote (ctx.stepName n) ++ ", " ++
        braced ("type: " ++ Json.quote eventType ++ limit) ++ ");"
      let lines :=
        match n.settingD "timeoutBehavior" (.str "error") with
        | .str "continue" =>
          [opens "try", Text.indent wait, reopens "catch (error)", "  timedOut = true;", closes]
        | _ => [wait]
      return .direct
        (Code.texts (["const inputData = " ++ ctx.input n ++ ";", "let received = null;",
          "let timedOut = false;"] ++ lines))
        "inputData" (braced "event: received, timedOut")
  | _ => Outcome.fail (missingEvent n)
where
  missingEvent (n : Node) : Fault :=
    .badValue ("wait-event node '" ++ n.id ++ "' needs an eventType")

end DurableFlow.Fragment
