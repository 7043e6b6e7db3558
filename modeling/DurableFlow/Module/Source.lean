import DurableFlow.Fragment.Body
import DurableFlow.Module.Tool

/-!
The source of a module. The fragments of the nodes, in the order in which they run, are put into the
class of the workflow; a handler starts runs and reports on them, and a workflow with a tool-input
node is served as a tool as well.
-/

namespace DurableFlow.Module

/-- The margin of the code inside a method. -/
def methodMargin : String := "    "

/-- A log event about the whole run. -/
def runEvent (event workflow : String) : String :=
  methodMargin ++ "console.log(JSON.stringify(" ++ braced ("type: " ++ Json.quote event ++
    ", workflow: " ++ Json.quote workflow ++ ", timestamp: Date.now(), instanceId: event.instanceId") ++
    "));"

/-- The class of the workflow, with the fragments in its `run` method. -/
def workflowClass (className workflow : String) (fragments : List String) : String :=
  Text.block
    [opens ("export class " ++ className ++ " extends WorkflowEntrypoint"),
     opens "  async run(event, step)",
     runEvent "WF_START" workflow,
     "    const _workflowResults = " ++ emptyObject ++ ";",
     "    const _workflowState = " ++ emptyObject ++ ";",
     "",
     Text.indentBy methodMargin ("\n\n".intercalate fragments),
     "",
     runEvent "WF_END" workflow,
     "    return _workflowResults;",
     "  " ++ closes,
     closes]

/-- The lines that start a run, or report on one. -/
def handlerLines (binding : String) : List String :=
  ["const url = new URL(request.url);",
   "const instanceId = url.searchParams.get(\"instanceId\");",
   opens "if (instanceId)",
   "  const instance = await env." ++ binding ++ ".get(instanceId);",
   "  return Response.json(" ++ braced "id: instanceId, status: await instance.status()" ++ ");",
   closes,
   "let params = " ++ emptyObject ++ ";",
   opens "if (request.method === \"POST\")",
   opens "  try",
   "    params = await request.json();",
   "  " ++ reopens "catch",
   "    params = " ++ emptyObject ++ ";",
   "  " ++ closes,
   closes,
   "const instance = await env." ++ binding ++ ".create(" ++
     braced "id: crypto.randomUUID(), params" ++ ");",
   "return Response.json(" ++ braced "id: instance.id, details: await instance.status()" ++ ");"]

/-- The lines that hand requests for the tool to its server. -/
def toolRoutes (toolClass : String) : List String :=
  [opens "if (new URL(request.url).pathname.startsWith(\"/sse\"))",
   "  return " ++ toolClass ++ ".serveSSE(\"/sse\").fetch(request, env, ctx);",
   closes,
   opens "if (new URL(request.url).pathname.startsWith(\"/mcp\"))",
   "  return " ++ toolClass ++ ".serve(\"/mcp\").fetch(request, env, ctx);",
   closes]

/-- The default export, whose handler has these parameters and lines. -/
def handler (parameters : String) (lines : List String) : String :=
  Text.block
    [opens "export default",
     opens ("  async fetch(" ++ parameters ++ ")"),
     Text.indentBy methodMargin (Text.block lines),
     "  " ++ closes ++ ",",
     closes ++ ";"]

/-- How often, and after how many milliseconds each time, the tool server looks for the result. -/
def pollAttempts : Nat := 60

def pollIntervalMs : Nat := 1000

/-- The class that serves the workflow as a tool. -/
def toolServer (className : String) (n : Node) (workflow : String) (outputStep : Json) :
    Except Fault String := do
  let _ ← Tool.manifest n workflow
  let name := (Tool.name n workflow).compact
  let shape ← Tool.shape n
  let output :=
    if outputStep.isGiven then "status.output?.[" ++ outputStep.compact ++ "]" else "status.output"
  return Text.block
    [opens ("export class " ++ toolClass className ++ " extends McpAgent"),
     "  server = new McpServer(" ++ braced ("name: " ++ name ++ ", version: " ++
       Json.quote Tool.version) ++ ");",
     "",
     opens "  async init()",
     "    this.server.tool(",
     "      " ++ name ++ ",",
     "      " ++ (Tool.description n workflow).compact ++ ",",
     "      " ++ shape ++ ",",
     opens "      async (args) =>",
     "        const instance = await this.env." ++ bindingName className ++ ".create(" ++
       braced "id: crypto.randomUUID(), params: args" ++ ");",
     "        let status = await instance.status();",
     opens ("        for (let attempt = 0; attempt < " ++ toString pollAttempts ++ "; attempt++)"),
     "          if ([\"complete\", \"errored\", \"terminated\"].includes(status.status)) break;",
     "          await new Promise((resolve) => setTimeout(resolve, " ++ toString pollIntervalMs ++
       "));",
     "          status = await instance.status();",
     "        " ++ closes,
     "        const output = " ++ output ++ ";",
     "        if (status.status === \"complete\" && output?.content) return output;",
     opens "        return",
     "          content: [" ++ braced "type: \"text\", text: JSON.stringify(output ?? status)" ++ "],",
     "          isError: status.status !== \"complete\",",
     "        " ++ closes ++ ";",
     "      " ++ closes,
     "    );",
     "  " ++ closes,
     closes]

def importLine (name source : String) : String :=
  "import " ++ braced name ++ " from " ++ Json.quote source ++ ";"

def baseImports : List String := [importLine "WorkflowEntrypoint" "cloudflare:workers"]

def toolImports : List String :=
  [importLine "McpAgent" "agents/mcp",
   importLine "McpServer" "@modelcontextprotocol/sdk/server/mcp.js",
   importLine "z" "zod"]

def headLine (workflow : String) : String :=
  "// Generated by stepflow from workflow " ++ Json.quote (Text.singleLine workflow)

/-- The complete source of a module. With a tool, the tool answers with what is recorded under
`outputStep`, or with everything when that is not given. -/
def source (fragments : List String) (className workflow : String) (tool : Option Node)
    (outputStep : Json) : Except Fault String := do
  let workflowClass := workflowClass className workflow fragments
  let lines := handlerLines (bindingName className)
  let sections ←
    match tool with
    | none =>
      pure [headLine workflow, Text.block baseImports, workflowClass, handler "request, env" lines]
    | some n =>
      let server ← toolServer className n workflow outputStep
      pure [headLine workflow, Text.block (baseImports ++ toolImports), workflowClass, server,
        handler "request, env, ctx" (toolRoutes (toolClass className) ++ lines)]
  return "\n\n".intercalate sections ++ "\n"

end DurableFlow.Module
