import Formwork.Service.Server
/-!
# MCP tools

A tool takes named arguments and answers with an object.  The errors in `_KNOWN_ERRORS` are answered with an error
object (`_handle_mcp_error`), most of which name an action; any other error is raised.
-/
namespace Formwork

/-- The tools. -/
inductive Tool
  | generateDefinition
  | compileScript
  | compileRequests
  | createRemote
deriving DecidableEq, Inhabited

namespace Tool

/-- The tools, in the order of their definition. -/
def all : List Tool := [generateDefinition, compileScript, compileRequests, createRemote]

/-- The name of a tool. -/
def name : Tool → String
  | generateDefinition => "forms_generate_definition"
  | compileScript => "forms_compile_script"
  | compileRequests => "forms_compile_mutations"
  | createRemote => "forms_create_remote"

/-- The tool with a name. -/
def ofName? (word : String) : Option Tool := all.find? fun tool => tool.name == word

/-- The required argument of a tool. -/
def argument : Tool → String
  | generateDefinition => "text"
  | _ => "definition"

/-- The names of the arguments of a tool. -/
def arguments (tool : Tool) : List String :=
  tool.argument :: match tool with
    | generateDefinition => ["locale"]
    | compileScript => ["create_results_sheet", "locale"]
    | compileRequests => []
    | createRemote => ["account"]

/-- Whether a problem is answered with an error object (`_KNOWN_ERRORS`). -/
def isAnswered : Problem → Bool
  | .invalidForm .. | .misshapen .. | .authentication _ | .compilation _ | .rateLimit _ => true
  | problem => problem.isIntegration

/-- The error object of a problem for a locale (`_handle_mcp_error`). -/
def problemDocument (locale : Json) (problem : Problem) : Except Problem Json :=
  let action := fun (text : String) => [("action", Json.str text)]
  let object := fun (kind message : String) (more : Fields) =>
    Json.obj (("error", .str kind) :: ("message", .str message) :: more)
  match problem with
  | .invalidForm field reason =>
    .ok (object "validation_error" reason
      (("field", .str field) :: action "Fix the named field of the form definition and retry"))
  | .misshapen .. =>
    .ok (object "validation_error" problem.message
      (action "Send a definition matching the form schema"))
  | .authentication message | .unauthenticated message =>
    .ok (object "auth_error" message (action "Ask user to visit /auth/forms/setup"))
  | .rateLimit message => .ok (object "rate_limit" message (action "Wait a moment and retry"))
  | .generation reason message => do
    let locale ← Locale.ofJson locale
    return object "generation_error" message
      (("reason", .str reason.name) :: action (Generation.remediation locale reason))
  | .compilation message => .ok (object "compilation_error" message [])
  | _ =>
    let kind :=
      if problem.isOrchestration then "orchestrator_error"
      else if problem.isIntegration then "integration_error"
      else "unknown_error"
    .ok (object kind problem.message [])

/-- An activity with its known errors turned into error objects. -/
def answering (locale : Json) (act : Act World Json) : Act World Json := fun world =>
  match act.run world with
  | (.ok value, world) => (.ok value, world)
  | (.error failure, world) =>
    if isAnswered failure.problem then
      ((problemDocument locale failure.problem).mapError (⟨·, []⟩), world)
    else
      (.error failure, world)

/-- The definition in an argument. -/
def definition (given : Json) : Act World Definition :=
  .ofReading "FormDefinition" (Definition.read .value given)

/-- The result of a tool on its arguments. -/
def run (tool : Tool) (given : String → Option Json) : Act World Json :=
  let first := (given tool.argument).getD .null
  let locale := (given "locale").getD (.str Locale.en.code)
  match tool with
  | generateDefinition => answering locale do
    let language ← .ofProblem (Locale.ofJson locale)
    let d ← Job.generate first.bare language
    return d.document
  | compileScript => answering (.str Locale.en.code) do
    let normal ← Job.validate (← definition first)
    let language ← .ofExcept (Script.requestedLocale locale)
    let sheet := (given "create_results_sheet").any Json.truthy
    let script ← Job.scriptOf normal ⟨sheet, language⟩
    return .obj [("script", .str script), ("entry_function", .str Script.entryFunction)]
  | compileRequests => answering (.str Locale.en.code) do
    let requests ← Job.requests (← definition first)
    return Endpoint.requestsDocument requests
  | createRemote => answering (.str Locale.en.code) do
    let account := ((given "account").map Json.bare).getD Account.default
    let form ← Job.createForm account (← definition first)
    return form.document

/-- A call of a tool with the members of an object as its arguments. -/
def call (tool : Tool) (given : Fields) : Act World Json :=
  match given.names.find? fun word => !tool.arguments.contains word with
  | some word =>
    .fail (Problem.badType s!"{tool.name}() got an unexpected keyword argument '{word}'")
  | none =>
    if given.has tool.argument then run tool fun word => given.get? word
    else
      .fail (Problem.badType
        s!"{tool.name}() missing 1 required positional argument: '{tool.argument}'")

end Tool
end Formwork
