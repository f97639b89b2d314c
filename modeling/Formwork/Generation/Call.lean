import Formwork.Definition.Validity
import Formwork.World.Basic
/-!
# Generation

`generate` asks the model once, with the API key of the settings, and fails without one.
`generate_form_definition` reads the answer as a definition.
-/
namespace Formwork
namespace Generation

/-- A call to the model, with what is logged when it fails. -/
def reporting (call : Act World ModelReply) : Act World ModelReply := fun world =>
  match call.run world with
  | (.ok reply, world) => (.ok reply, world)
  | (.error failure, world) =>
    let (failure, records) := ofFailedCall failure
    (.error failure, world.logged records)

/-- The JSON value that the model answers a prompt with (`generate`). -/
def ask (prompt : String) (instructions : Option String) (model : Option String) :
    Act World Json := do
  let settings ← World.currentSettings
  if settings.geminiApiKey = "" then .fail noKey
  else
    let model := (Text.nonempty? model).getD settings.geminiModel
    let reply ← reporting (World.askModel settings.geminiApiKey model prompt instructions)
    let world ← .state
    .ofExcept (reply.value world.limits)

/-- The definition in a value, with what is logged when there is none. -/
def reportingDefinition (value : Json) : Act World Definition := fun world =>
  match definition value with
  | .ok d => (.ok d, world)
  | .error (failure, record) => (.error failure, world.logged [record])

/-- The definition in the answer to the prompt for a text. -/
def defineBy (answer : String → String → Act World Json) (text : String) (locale : Locale) :
    Act World Definition := do
  let value ← answer (prompt text) (instructions locale)
  reportingDefinition value

/-- The definition that the model makes of a text (`generate_form_definition`). -/
def define (text : String) (locale : Locale) : Act World Definition :=
  defineBy (fun prompt instructions => ask prompt (some instructions) none) text locale

end Generation
end Formwork
