import Formwork.Generation.Call
import Formwork.Remote.Backend
/-!
# Jobs

The work behind the endpoints and the tools: generating, validating, compiling a script, compiling batchUpdate
requests, and creating a remote form.  Every job validates the definition before anything else is done with it.
-/
namespace Formwork
namespace Job

/-- The error for a definition that fails a check. -/
def invalid (defect : Defect) : Problem := .invalidForm defect.field defect.reason

/-- The log record of a dropped answer. -/
def dropped (answer : DroppedAnswer) : LogRecord := ⟨.warning, LogRecord.validation, answer.message⟩

/-- Validates a definition and logs the answers that are dropped. -/
def validate (d : Definition) : Act World Definition :=
  match d.validate with
  | .error defect => .fail (invalid defect)
  | .ok normal => do
    World.log (d.droppedAnswers.map dropped)
    pure normal

/-- Generates a definition from a text and validates it. -/
def generate (text : String) (locale : Locale) : Act World Definition := do
  let d ← Generation.define text locale
  validate d

/-- Compiles the script of a validated definition, with fresh item names. -/
def scriptOf (d : Definition) (options : Script.Options) : Act World String := do
  let names ← World.takeItemNames d.questionCount
  return (d.script options names).text

/-- Validates a definition and compiles its script. -/
def script (d : Definition) (options : Script.Options) : Act World String := do
  let normal ← validate d
  scriptOf normal options

/-- Validates a definition and compiles its batchUpdate requests. -/
def requests (d : Definition) : Act World (List Json) := do
  let normal ← validate d
  return normal.plan.requests

/-- Validates a definition and creates its remote form for an account. -/
def createForm (account : String) (d : Definition) : Act World RemoteForm := do
  let normal ← validate d
  Account.createForm account normal

end Job
end Formwork
