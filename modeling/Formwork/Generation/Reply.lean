import Formwork.Definition.Document
import Formwork.Generation.Prompt
import Formwork.Logging.Basic
/-!
# Answers of the model

A call to the model fails or brings a reply.  A refused call becomes a `GenerationError`; any other failure of the
call passes through unchanged.  A blocked reply is an error whatever its text; otherwise the text, stripped, must be
JSON.  A text beyond the limits of the reader is no `GenerationError`: that failure passes through too.
-/
namespace Formwork

/-- A reply of the model. -/
structure ModelReply where
  /-- The text, if there is any. -/
  text : Option String := none
  /-- The block reason of the prompt; an empty one is none. -/
  blockReason : Option String := none
  /-- The finish reason of each candidate. -/
  finishReasons : List (Option String) := []
deriving DecidableEq, Inhabited

namespace ModelReply

/-- Whether the reply was blocked (`_is_blocked`). -/
def isBlocked (reply : ModelReply) : Bool :=
  (Text.nonempty? reply.blockReason).isSome || reply.finishReasons.contains (some "SAFETY")

/-- The value in the text of a reply, read within these limits. -/
def value (limits : Json.Limits) (reply : ModelReply) : Except Failure Json :=
  if reply.isBlocked then
    .error (Problem.generation .safetyBlocked "Response blocked by safety filters.")
  else
    let text := Text.strip (reply.text.getD "")
    if text = "" then
      .error (Problem.generation .empty "API returned an empty response.")
    else
      match Json.parseWithin limits text with
      | .ok value => .ok value
      | .error fault =>
        let problem := Problem.malformedJson fault
        if fault.reason.isLimit then .error problem
        else
          .error (.because (.generation .other s!"Model returned invalid JSON: {fault.message}") problem)

end ModelReply

namespace Generation

/-- The error without an API key (`_get_client`). -/
def noKey : Failure :=
  Problem.generation .invalidKey <|
    "Gemini API key not configured. Get one at "
      ++ "https://aistudio.google.com/apikey and set GEMINI_API_KEY in .env"

/-- Whether one string occurs in another. -/
def occursIn (part : List Char) : List Char → Bool
  | [] => part.isEmpty
  | c :: rest => part.isPrefixOf (c :: rest) || occursIn part rest

/-- Whether a value equals this number. -/
def isNumber (n : Int) : Json → Bool
  | .int value => value == n
  | .float value => value.toInt? == some n
  | _ => false

/-- The reason of a refused call. -/
def refusalReason (refusal : ModelRefusal) : GenerationFailure :=
  let message := refusal.message.toList
  if occursIn "API key not valid".toList message || isNumber 401 refusal.code
      || isNumber 403 refusal.code then .invalidKey
  else if occursIn "SAFETY".toList message then .safetyBlocked
  else .other

/-- The failure of a call, with what is logged about it. -/
def ofFailedCall (failure : Failure) : Failure × List LogRecord :=
  match failure.problem with
  | .modelRefusal refusal =>
    (.because (.generation (refusalReason refusal) refusal.message) failure,
      [⟨.error, LogRecord.generation, s!"Gemini call failed: {refusal.message}"⟩])
  | _ => (failure, [])

/-- The definition in a value, or the failure with what is logged about it. -/
def definition (value : Json) : Except (Failure × LogRecord) Definition :=
  match Definition.read .value value with
  | .done d => .ok d
  | .failed issues =>
    let problem := Problem.misshapen "FormDefinition" issues
    .error
      (.because
        (.generation .other "Generated form definition did not match the expected shape.")
        problem,
       ⟨.error, LogRecord.generation,
        s!"Generated form definition did not match the schema: {problem.message}"⟩)

end Generation
end Formwork
