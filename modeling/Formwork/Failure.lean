import Formwork.Locale
import Formwork.Json.Parser
import Formwork.Schema.Issue
import Formwork.Text.Blank
/-!
# Failures

A `Problem` is an exception of the program or of a library that it calls; `Problem.message` is its text.  A
`Failure` is a problem with the chain of its causes, the nearest first.
-/
namespace Formwork

/-- The reasons of a `GenerationError` (`GenerationFailure`). -/
inductive GenerationFailure
  | safetyBlocked
  | invalidKey
  | empty
  | other
deriving DecidableEq, Inhabited

namespace GenerationFailure

/-- The reasons, in the order in which error messages list them. -/
def all : List GenerationFailure := [safetyBlocked, invalidKey, empty, other]

/-- The value of a reason. -/
def name : GenerationFailure → String
  | safetyBlocked => "safety_blocked"
  | invalidKey => "invalid_key"
  | empty => "empty"
  | other => "other"

/-- The reason with a value. -/
def ofName? (word : String) : Option GenerationFailure := all.find? fun reason => reason.name == word

@[simp] theorem ofName?_name (reason : GenerationFailure) : ofName? reason.name = some reason := by
  cases reason <;> decide

end GenerationFailure

/-- The side that is to blame for a refused call: the client or the server. -/
inductive Blame
  | client
  | server
  | unknown
deriving DecidableEq, Inhabited

/-- Why a file cannot be opened. -/
inductive FileFault
  /-- No such file. -/
  | missing
  /-- A step of the name is a file. -/
  | throughFile
  /-- The name is that of a directory. -/
  | directory
  /-- The name or one of its steps is too long. -/
  | tooLong
  /-- The name has a null character. -/
  | nullCharacter
deriving DecidableEq, Inhabited

/-- The message of a file fault.  Every fault but the null character has an error number of the system. -/
def FileFault.message (name : String) : FileFault → String
  | missing => s!"[Errno 2] No such file or directory: {Text.display name}"
  | throughFile => s!"[Errno 20] Not a directory: {Text.display name}"
  | directory => s!"[Errno 21] Is a directory: {Text.display name}"
  | tooLong => s!"[Errno 36] File name too long: {Text.display name}"
  | nullCharacter => "embedded null byte"

/-- A refused call to the model. -/
structure ModelRefusal where
  /-- The side that is to blame. -/
  blame : Blame
  /-- The status code. -/
  code : Json
  /-- The status word. -/
  status : Json
  /-- The body of the answer. -/
  body : Json
deriving DecidableEq, Inhabited

/-- The message of a refused call to the model. -/
def ModelRefusal.message (r : ModelRefusal) : String := s!"{r.code.bare} {r.status.bare}. {r.body.bare}"

/-- A refused call to the Forms API. -/
structure FormsRefusal where
  /-- The status code. -/
  status : Int
  /-- The reason, stripped. -/
  reason : String
  /-- The details in the body. -/
  details : Json
deriving DecidableEq, Inhabited

/-- The message of a refused call to the Forms API. -/
def FormsRefusal.message (r : FormsRefusal) : String :=
  if r.details.truthy then
    s!"<HttpError {r.status} when requesting None returned \"{r.reason}\". "
      ++ s!"Details: \"{r.details.bare}\">"
  else
    s!"<HttpError {r.status} \"{r.reason}\">"

/-- An exception. -/
inductive Problem
  /-- `AuthenticationError`: credentials are missing or refused. -/
  | authentication (message : String)
  /-- `IntegrationError`: a call to a service failed. -/
  | integration (message : String)
  /-- `RateLimitError`. -/
  | rateLimit (message : String)
  /-- `FormValidationError`: a definition fails a check. -/
  | invalidForm (field reason : String)
  /-- `CompilationError`. -/
  | compilation (message : String)
  /-- `GenerationError`: the model gave no definition. -/
  | generation (reason : GenerationFailure) (message : String)
  /-- `OrchestratorError`. -/
  | orchestration (message : String)
  /-- `UnauthenticatedError`: no signed-in session. -/
  | unauthenticated (message : String)
  /-- `CreationFailedError`: the form shell could not be created. -/
  | creationFailed (message : String)
  /-- `BatchMutationFailedError`: the form could not be populated. -/
  | batchFailed (backendMessage formId : String)
  /-- A `ValidationError` of this model. -/
  | misshapen (model : String) (issues : List Issue)
  /-- A text that is no JSON, or that is beyond the limits of the reader. -/
  | malformedJson (fault : Json.Malformed)
  /-- A refused call to the Forms API. -/
  | formsRefusal (refusal : FormsRefusal)
  /-- A refused call to the model. -/
  | modelRefusal (refusal : ModelRefusal)
  /-- A refused refresh. -/
  | refreshRejected (message : String)
  /-- An unacceptable value. -/
  | badValue (message : String)
  /-- A value of the wrong type. -/
  | badType (message : String)
  /-- A missing key. -/
  | missingKey (key : Json)
  /-- A missing attribute of a value of this type. -/
  | noAttribute (typeName wanted : String)
  /-- A missing file, with a message of the program. -/
  | missingFile (message : String)
  /-- A file that cannot be opened. -/
  | badFile (fault : FileFault) (name : String)
  /-- A moment outside the calendar. -/
  | outsideCalendar
  | timeout (message : String)
  | connection (message : String)
  | runtime (message : String)
deriving DecidableEq, Inhabited

namespace Problem

/-- The first line of a `ValidationError`: the number of issues. -/
def issueCount (model : String) (issues : List Issue) : String :=
  if issues.length = 1 then s!"1 validation error for {model}"
  else s!"{issues.length} validation errors for {model}"

/-- The text of a `ValidationError`: the number of issues, and then each of them.  The last line of each, a link
to the page that explains its error type, is left out. -/
def report (model : String) (issues : List Issue) : String :=
  "\n".intercalate (issueCount model issues :: issues.map Issue.report)

/-- The message of a problem. -/
def message : Problem → String
  | authentication message | integration message | rateLimit message | compilation message
  | generation _ message | orchestration message | unauthenticated message
  | creationFailed message | refreshRejected message | badValue message | badType message
  | missingFile message | timeout message | connection message | runtime message => message
  | invalidForm field reason => s!"{field}: {reason}"
  | batchFailed backendMessage formId =>
    s!"Could not populate form {formId}. Reason: {backendMessage}"
  | misshapen model issues => report model issues
  | malformedJson fault => fault.message
  | formsRefusal refusal => refusal.message
  | modelRefusal refusal => refusal.message
  | missingKey key => key.display
  | noAttribute typeName wanted => s!"'{typeName}' object has no attribute '{wanted}'"
  | badFile fault name => fault.message name
  | outsideCalendar => "date value out of range"

/-- The error for a value that is none of the members of an enumeration. -/
def noMember (value : Json) (list : String) : Problem :=
  badValue s!"{value.display} is not a valid {list}"

/-- Whether the problem is an `OrchestratorError`. -/
def isOrchestration : Problem → Bool
  | orchestration _ | unauthenticated _ | creationFailed _ | batchFailed .. => true
  | _ => false

/-- Whether the problem is an `IntegrationError`. -/
def isIntegration : Problem → Bool
  | integration _ | generation .. => true
  | problem => problem.isOrchestration

end Problem

/-- A problem with its causes. -/
structure Failure where
  /-- The problem. -/
  problem : Problem
  /-- The causes, the nearest first. -/
  causes : List Problem := []
deriving DecidableEq, Inhabited

namespace Failure

instance : Coe Problem Failure := ⟨fun problem => ⟨problem, []⟩⟩

/-- The message of a failure. -/
def message (failure : Failure) : String := failure.problem.message

/-- A problem caused by a failure. -/
def because (problem : Problem) (failure : Failure) : Failure :=
  ⟨problem, failure.problem :: failure.causes⟩

/-- The direct cause. -/
def cause? (failure : Failure) : Option Problem := failure.causes.head?

end Failure

/-- The members of a value that should be an object, for a caller that wants this attribute of it. -/
def Json.fieldsFor (wanted : String) : Json → Except Problem Fields
  | obj fields => .ok fields
  | other => .error (.noAttribute other.typeName wanted)

/-- The reason with a JSON value. -/
def GenerationFailure.ofJson (value : Json) : Except Problem GenerationFailure :=
  match value.text?.bind ofName? with
  | some reason => .ok reason
  | none => .error (.noMember value "GenerationFailure")

/-- The locale with a JSON value. -/
def Locale.ofJson (value : Json) : Except Problem Locale :=
  match ofJson? value with
  | some locale => .ok locale
  | none => .error (.noMember value "Locale")

/-! ## Refusals from answers -/

namespace ModelRefusal

/-- A member of an answer, or else of its `error` member.  If the answer or its `error` is no object, there is
none. -/
def lookup (name : String) (answer : Json) : Json :=
  match answer.fields?, ((answer.get? "error").getD (.obj [])).fields? with
  | some fields, some inner => (fields.get? name).getD ((inner.get? name).getD .null)
  | _, _ => .null

/-- The refusal in an answer with this status code and body; an array of one answer stands for that answer, and
without a status code, or with zero, the code is taken from the body. -/
def ofAnswer (blame : Blame) (code answer : Json) : ModelRefusal :=
  let body :=
    match answer with
    | .arr [only] => only
    | _ => answer
  { blame
    code := if code.truthy then code else lookup "code" body
    status := lookup "status" body
    body }

end ModelRefusal

namespace FormsRefusal

/-- The members that may hold the details of an error, of which the first present one counts. -/
def detailNames : List String := ["detail", "details", "errors", "message"]

/-- The message and the details of an error in the body of an answer, where it has the usual shape. -/
def described? (body : Json) : Option (Json × Json) := do
  match body with
  | .obj _ =>
    let error ← body.get? "error"
    let message ← error.get? "message"
    return (message, (detailNames.findSome? (Json.get? · error)).getD (.str ""))
  | .arr (first :: _) =>
    let error ← first.get? "error"
    let message ← error.get? "message"
    return (message, (error.get? "details").getD (.str ""))
  | _ => none

/-- The details of an answer whose body has another shape. -/
def otherDetails : Json → Json
  | .obj _ | .arr (_ :: _) => .str ""
  | body => body

/-- The message and the details of an error in an answer with this reason and content, read within these limits.
Content that is no JSON is itself the details, and content with a number too long for the reader says nothing; any
other limit of the reader is a problem with the answer. -/
def described (limits : Json.Limits) (reason : Option String) (content : String) :
    Except Problem (Json × Json) :=
  let usual (body : Json) := (described? body).getD (.ofText? reason, otherDetails body)
  match Json.parseWithin limits content with
  | .ok value => return usual value
  | .error fault =>
    match fault.reason with
    | .longInteger .. => return (.ofText? reason, .str "")
    | .deepArray | .deepObject | .halfPair => throw (.malformedJson fault)
    | _ => return usual (.str content)

/-- The refusal in an answer whose content is read within these limits.  A reason that is no string cannot be
stripped. -/
def ofAnswer (limits : Json.Limits) (status : Int) (reason : Option String) (content : String) :
    Except Problem FormsRefusal := do
  let (message, details) ← described limits reason content
  match message with
  | .null => return ⟨status, "", details⟩
  | .str text => return ⟨status, Text.strip text, details⟩
  | other => throw (Problem.noAttribute other.typeName "strip")

end FormsRefusal

end Formwork
