import Formwork.Account.SignIn
import Formwork.Generation.Prompt
import Formwork.Schema.Reading
/-!
# Requests and responses

A request has a method and a path, and may have query parameters and a body.  A response has a status and a JSON
value, a text or a redirect.  `Response.ofFailure` is the response of the exception handlers, and
`Response.rejected` the 422 response to a request that does not fit its model.
-/
namespace Formwork

/-- The body of a request. -/
inductive Body
  /-- There is no body. -/
  | absent
  /-- The body is no JSON: the offset of the fault, and the message of the parser. -/
  | malformed (offset : Nat) (words : String)
  /-- The body cannot be decoded, or is beyond the limits of the reader. -/
  | unreadable
  /-- The body is this JSON value. -/
  | value (json : Json)
deriving DecidableEq, Inhabited

/-- The body whose bytes are the UTF-8 encoding of a text, read within these limits. -/
def Body.ofText (limits : Json.Limits) (text : String) : Body :=
  if text = "" then .absent
  else
    match Text.jsonChars? text.toList with
    | none => .unreadable
    | some chars =>
      match Json.readChars limits chars with
      | .ok json => .value json
      | .error fault =>
        if fault.reason.isLimit then .unreadable
        else .malformed fault.position.offset fault.reason.words

/-- A request. -/
structure Request where
  /-- The method, in capitals. -/
  method : String
  /-- The path. -/
  path : String
  /-- The query parameters. -/
  query : List (String × String) := []
  /-- The scheme and host by which the client reached the server. -/
  origin : String := ""
  /-- The body. -/
  body : Body := .absent
deriving DecidableEq, Inhabited

namespace Request

/-- The last value of a query parameter. -/
def parameter? (name : String) (request : Request) : Option String := request.query.reverse.lookup name

/-- The `account` parameter. -/
def account (request : Request) : String := (request.parameter? "account").getD Account.default

end Request

/-- The content of a response. -/
inductive Content
  | json (value : Json)
  | text (text : String)
  | redirect (link : Link)
deriving DecidableEq, Inhabited

/-- A response. -/
structure Response where
  /-- The status. -/
  status : Nat
  /-- The content. -/
  content : Content
deriving DecidableEq, Inhabited

namespace Response

/-- The 200 response with a JSON value. -/
def ok (value : Json) : Response := ⟨200, .json value⟩

/-- The 500 response to an exception without a handler. -/
def unforeseen : Response := ⟨500, .text "Internal Server Error"⟩

/-- The response with an `error_code`, a `message` and further members. -/
def error (status : Nat) (code message : String) (more : Fields) : Response :=
  ⟨status, .json (.obj (("error_code", .str code) :: ("message", .str message) :: more))⟩

/-- The response with a `detail`. -/
def detail (status : Nat) (text : String) : Response := ⟨status, .json (.obj [("detail", .str text)])⟩

/-- The response to a body that cannot be read. -/
def unreadable : Response := detail 400 "There was an error parsing the body"

/-- The response to a `GenerationError`. -/
def generationFailed (reason : GenerationFailure) (message : String) : Response :=
  error (if reason = .invalidKey then 401 else 502) ("generation_" ++ reason.name)
    (Generation.remediation .en reason) [("detail", .str message)]

/-- The response of the exception handler for a failure. -/
def ofFailure (failure : Failure) : Response :=
  match failure.problem with
  | .invalidForm field reason => error 422 "validation_error" reason [("field", .str field)]
  | .compilation message => error 500 "compilation_error" message []
  | .generation reason message => generationFailed reason message
  | .unauthenticated message => error 401 "unauthenticated" message []
  | .batchFailed _ formId =>
    error 502 "batch_mutation_failed" failure.message [("form_id", .str formId)]
  | .creationFailed message | .orchestration message => error 502 "creation_failed" message []
  | .authentication message => error 401 "auth_error" message []
  | .integration message => error 500 "integration_error" message []
  | .rateLimit message => error 429 "rate_limit" message []
  | _ => unforeseen

/-- A step of a `loc`. -/
def placeJson : Place → Json
  | .key name => .str name
  | .index position => .int position

/-- An issue in a 422 report, with its input, and with its `ctx` where it has one. -/
def issueJson (issue : Issue) : Json :=
  .obj ([
    ("type", .str issue.complaint.kind),
    ("loc", .arr (issue.place.map placeJson)),
    ("msg", .str issue.complaint.message),
    ("input", issue.given)]
    ++ if issue.complaint.context.isEmpty then [] else [("ctx", .obj issue.complaint.context)])

/-- The 422 response to a request with issues.  The report repeats the input of each issue, which fails for
numbers that are not finite. -/
def rejected (issues : List Issue) : Response :=
  if issues.all fun issue => issue.given.allFinite then
    ⟨422, .json (.obj [("detail", .arr (issues.map issueJson))])⟩
  else
    unforeseen

end Response
end Formwork
