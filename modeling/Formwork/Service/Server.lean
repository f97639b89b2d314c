import Formwork.Definition.Document
import Formwork.Service.Job
import Formwork.Service.Message
/-!
# The server

The HTTP application: every endpoint has one method and one path.  A path that differs from that of an endpoint in
trailing slashes is redirected, and any other path is not found.  The outer application answers local clients only
(`LocalhostOnlyMiddleware`).
-/
namespace Formwork

/-- The body of `/api/forms/generate` (`GenerateFormRequest`). -/
structure GenerateRequest where
  /-- The text. -/
  text : String
  /-- The locale of messages. -/
  locale : Locale
deriving DecidableEq, Inhabited

/-- The body of `/api/forms/script` (`CompileScriptRequest`). -/
structure ScriptRequest where
  /-- The definition. -/
  definition : Definition
  /-- Whether the script also creates a spreadsheet of responses. -/
  resultsSheet : Bool
  /-- The locale of the script. -/
  locale : Locale
deriving DecidableEq, Inhabited

/-- The locale of a JSON value. -/
def Locale.read : Json → Reading Locale := .member Locale.ofCode? (Locale.all.map Locale.code)

namespace GenerateRequest

/-- The request model of `/api/forms/generate`. -/
def read : Json → Reading GenerateRequest :=
  Reading.object .request "GenerateFormRequest" fun fields =>
    GenerateRequest.mk
      <$> (FieldName.only "text").required .text fields
      <*> (FieldName.only "locale").withDefault .en Locale.read fields

end GenerateRequest

namespace ScriptRequest

/-- The request model of `/api/forms/script`. -/
def read : Json → Reading ScriptRequest :=
  Reading.object .request "CompileScriptRequest" fun fields =>
    ScriptRequest.mk
      <$> (FieldName.only "definition").required (Definition.read .request) fields
      <*> (FieldName.only "create_results_sheet").withDefault false .truth fields
      <*> (FieldName.only "locale").withDefault .en Locale.read fields

end ScriptRequest

/-- The endpoints of the server. -/
inductive Endpoint
  | setup
  | callback
  | accounts
  | signInStatus
  | generate
  | validate
  | script
  | requests
  | remoteForm
  | status
deriving DecidableEq, Inhabited

namespace Endpoint

/-- The endpoints. -/
def all : List Endpoint :=
  [setup, callback, accounts, signInStatus, generate, validate, script, requests, remoteForm, status]

/-- The path of an endpoint. -/
def path : Endpoint → String
  | setup => "/auth/forms/setup"
  | callback => "/auth/forms/callback"
  | accounts => "/auth/forms/accounts"
  | signInStatus => "/auth/forms/status"
  | generate => "/api/forms/generate"
  | validate => "/api/forms/validate"
  | script => "/api/forms/script"
  | requests => "/api/forms/mutations"
  | remoteForm => "/api/forms/remote"
  | status => "/api/status"

/-- The method of an endpoint. -/
def method : Endpoint → String
  | generate | validate | script | requests | remoteForm => "POST"
  | _ => "GET"

/-- The endpoint of a path. -/
def ofPath? (path : String) : Option Endpoint := all.find? fun endpoint => endpoint.path == path

/-- The status of the sign-in of an account (`StatusResponse`). -/
def signInDocument (authenticated : Bool) (message : String) : Json :=
  .obj [
    ("integration", .str Account.service),
    ("authenticated", .bool authenticated),
    ("message", .str message)]

/-- The response of an endpoint with a body.  The body `null` is a JSON value that does not fit the model; only an
absent body is missing. -/
def withBody {α : Type} (read : Json → Reading α) (request : Request)
    (answer : α → Act World Response) : Act World Response :=
  match request.body with
  | .absent => pure (.rejected [⟨[.key "body"], .missing, .null⟩])
  | .malformed offset words => pure (.rejected [⟨[.key "body", .index offset], .noJson words, .obj []⟩])
  | .unreadable => pure .unreadable
  | .value json =>
    match (read json).under (.key "body") with
    | .done value => answer value
    | .failed issues => pure (.rejected issues)

/-- `GET /auth/forms/setup`: a redirect to the consent page. -/
def answerSetup (request : Request) : Act World Response := do
  let link ← SignIn.page request.account
  return ⟨307, .redirect link⟩

/-- `GET /auth/forms/callback`: exchanges the code and saves the credentials. -/
def answerCallback (request : Request) : Act World Response :=
  match request.parameter? "code" with
  | none => pure (.rejected [⟨[.key "query", .key "code"], .missing, .null⟩])
  | some code => do
    let account ← SignIn.finish code ((request.parameter? "state").getD "")
    return .ok (signInDocument true
      s!"Forms account '{account}' authenticated successfully. You can close this tab.")

/-- `GET /auth/forms/accounts`: the accounts in the token store. -/
def answerAccounts : Act World Response := do
  let store ← TokenStore.current
  let accounts ← store.accounts
  return .ok (.obj [("accounts", .texts accounts)])

/-- `GET /auth/forms/status`: whether an account is signed in. -/
def answerSignInStatus (request : Request) : Act World Response := do
  let account := request.account
  let session ← AccountSession.start account
  let signedIn ← session.isSignedIn
  return .ok (signInDocument signedIn
    (if signedIn then "Authenticated" ++ Account.label account
    else s!"Not authenticated{Account.label account} — visit {Account.setupPath account}"))

/-- `GET /api/status`: which services are ready. -/
def answerStatus : Act World Response := do
  let store ← TokenStore.current
  let accounts ← store.accounts
  let settings ← World.currentSettings
  return .ok (.obj [
    ("forms", .obj [
      ("authenticated_accounts", .texts accounts),
      ("ready", .bool !accounts.isEmpty)]),
    ("gemini", .obj [("ready", .bool (settings.geminiApiKey ≠ ""))])])

/-- `POST /api/forms/generate`: the definition that the model makes of a text. -/
def answerGenerate (asked : GenerateRequest) : Act World Response := do
  let d ← Job.generate asked.text asked.locale
  return .ok d.document

/-- `POST /api/forms/validate`: the validated definition. -/
def answerValidate (d : Definition) : Act World Response := do
  let normal ← Job.validate d
  return .ok normal.document

/-- `POST /api/forms/script`: the script of a definition. -/
def answerScript (asked : ScriptRequest) : Act World Response := do
  let script ← Job.script asked.definition ⟨asked.resultsSheet, asked.locale⟩
  return .ok (.obj [("script", .str script), ("locale", .str asked.locale.code)])

/-- The batchUpdate requests of a definition, with their number. -/
def requestsDocument (requests : List Json) : Json :=
  .obj [("requests", .arr requests), ("count", .int requests.length)]

/-- `POST /api/forms/mutations`: the batchUpdate requests of a definition. -/
def answerRequests (d : Definition) : Act World Response := do
  let requests ← Job.requests d
  return .ok (requestsDocument requests)

/-- `POST /api/forms/remote`: the remote form of a definition. -/
def answerRemoteForm (account : String) (d : Definition) : Act World Response := do
  let form ← Job.createForm account d
  return .ok form.document

/-- The response of an endpoint. -/
def answer (request : Request) : Endpoint → Act World Response
  | setup => answerSetup request
  | callback => answerCallback request
  | accounts => answerAccounts
  | signInStatus => answerSignInStatus request
  | generate => withBody GenerateRequest.read request answerGenerate
  | validate => withBody (Definition.read .request) request answerValidate
  | script => withBody ScriptRequest.read request answerScript
  | requests => withBody (Definition.read .request) request answerRequests
  | remoteForm => withBody (Definition.read .request) request (answerRemoteForm request.account)
  | status => answerStatus

end Endpoint

namespace Server

/-- The path with its trailing slashes removed, or with one added. -/
def otherEnding (path : String) : String :=
  match path.toList.reverse with
  | '/' :: rest => String.ofList (rest.dropWhile (· = '/')).reverse
  | _ => path ++ "/"

/-- The response to a HEAD request has no content. -/
def head (request : Request) (response : Response) : Response :=
  match response.content with
  | .json _ => if request.method = "HEAD" then { response with content := .text "" } else response
  | _ => response

/-- The response of an activity; a failure goes to the exception handlers. -/
def settle (act : Act World Response) (world : World) : Response × World :=
  match act.run world with
  | (.ok response, world) => (response, world)
  | (.error failure, world) => (.ofFailure failure, world)

/-- The response of the inner application to a request. -/
def serve (request : Request) (world : World) : Response × World :=
  match Endpoint.ofPath? request.path with
  | some endpoint =>
    if request.method = endpoint.method then settle (endpoint.answer request) world
    else (head request (.detail 405 "Method Not Allowed"), world)
  | none =>
    match Endpoint.ofPath? (otherEnding request.path) with
    | some endpoint => (⟨307, .redirect ⟨request.origin ++ endpoint.path, request.query⟩⟩, world)
    | none => (head request (.detail 404 "Not Found"), world)

/-- The addresses of local clients. -/
def localClients : List String := ["127.0.0.1", "::1", "localhost"]

/-- The response of the outer application to a request of a client. -/
def serveLocally (client : Option String) (request : Request) (world : World) : Response × World :=
  if localClients.any fun name => client = some name then serve request world
  else (head request (.error 403 "forbidden" "Localhost access only" []), world)

end Server
end Formwork
