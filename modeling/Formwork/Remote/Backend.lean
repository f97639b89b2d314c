import Formwork.Account.Session
import Formwork.Definition.Validity
import Formwork.Plan.Compile
import Formwork.Remote.Orchestrator
/-!
# The Forms API backend

`GoogleFormsBackend`: the API client is built on first use, with the token of the session.  Requests are sent once.
A refused request becomes a rate limit, an authentication or an integration error (`_handle_api_error`).
-/
namespace Formwork

namespace FormsService

/-- The name of the API. -/
def name : String := "forms"

/-- The version of the API. -/
def version : String := "v1"

/-- The discovery document of the API. -/
def discoveryUrl : String := "https://forms.googleapis.com/$discovery/rest?version=v1"

/-- The body of the request that creates a form. -/
def shellBody (title : String) : Json :=
  .obj [("info", .obj [("title", .str title), ("documentTitle", .str title)])]

/-- The body of a batchUpdate. -/
def fillBody (plan : Plan) : Json := .obj [("requests", .arr plan.requests)]

/-- The address of the editor of a form (`_form_url`). -/
def editUrl (formId : String) : String := s!"https://docs.google.com/forms/d/{formId}/edit"

/-- The failure of a refused request (`_handle_api_error`); other failures pass unchanged. -/
def ofFailedCall (failure : Failure) : Failure :=
  match failure.problem with
  | .formsRefusal refusal =>
    if refusal.status = 429 then
      .because (.rateLimit "Forms API rate limit exceeded. Try again shortly.") failure
    else if refusal.status = 401 ∨ refusal.status = 403 then
      .because
        (.authentication
          ("Forms credentials expired or revoked. "
            ++ "Visit /auth/forms/setup to re-authenticate.")) failure
    else
      .because (.integration s!"Forms API error: {refusal.reason}") failure
  | _ => failure

/-- The form shell in the answer of the API. -/
def shell {σ : Type} (answer : Json) : Act σ FormShell := do
  let fields ← .ofProblem (answer.fieldsFor "get")
  let formId := (fields.get? "formId").getD (.str "")
  let shareUrl := (fields.get? "responderUri").getD (.str "")
  .ofReading "FormShell" (FormShell.read (.obj [
    ("id", formId),
    ("edit_url", .str (if formId.truthy then editUrl formId.bare else "")),
    ("share_url", shareUrl)]))

end FormsService

/-- Where the backend gets its token from. -/
inductive TokenSource
  /-- A fixed outcome. -/
  | fixed (outcome : Outcome Json)
  /-- The token of an account. -/
  | account (name : String)

/-- The token of a source. -/
def TokenSource.token : TokenSource → Act World Json
  | fixed outcome => .ofProblem outcome
  | account name => Account.token name

/-- The world, and whether the client has been built. -/
structure Connection where
  /-- The world. -/
  world : World
  /-- Whether the client has been built. -/
  isOpen : Bool := false

namespace Connection

/-- An activity in the world. -/
def inWorld {α : Type} (act : Act World α) : Act Connection α := fun connection =>
  match act.run connection.world with
  | (result, world) => (result, { connection with world })

/-- The failure to obtain a token. -/
def noToken (failure : Failure) : Failure :=
  match failure.problem with
  | .authentication _ => failure
  | problem =>
    .because
      (.authentication (s!"Failed to obtain Forms credentials: {problem.message}. "
        ++ "Visit /auth/forms/setup to re-authenticate."))
      failure

/-- Builds the client if there is none (`_get_service`). -/
def connect (source : TokenSource) : Act Connection Unit := do
  let connection ← .state
  if connection.isOpen then pure ()
  else
    let token ← (inWorld source.token).mapFailure noToken
    inWorld (.change (World.called (.connect token)))
    .change fun connection => { connection with isOpen := true }

/-- Creates a form with a title (`create_shell`). -/
def createShell (source : TokenSource) (title : String) : Act Connection FormShell := do
  connect source
  let answer ←
    (inWorld (World.createForm (FormsService.shellBody title))).mapFailure FormsService.ofFailedCall
  FormsService.shell answer

/-- Sends a plan as one batchUpdate (`batch_mutate`). -/
def fill (source : TokenSource) (formId : String) (plan : Plan) : Act Connection Unit := do
  connect source
  let _ ← (inWorld (World.fillForm formId (FormsService.fillBody plan))).mapFailure
    FormsService.ofFailedCall

/-- The collaborators of the orchestrator for an account. -/
def collaborators (session : AccountSession) : Collaborators Connection where
  isSignedIn := inWorld session.isSignedIn
  createShell := createShell (.account session.account)
  plan d := pure d.plan
  fill := fill (.account session.account)

end Connection

namespace Account

/-- Creates a form from a definition for an account. -/
def createForm (account : String) (d : Definition) : Act World RemoteForm := do
  let session ← AccountSession.start account
  let world ← .state
  let report :=
    Orchestrator.create (Connection.collaborators session) d .fresh ⟨world, false⟩
  .change fun _ => report.state.world
  World.log (report.events.filterMap Event.record?)
  .ofExcept report.result

end Account
end Formwork
