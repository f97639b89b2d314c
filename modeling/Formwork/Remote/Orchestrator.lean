import Formwork.Act
import Formwork.Definition.Basic
import Formwork.Logging.Basic
import Formwork.Plan.Request
import Formwork.Schema.Reading
/-!
# The orchestrator of remote forms

`RemoteFormOrchestrator` creates a form in two sequential calls: one for the shell, and one batchUpdate with the
whole plan.  It goes through the states idle, creating, populating and done, and back to idle on any failure;
nothing is retried.

The session, the backend and the compiler are collaborators, which may change a state of their own and may fail.
`Orchestrator.create` reports the transitions, calls and log messages as events (`Event.record?`).
-/
namespace Formwork

/-- A form without items (`FormShell`). -/
structure FormShell where
  /-- The id of the form. -/
  id : String
  /-- The address of the editor. -/
  editUrl : String
  /-- The address for respondents. -/
  shareUrl : String
deriving DecidableEq, Inhabited

/-- The form shell of a JSON value. -/
def FormShell.read : Json → Reading FormShell :=
  Reading.object .value "FormShell" fun fields =>
    FormShell.mk
      <$> (FieldName.only "id").required .text fields
      <*> (FieldName.only "edit_url").required .text fields
      <*> (FieldName.only "share_url").required .text fields

/-- A created form (`RemoteForm`). -/
structure RemoteForm where
  /-- The id of the form. -/
  formId : String
  /-- The address of the editor. -/
  editUrl : String
  /-- The address for respondents. -/
  shareUrl : String
  /-- The number of operations in the batch. -/
  operationCount : Nat
deriving DecidableEq, Inhabited

/-- The dump of a created form. -/
def RemoteForm.document (form : RemoteForm) : Json :=
  .obj [
    ("form_id", .str form.formId),
    ("edit_url", .str form.editUrl),
    ("share_url", .str form.shareUrl),
    ("operation_count", .int form.operationCount)]

/-- The collaborators of the orchestrator. -/
structure Collaborators (σ : Type) where
  /-- Whether the session is signed in (`is_signed_in`). -/
  isSignedIn : Act σ Bool
  /-- Creates a form shell with a title (`create_shell`). -/
  createShell : String → Act σ FormShell
  /-- Compiles a definition. -/
  plan : Definition → Act σ Plan
  /-- Sends a plan for a form (`batch_mutate`). -/
  fill : String → Plan → Act σ Unit

/-- The states of the orchestrator (`OrchestratorState`). -/
inductive Phase
  | idle
  | creating
  | populating
  | done
deriving DecidableEq, Inhabited

/-- The value of a state. -/
def Phase.name : Phase → String
  | idle => "idle"
  | creating => "creating"
  | populating => "populating"
  | done => "done"

/-- An event in the work on a form. -/
inductive Event
  /-- A transition. -/
  | moved (before after : Phase)
  /-- A call for a form shell with this title. -/
  | shellRequested (title : String)
  /-- The call for a form shell failed. -/
  | shellFailed (message : String)
  /-- A batchUpdate of the form. -/
  | fillRequested (formId : String) (plan : Plan)
  /-- The batchUpdate or the compiler failed. -/
  | fillFailed (formId message : String)
  /-- The form was created, with so many operations. -/
  | filled (formId : String) (count : Nat)
deriving DecidableEq

/-- The log record of an event; calls have none. -/
def Event.record? : Event → Option LogRecord
  | moved before after =>
    some ⟨.debug, LogRecord.forms, s!"Orchestrator {before.name} -> {after.name}"⟩
  | shellFailed message =>
    some ⟨.error, LogRecord.forms, s!"Form shell creation failed: {message}"⟩
  | fillFailed formId message =>
    some ⟨.error, LogRecord.forms, s!"Batch update of form {formId} failed: {message}"⟩
  | filled formId count =>
    some ⟨.info, LogRecord.forms, s!"Created form {formId} with {count} operations"⟩
  | shellRequested _ | fillRequested .. => none

/-- The state of the orchestrator between forms. -/
structure Orchestrator where
  /-- The state. -/
  phase : Phase := .idle
  /-- The id of the form, while there is one. -/
  formId : Option String := none
  /-- The address for respondents, when the form is done. -/
  shareUrl : Option String := none
deriving DecidableEq, Inhabited

/-- The outcome of the work on a form. -/
structure Report (σ : Type) where
  /-- The orchestrator afterwards. -/
  orchestrator : Orchestrator
  /-- The state of the collaborators afterwards. -/
  state : σ
  /-- The form, or the failure. -/
  result : Except Failure RemoteForm
  /-- The events, in order. -/
  events : List Event

namespace Orchestrator

variable {σ : Type}

/-- A new orchestrator. -/
def fresh : Orchestrator := {}

/-- Back to idle, without a form (`reset`). -/
def reset (o : Orchestrator) : Orchestrator × List Event := (fresh, [.moved o.phase .idle])

/-- The error without a signed-in session. -/
def notSignedIn : Problem := .unauthenticated "Sign in with Google before creating a form."

/-- The error of an answer without a form id. -/
def nameless : Problem := .creationFailed "Failed to get formId from creation response."

/-- The failure to create the shell. -/
def shellFailure (failure : Failure) : Failure :=
  .because (.creationFailed s!"Could not create form. Reason: {failure.message}") failure

/-- The failure to populate a form. -/
def fillFailure (formId : String) (failure : Failure) : Failure :=
  .because (.batchFailed failure.message formId) failure

/-- Sends a plan.  An empty plan takes no call. -/
def carryOut (c : Collaborators σ) (formId : String) (plan : Plan) (state : σ) :
    Except Failure Unit × σ × List Event :=
  if plan = [] then (.ok (), state, [])
  else
    match (c.fill formId plan).run state with
    | (result, state) => (result, state, [.fillRequested formId plan])

/-- The end of the work after a failure to populate. -/
def abandon (shell : FormShell) (failure : Failure) (state : σ) (past : List Event) : Report σ :=
  ⟨fresh, state, .error (fillFailure shell.id failure),
    past ++ [.moved .populating .idle, .fillFailed shell.id failure.message]⟩

/-- The work on a form shell, after the events so far. -/
def populate (c : Collaborators σ) (d : Definition) (shell : FormShell) (state : σ)
    (past : List Event) : Report σ :=
  match (c.plan d).run state with
  | (.error failure, state) => abandon shell failure state past
  | (.ok plan, state) =>
    match carryOut c shell.id plan state with
    | (.error failure, state, calls) => abandon shell failure state (past ++ calls)
    | (.ok (), state, calls) =>
      ⟨⟨.done, some shell.id, some shell.shareUrl⟩, state,
        .ok ⟨shell.id, shell.editUrl, shell.shareUrl, plan.length⟩,
        past ++ calls ++ [.moved .populating .done, .filled shell.id plan.length]⟩

/-- The work on a form (`create_remote_form`). -/
def create (c : Collaborators σ) (d : Definition) (o : Orchestrator) (state : σ) : Report σ :=
  let past : List Event := [.moved o.phase .idle]
  match c.isSignedIn.run state with
  | (.error failure, state) => ⟨fresh, state, .error failure, past⟩
  | (.ok false, state) => ⟨fresh, state, .error notSignedIn, past⟩
  | (.ok true, state) =>
    let past := past ++ [.moved .idle .creating, .shellRequested d.title]
    match (c.createShell d.title).run state with
    | (.error failure, state) =>
      ⟨fresh, state, .error (shellFailure failure),
        past ++ [.moved .creating .idle, .shellFailed failure.message]⟩
    | (.ok shell, state) =>
      if shell.id = "" then
        ⟨fresh, state, .error nameless, past ++ [.moved .creating .idle]⟩
      else
        populate c d shell state (past ++ [.moved .creating .populating])

end Orchestrator
end Formwork
