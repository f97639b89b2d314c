import Formwork.Proofs.Act
import Formwork.Proofs.Definition.Faults
import Formwork.Proofs.Definition.Wire
import Formwork.Proofs.Service.Serving
import Formwork.Service.Tool

/-!
# Jobs that both interfaces run

Scripts, batchUpdate requests and remote forms are served by `POST /api/forms/script`, `/mutations` and `/remote`,
and by the tools `forms_compile_script`, `forms_compile_mutations` and `forms_create_remote`.  Both interfaces run
the same job: `SharedJob.make` validates the definition and compiles or creates.  They differ in how they read
their input and in how they wrap the result, so they end in the same world (`SharedJob.same_world`).
-/
namespace Formwork

/-! ### Answers of tools -/

namespace Tool

/-- The result of a tool: a known failure becomes an error object for the locale, any other is raised. -/
def reply (locale : Locale) : Except Failure Json → Except Failure Json
  | .ok value => .ok value
  | .error failure =>
    if isAnswered failure.problem then
      (problemDocument (.str locale.code) failure.problem).mapError (⟨·, []⟩)
    else .error failure

theorem run_answering (locale : Locale) (act : Act World Json) (w : World) :
    (answering (.str locale.code) act).run w = (reply locale (act.run w).1, (act.run w).2) := by
  simp only [answering, Act.run]
  rcases act w with ⟨failure | value, v⟩
  · cases hanswered : isAnswered failure.problem <;> simp [reply, hanswered]
  · rfl

end Tool

/-! ### Shared jobs -/

/-- A job that has an endpoint and a tool. -/
inductive SharedJob
  | script (resultsSheet : Bool) (locale : Locale)
  | requests
  | remoteForm (account : String)
deriving DecidableEq

namespace SharedJob

/-- The HTTP request for a job, with a value in the place of the definition. -/
def request (given : Json) : SharedJob → Request
  | script resultsSheet locale =>
    .posting "/api/forms/script" [] "" (.obj [
      ("definition", given),
      ("create_results_sheet", .bool resultsSheet),
      ("locale", .str locale.code)])
  | requests => .posting "/api/forms/mutations" [] "" given
  | remoteForm account => .posting "/api/forms/remote" [("account", account)] "" given

/-- The tool call for a job, with a value in the place of the definition. -/
def call (given : Json) : SharedJob → Act World Json
  | script resultsSheet locale =>
    Tool.compileScript.call [
      ("definition", given),
      ("create_results_sheet", .bool resultsSheet),
      ("locale", .str locale.code)]
  | requests => Tool.compileRequests.call [("definition", given)]
  | remoteForm account => Tool.createRemote.call [("definition", given), ("account", .str account)]

/-! ### The job -/

/-- The part of a job that follows validation. -/
def finish (d : Definition) : SharedJob → Act World Json
  | script resultsSheet locale => .str <$> Job.scriptOf d ⟨resultsSheet, locale⟩
  | requests => pure (Endpoint.requestsDocument d.plan.requests)
  | remoteForm account => RemoteForm.document <$> Account.createForm account d

/-- A job on a definition as it was read. -/
def make (raw : Definition) (job : SharedJob) : Act World Json := do
  let d ← Job.validate raw
  job.finish d

/-- The body of the HTTP response with a product. -/
def served (made : Json) : SharedJob → Json
  | script _ locale => .obj [("script", made), ("locale", .str locale.code)]
  | requests | remoteForm _ => made

/-- The result of the tool with a product. -/
def called (made : Json) : SharedJob → Json
  | script .. => .obj [("script", made), ("entry_function", .str Script.entryFunction)]
  | requests | remoteForm _ => made

/-- The endpoint of a job. -/
def endpoint : SharedJob → Endpoint
  | script .. => .script
  | requests => .requests
  | remoteForm _ => .remoteForm

variable {job : SharedJob} {given : Json} {raw d : Definition} {w v : World} {failure : Failure}
  {issues : List Issue}

theorem serve_request (job : SharedJob) (given : Json) (w : World) :
    Server.serve (job.request given) w =
      Server.settle (job.endpoint.answer (job.request given)) w := by
  cases job with
  | script resultsSheet locale =>
    have hpath : Endpoint.ofPath? "/api/forms/script" = some .script := by decide
    exact Server.serve_eq hpath rfl w
  | requests =>
    have hpath : Endpoint.ofPath? "/api/forms/mutations" = some .requests := by decide
    exact Server.serve_eq hpath rfl w
  | remoteForm account =>
    have hpath : Endpoint.ofPath? "/api/forms/remote" = some .remoteForm := by decide
    exact Server.serve_eq hpath rfl w

theorem read_scriptBody (resultsSheet : Bool) (locale : Locale) (given : Json) :
    ScriptRequest.read (.obj [
        ("definition", given),
        ("create_results_sheet", .bool resultsSheet),
        ("locale", .str locale.code)]) =
      ScriptRequest.mk
        <$> (Definition.read .request given).under (.key "definition")
        <*> .done resultsSheet
        <*> .done locale := by
  cases resultsSheet <;> cases locale <;> rfl

/-- The endpoint answers with the product of the job. -/
theorem answer_of_done (job : SharedJob) (h : Definition.read .request given = .done raw) :
    job.endpoint.answer (job.request given) =
      job.make raw >>= fun made => pure (.ok (job.served made)) := by
  cases job with
  | script resultsSheet locale =>
    have hbody := read_scriptBody resultsSheet locale given
    rw [h] at hbody
    rw [endpoint, Endpoint.answer, Endpoint.withBody_of_done rfl hbody, Endpoint.answerScript,
      Job.script, make, bind_assoc, bind_assoc]
    simp only [finish, bind_map_left]
    rfl
  | requests =>
    rw [endpoint, Endpoint.answer, Endpoint.withBody_of_done rfl h, Endpoint.answerRequests,
      Job.requests, make, bind_assoc, bind_assoc]
    rfl
  | remoteForm account =>
    rw [endpoint, Endpoint.answer, Endpoint.withBody_of_done rfl h, Endpoint.answerRemoteForm,
      Job.createForm, make, bind_assoc, bind_assoc]
    simp only [finish, bind_map_left]
    rfl

/-- The 422 report can be written: it repeats the input of every issue, and NaN and infinities are no JSON. -/
def Printable (issues : List Issue) : Prop := ∀ issue ∈ issues, issue.given.allFinite = true

theorem printable_under (step : Place) (issues : List Issue) :
    Printable (issues.map (Issue.under step)) ↔ Printable issues := by
  simp [Printable, Issue.under]

theorem rejected_of_printable (h : Printable issues) :
    Response.rejected issues = ⟨422, .json (.obj [("detail", .arr (issues.map Response.issueJson))])⟩ :=
  if_pos (List.all_eq_true.mpr h)

theorem rejected_of_not_printable (h : ¬ Printable issues) :
    Response.rejected issues = .unforeseen :=
  if_neg fun hall => h (List.all_eq_true.mp hall)

theorem answer_of_failed (job : SharedJob) (h : Definition.read .request given = .failed issues) :
    ∃ issues', job.endpoint.answer (job.request given) = pure (.rejected issues') ∧
      (Printable issues' ↔ Printable issues) := by
  cases job with
  | script resultsSheet locale =>
    have hbody := read_scriptBody resultsSheet locale given
    rw [h] at hbody
    rw [endpoint, Endpoint.answer, Endpoint.withBody_of_failed rfl hbody]
    exact ⟨_, rfl, (printable_under _ _).trans (printable_under _ _)⟩
  | requests =>
    rw [endpoint, Endpoint.answer, Endpoint.withBody_of_failed rfl h]
    exact ⟨_, rfl, printable_under _ _⟩
  | remoteForm account =>
    rw [endpoint, Endpoint.answer, Endpoint.withBody_of_failed rfl h]
    exact ⟨_, rfl, printable_under _ _⟩

theorem requestedLocale_code (locale : Locale) :
    Script.requestedLocale (.str locale.code) = .ok locale := by
  cases locale <;> rfl

/-- The tool reads the definition and answers with the product of the job. -/
theorem call_eq (job : SharedJob) (given : Json) :
    job.call given = Tool.answering (.str Locale.en.code) (do
      let raw ← Tool.definition given
      let made ← job.make raw
      return job.called made) := by
  cases job with
  | script resultsSheet locale =>
    have hcall : call given (script resultsSheet locale) =
        Tool.answering (.str Locale.en.code) (do
          let normal ← Job.validate (← Tool.definition given)
          let language ← .ofExcept (Script.requestedLocale (.str locale.code))
          let script ← Job.scriptOf normal ⟨resultsSheet, language⟩
          return .obj [("script", .str script), ("entry_function", .str Script.entryFunction)]) := by
      cases resultsSheet <;> rfl
    rw [hcall, requestedLocale_code]
    simp only [make, finish, bind_assoc, bind_map_left]
    rfl
  | requests =>
    have hcall : call given requests =
        Tool.answering (.str Locale.en.code) (do
          let requests ← Job.requests (← Tool.definition given)
          return Endpoint.requestsDocument requests) := rfl
    rw [hcall]
    simp only [Job.requests, make, bind_assoc]
    rfl
  | remoteForm account =>
    have hcall : call given (remoteForm account) =
        Tool.answering (.str Locale.en.code) (do
          let form ← Job.createForm account (← Tool.definition given)
          return form.document) := rfl
    rw [hcall]
    simp only [Job.createForm, make, finish, bind_assoc, bind_map_left]
    rfl

theorem definition_of_done (h : Definition.read .value given = .done raw) :
    Tool.definition given = pure raw := by
  rw [Tool.definition, h]
  rfl

theorem definition_of_failed (h : Definition.read .value given = .failed issues) :
    Tool.definition given = .fail (Problem.misshapen "FormDefinition" issues) := by
  rw [Tool.definition, h]
  rfl

theorem run_make_invalid {defect : Defect} (h : raw.validate = .error defect) (job : SharedJob)
    (w : World) : (job.make raw).run w = (.error (Job.invalid defect), w) :=
  Job.run_bind_validate_error h job.finish w

theorem run_make_valid (h : raw.validate = .ok d) (job : SharedJob) (w : World) :
    (job.make raw).run w =
      (job.finish d).run (w.logged (raw.droppedAnswers.map Job.dropped)) :=
  Job.run_bind_validate_ok h job.finish w

/-! ### The two interfaces -/

theorem serve_of_done (job : SharedJob) (h : Definition.read .request given = .done raw) (w : World) :
    Server.serve (job.request given) w =
      (.ofResult (((job.make raw).run w).1.map fun made => .ok (job.served made)),
        ((job.make raw).run w).2) := by
  rw [serve_request, answer_of_done job h, Server.settle_eq, Act.run_bind_pure]

theorem serve_of_failed (job : SharedJob) (h : Definition.read .request given = .failed issues)
    (w : World) :
    ∃ issues', Server.serve (job.request given) w = (.rejected issues', w) ∧
      (Printable issues' ↔ Printable issues) := by
  obtain ⟨issues', hanswer, hprintable⟩ := answer_of_failed job h
  exact ⟨issues', by rw [serve_request, hanswer]; rfl, hprintable⟩

/-- A definition that the server reads, the tool reads alike. -/
theorem run_call_of_done (job : SharedJob) (h : Definition.read .request given = .done raw)
    (w : World) :
    (job.call given).run w =
      (Tool.reply .en (((job.make raw).run w).1.map job.called), ((job.make raw).run w).2) := by
  have hvalue := Definition.value?_read_congr .request .value given
  rw [h] at hvalue
  rw [call_eq, definition_of_done (Reading.value?_eq_some.mp hvalue.symm), pure_bind,
    Tool.run_answering, Act.run_bind_pure]

/-- A value that the server does not read as a definition, the tool does not read either. -/
theorem run_call_of_failed (job : SharedJob) (h : Definition.read .request given = .failed issues)
    (w : World) :
    ∃ issues', (job.call given).run w =
      (Tool.reply .en (.error (Problem.misshapen "FormDefinition" issues')), w) := by
  have hvalue := Definition.value?_read_congr .request .value given
  rw [h] at hvalue
  rcases hread : Definition.read .value given with raw | issues'
  · rw [hread] at hvalue
    cases hvalue
  · refine ⟨issues', ?_⟩
    rw [call_eq, definition_of_failed hread, Tool.run_answering]
    rfl

/-- **Both interfaces end in the same world.** -/
theorem same_world (job : SharedJob) (given : Json) (w : World) :
    ((job.call given).run w).2 = (Server.serve (job.request given) w).2 := by
  rcases hread : Definition.read .request given with raw | issues
  · rw [serve_of_done job hread, run_call_of_done job hread]
  · obtain ⟨issues', hserve, -⟩ := serve_of_failed job hread w
    obtain ⟨issues'', hcall⟩ := run_call_of_failed job hread w
    rw [hserve, hcall]

end SharedJob
end Formwork
