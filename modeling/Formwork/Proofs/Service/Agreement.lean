import Formwork.Proofs.Remote.Failing
import Formwork.Proofs.Service.SharedJob

/-!
# Compilation and remote forms over HTTP and over MCP

The exception handlers of the server and `_handle_mcp_error` of the tools wrap products and failures differently.
A `Verdict` is the content of an answer without the wrapping.

The verdicts of the two interfaces agree but for two cases (`SharedJob.Apart`), in which the server answers 500 and
the tool answers `validation_error`.  In one the settings cannot be read, and the tool's `except ValidationError`
catches that error too.  In the other the body has a number that is not finite in the place of something else, so
that the 422 report cannot be written.
-/
namespace Formwork

/-! ### Verdicts -/

/-- What an answer to a job says, whichever interface it comes from. -/
inductive Verdict
  /-- The product of the job. -/
  | done (product : Json)
  /-- The value is no definition. -/
  | misread
  /-- A definition that `validate_definition` refuses. -/
  | invalid (field message : String)
  /-- No signed-in session. -/
  | signedOut (message : String)
  /-- The Forms API did not create the form. -/
  | unmade (message : String)
  /-- An exception that nothing handles. -/
  | broken
deriving DecidableEq

/-- The product in an answer: the script, or else all of the answer. -/
def SharedJob.product? (answer : Json) : SharedJob → Option Json
  | script .. => answer.get? "script"
  | requests | remoteForm _ => some answer

/-- The text of a member. -/
def Json.textAt? (name : String) (answer : Json) : Option String := (answer.get? name).bind Json.text?

/-- The verdict of an HTTP response. -/
def Response.verdict? (job : SharedJob) (response : Response) : Option Verdict :=
  if response.status = 500 then some .broken
  else
    match response.content with
    | .json answer =>
      if response.status = 200 then (job.product? answer).map .done
      else if response.status = 422 then
        if (answer.get? "detail").isSome then some .misread
        else if answer.get? "error_code" = some (.str "validation_error") then do
          return .invalid (← answer.textAt? "field") (← answer.textAt? "message")
        else none
      else if response.status = 401 ∧ answer.get? "error_code" = some (.str "unauthenticated") then
        (answer.textAt? "message").map .signedOut
      else if response.status = 502 then (answer.textAt? "message").map .unmade
      else none
    | _ => none

/-- The verdict of the result of a tool. -/
def Tool.verdict? (job : SharedJob) : Except Failure Json → Option Verdict
  | .error _ => some .broken
  | .ok answer =>
    match answer.get? "error" with
    | none => (job.product? answer).map .done
    | some kind =>
      if kind = .str "validation_error" then
        if (answer.get? "field").isSome then do
          return .invalid (← answer.textAt? "field") (← answer.textAt? "message")
        else some .misread
      else if kind = .str "auth_error" then (answer.textAt? "message").map .signedOut
      else if kind = .str "orchestrator_error" then (answer.textAt? "message").map .unmade
      else none

namespace SharedJob

variable {job : SharedJob} {given : Json} {raw d : Definition} {w v : World} {failure : Failure}
  {issues : List Issue}

/-! ### Failures of a job -/

/-- The product of a job has no member `error`. -/
theorem get?_error_called {made : Json} (h : (job.finish d).run w = (.ok made, v)) :
    (job.called made).get? "error" = none := by
  cases job with
  | script resultsSheet locale => rfl
  | requests =>
    cases h
    rfl
  | remoteForm account =>
    obtain ⟨form, -, rfl⟩ := Act.run_map_eq_ok h
    rfl

theorem run_finish_unsettled {account : String} (h : w.settingsNow = .error failure) :
    ((remoteForm account).finish d).run w = (.error failure, w) := by
  have hcreate : (Account.createForm account d).run w = (.error failure, w) :=
    Account.run_createForm_unsettled h
  exact Act.run_bind_error hcreate

/-- After validation only remote forms fail: over the form itself, or over the settings. -/
theorem failure_of_finish (h : (job.finish d).run w = (.error failure, v)) :
    RemoteForm.Unmade failure ∨
      ∃ account, job = remoteForm account ∧ w.settingsNow = .error failure := by
  cases job with
  | script resultsSheet locale => cases h
  | requests => cases h
  | remoteForm account =>
    have hcreate : (Account.createForm account d).run w = (.error failure, v) :=
      Act.run_map_eq_error h
    rcases hsettings : w.settingsNow with failure' | settings
    · rw [Account.run_createForm_unsettled hsettings] at hcreate
      cases hcreate
      exact Or.inr ⟨account, rfl, rfl⟩
    · exact Or.inl (Account.unmade_createForm hsettings hcreate)

/-! ### Verdicts agree -/

theorem verdict?_served (job : SharedJob) (made : Json) :
    (Response.ok (job.served made)).verdict? job = some (.done made) := by
  cases job <;> rfl

theorem verdict?_called {made : Json} (h : (job.called made).get? "error" = none) :
    Tool.verdict? job (.ok (job.called made)) = some (.done made) := by
  unfold Tool.verdict?
  simp only [h]
  cases job <;> rfl

theorem verdict?_invalid (job : SharedJob) (defect : Defect) :
    ∃ verdict, (Response.ofFailure (Job.invalid defect)).verdict? job = some verdict ∧
      Tool.verdict? job (Tool.reply .en (.error (Job.invalid defect))) = some verdict :=
  ⟨.invalid defect.field defect.reason, rfl, rfl⟩

/-- Both interfaces give the same verdict on a form that was not created. -/
theorem verdict?_unmade (job : SharedJob) (h : RemoteForm.Unmade failure) :
    ∃ verdict, (Response.ofFailure failure).verdict? job = some verdict ∧
      Tool.verdict? job (Tool.reply .en (.error failure)) = some verdict := by
  cases h with
  | unsure store =>
    obtain ⟨problem, causes⟩ := failure
    refine ⟨.broken, ?_⟩
    cases store <;> exact ⟨rfl, rfl⟩
  | signedOut => exact ⟨.signedOut _, rfl, rfl⟩
  | uncreated message causes => exact ⟨.unmade message, rfl, rfl⟩
  | unfilled message formId causes => exact ⟨.unmade _, rfl, rfl⟩

/-- A `ValidationError` is unhandled in the server, and the tool answers it as a fault of the definition. -/
theorem verdict?_misshapen (job : SharedJob) (model : String) (issues : List Issue) :
    (Response.ofFailure (Problem.misshapen model issues)).verdict? job = some .broken ∧
      Tool.verdict? job (Tool.reply .en (.error (Problem.misshapen model issues))) = some .misread :=
  ⟨rfl, rfl⟩

theorem verdict?_rejected (job : SharedJob) (issues : List Issue) :
    (Printable issues → (Response.rejected issues).verdict? job = some .misread) ∧
      (¬ Printable issues → (Response.rejected issues).verdict? job = some .broken) := by
  constructor
  · intro h
    rw [rejected_of_printable h]
    rfl
  · intro h
    rw [rejected_of_not_printable h]
    rfl

/-- The cases in which the two verdicts differ. -/
inductive Apart (given : Json) (w : World) : SharedJob → Prop
  /-- The value is no definition, and the report would have to repeat a number that is not finite. -/
  | unprintable {job : SharedJob} {issues : List Issue}
      (misread : Definition.read .request given = .failed issues) (endless : ¬ Printable issues) :
      Apart given w job
  /-- A remote form is requested, and the settings cannot be read. -/
  | unsettled {account : String} {raw d : Definition} {failure : Failure}
      (reads : Definition.read .request given = .done raw) (valid : raw.validate = .ok d)
      (settles : w.settingsNow = .error failure) : Apart given w (remoteForm account)

/-- The verdicts on a definition that is read agree. -/
theorem agree_of_done (hread : Definition.read .request given = .done raw)
    (hapart : ¬ job.Apart given w) :
    ∃ verdict, (Server.serve (job.request given) w).1.verdict? job = some verdict ∧
      Tool.verdict? job ((job.call given).run w).1 = some verdict := by
  rw [serve_of_done job hread, run_call_of_done job hread]
  rcases hvalidate : raw.validate with defect | d
  · rw [run_make_invalid hvalidate]
    exact verdict?_invalid job defect
  rw [run_make_valid hvalidate]
  rcases hfinish : (job.finish d).run (w.logged (raw.droppedAnswers.map Job.dropped)) with
    ⟨failure | made, v⟩
  · rcases failure_of_finish hfinish with hunmade | ⟨account, rfl, hsettings⟩
    · exact verdict?_unmade job hunmade
    · exact absurd (.unsettled hread hvalidate hsettings) hapart
  · exact ⟨.done made, verdict?_served job made, verdict?_called (get?_error_called hfinish)⟩

/-- Where the verdicts differ, the server answers 500 and the tool `validation_error`. -/
theorem verdicts_of_apart (hapart : job.Apart given w) :
    (Server.serve (job.request given) w).1.verdict? job = some .broken ∧
      Tool.verdict? job ((job.call given).run w).1 = some .misread := by
  cases hapart with
  | unprintable misread endless =>
    obtain ⟨issues', hserve, hprintable⟩ := serve_of_failed job misread w
    obtain ⟨issues'', hcall⟩ := run_call_of_failed job misread w
    rw [hserve, hcall]
    exact ⟨(verdict?_rejected job issues').2 (mt hprintable.mp endless), rfl⟩
  | @unsettled account raw d failure reads valid settles =>
    obtain ⟨issues, rfl⟩ := World.misshapen_of_settingsNow settles
    -- the settings do not depend on what was logged of the definition
    have hlogged : (w.logged (raw.droppedAnswers.map Job.dropped)).settingsNow =
        .error (Problem.misshapen "Settings" issues) := settles
    rw [serve_of_done _ reads, run_call_of_done _ reads, run_make_valid valid,
      run_finish_unsettled hlogged]
    exact verdict?_misshapen (remoteForm account) "Settings" issues

/-- **The server and the tools do the same.**  For every value in the place of the definition and every world, both
interfaces end in the same world, so with the same calls and the same files.  They give the same verdict, unless the
job is one of those in which they come `Apart`; there the server answers 500 and the tool `validation_error`. -/
theorem endpoints_and_tools_agree (job : SharedJob) (given : Json) (w : World) :
    let served := Server.serve (job.request given) w
    let called := (job.call given).run w
    called.2 = served.2 ∧
      (¬ job.Apart given w → ∃ verdict, served.1.verdict? job = some verdict ∧
        Tool.verdict? job called.1 = some verdict) ∧
      (job.Apart given w → served.1.verdict? job = some .broken ∧
        Tool.verdict? job called.1 = some .misread) := by
  refine ⟨same_world job given w, fun hapart => ?_, verdicts_of_apart⟩
  rcases hread : Definition.read .request given with raw | issues
  · exact agree_of_done hread hapart
  · obtain ⟨issues', hserve, hprintable⟩ := serve_of_failed job hread w
    obtain ⟨issues'', hcall⟩ := run_call_of_failed job hread w
    have hissues : Printable issues := Classical.not_not.mp fun h => hapart (.unprintable hread h)
    rw [hserve, hcall]
    exact ⟨.misread, (verdict?_rejected job issues').1 (hprintable.mpr hissues), rfl⟩

/-- With `PORT=x`, a valid definition gets 500 from `/api/forms/remote` and `validation_error` from
`forms_create_remote`. -/
theorem endpoints_and_tools_differ :
    let given : Json := .obj [
      ("title", .str "Tea"),
      ("sections", .arr [.obj [
        ("title", .str "Black"),
        ("questions", .arr [.obj [("title", .str "Since when?"), ("type", .str "DATE")]])]])]
    let w : World := { now := Moment.epoch, environment := [("PORT", "x")] }
    Server.serve ((remoteForm "default").request given) w = (.unforeseen, w) ∧
      ((remoteForm "default").call given).run w =
        (.ok (.obj [
          ("error", .str "validation_error"),
          ("message", .str ("1 validation error for Settings\nport\n  Input should be a valid integer, unable to "
            ++ "parse string as an integer [type=int_parsing, input_value='x', input_type=str]")),
          ("action", .str "Send a definition matching the form schema")]), w) := by
  intro given w
  obtain ⟨raw, hread, hvalid, hdropped⟩ : ∃ raw : Definition,
      Definition.read .request given = .done raw ∧ raw.validate = .ok raw ∧
        raw.droppedAnswers = [] :=
    ⟨{ title := "Tea"
       sections := [⟨"Black", none,
        [⟨"Since when?", Kind.ofName "DATE", [], none, false, none, []⟩]⟩] }, rfl, rfl, rfl⟩
  have hfile : (Files.read [] World.envFile).toOption = none := rfl
  have hload : Settings.load [("PORT", "x")] none =
      .failed [⟨[.key "port"], .unclearInteger, .str "x"⟩] := rfl
  have hsettings : w.settingsNow =
      .error (Problem.misshapen "Settings" [⟨[.key "port"], .unclearInteger, .str "x"⟩]) := by
    simp only [World.settingsNow, w, hfile, hload]
  have hlogged : w.logged (raw.droppedAnswers.map Job.dropped) = w := by
    rw [hdropped]
    rfl
  rw [serve_of_done _ hread, run_call_of_done _ hread, run_make_valid hvalid, hlogged,
    run_finish_unsettled hsettings]
  have hreport : Problem.report "Settings" [⟨[.key "port"], .unclearInteger, .str "x"⟩] =
      "1 validation error for Settings\nport\n  Input should be a valid integer, unable to "
        ++ "parse string as an integer [type=int_parsing, input_value='x', input_type=str]" := by
    decide +kernel
  rw [← hreport]
  exact ⟨rfl, rfl⟩

/-- The title `Infinity` is no text, and the server cannot report it. -/
example :
    let given : Json := .obj [("title", .float (.infinite false))]
    let w : World := { now := Moment.epoch }
    Server.serve (requests.request given) w = (.unforeseen, w) ∧
      (requests.call given).run w =
        (.ok (.obj [
          ("error", .str "validation_error"),
          ("message", .str (Problem.report "FormDefinition" [⟨[.key "title"], .noText, .float (.infinite false)⟩])),
          ("action", .str "Send a definition matching the form schema")]), w) :=
  ⟨rfl, rfl⟩

end SharedJob

end Formwork
