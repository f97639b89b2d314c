import Formwork.Proofs.Service.SharedJob

/-!
# The endpoints that compile

`POST /api/forms/validate`, `/script` and `/mutations` need no account.  Each refuses the body, refuses the
definition, or answers with a product.  None of them calls a service or touches a file: of the world only the log
and the number of item names change (`Compilation.run_answer`).

One refusal goes wrong.  Where the body has a number that is not finite in the place of something else, the 422
report would have to repeat it, and the response is 500 (`Compilation.breaks_only_unreportable`).
-/
namespace Formwork

/-- An endpoint that needs no account, by its product. -/
inductive Compilation
  /-- The validated definition. -/
  | normalForm
  | script
  /-- The batchUpdate requests. -/
  | requests
deriving DecidableEq

namespace Compilation

/-- The endpoint. -/
def endpoint : Compilation → Endpoint
  | normalForm => .validate
  | script => .script
  | requests => .requests

/-- The request that posts a body to the endpoint. -/
def request (query : List (String × String)) (origin : String) (body : Body)
    (compilation : Compilation) : Request :=
  ⟨"POST", compilation.endpoint.path, query, origin, body⟩

/-- The definition in a body. -/
def read (json : Json) : Compilation → Reading Definition
  | normalForm | requests => Definition.read .request json
  | script => ScriptRequest.definition <$> ScriptRequest.read json

/-- The body fits the request model, and `validate_definition` accepts the definition in it. -/
def Accepts (compilation : Compilation) (body : Body) : Prop :=
  ∃ json raw d, body = .value json ∧ compilation.read json = .done raw ∧ raw.validate = .ok d

/-- The body does not fit the request model, and the report would have to repeat a number that is not finite. -/
def Unreportable (compilation : Compilation) (body : Body) : Prop :=
  ∃ json issues, body = .value json ∧ compilation.read json = .failed issues ∧
    ¬ SharedJob.Printable issues

variable {compilation : Compilation} {query : List (String × String)} {origin : String} {body : Body}
  {raw d : Definition} {issues : List Issue} {json : Json} {w v : World}

/-! ### Products -/

/-- The activity answers with a product and changes nothing but the number of item names. -/
def Produces (act : Act World Response) : Prop :=
  ∀ w, ∃ product names, act.run w = (.ok (.ok product), { w with itemNames := names })

/-- The activity validates the definition and answers with a product. -/
def Makes (raw : Definition) (act : Act World Response) : Prop :=
  ∃ next, act = Job.validate raw >>= next ∧ ∀ d, Produces (next d)

theorem produces_pure (product : Json) : Produces (pure (.ok product)) :=
  fun w => ⟨product, w.itemNames, rfl⟩

theorem produces_answerScript (d : Definition) (options : Script.Options) (respond : String → Json) :
    Produces (Job.scriptOf d options >>= fun script => pure (.ok (respond script))) :=
  fun w => ⟨_, w.itemNames + d.questionCount, rfl⟩

theorem makes_answerValidate (raw : Definition) : Makes raw (Endpoint.answerValidate raw) :=
  ⟨_, rfl, fun d => produces_pure d.document⟩

theorem makes_answerScript (asked : ScriptRequest) :
    Makes asked.definition (Endpoint.answerScript asked) := by
  refine ⟨_, bind_assoc _ _ _, fun d => ?_⟩
  exact produces_answerScript d ⟨asked.resultsSheet, asked.locale⟩
    fun script => .obj [("script", .str script), ("locale", .str asked.locale.code)]

theorem makes_answerRequests (raw : Definition) : Makes raw (Endpoint.answerRequests raw) := by
  refine ⟨_, bind_assoc _ _ _, fun d => ?_⟩
  exact produces_pure (Endpoint.requestsDocument d.plan.requests)

/-- A definition that is accepted has a product. -/
theorem Makes.run_valid {act : Act World Response} (h : Makes raw act) (hvalid : raw.validate = .ok d)
    (w : World) :
    ∃ product names, act.run w =
      (.ok (.ok product),
        { w.logged (raw.droppedAnswers.map Job.dropped) with itemNames := names }) := by
  obtain ⟨next, rfl, hnext⟩ := h
  rw [Job.run_bind_validate_ok hvalid]
  exact hnext d _

/-- A definition that is refused leaves the world as it is. -/
theorem Makes.run_invalid {act : Act World Response} {defect : Defect} (h : Makes raw act)
    (hinvalid : raw.validate = .error defect) (w : World) :
    act.run w = (.error (Job.invalid defect), w) := by
  obtain ⟨next, rfl, -⟩ := h
  exact Job.run_bind_validate_error hinvalid next w

/-! ### Bodies -/

theorem answer_of_done (h : compilation.read json = .done raw) :
    Makes raw (compilation.endpoint.answer (compilation.request query origin (.value json))) := by
  cases compilation with
  | normalForm =>
    rw [endpoint, Endpoint.answer, Endpoint.withBody_of_done rfl h]
    exact makes_answerValidate raw
  | script =>
    obtain ⟨asked, hread, rfl⟩ := Reading.map_eq_done.mp h
    rw [endpoint, Endpoint.answer, Endpoint.withBody_of_done rfl hread]
    exact makes_answerScript asked
  | requests =>
    rw [endpoint, Endpoint.answer, Endpoint.withBody_of_done rfl h]
    exact makes_answerRequests raw

theorem answer_of_failed (h : compilation.read json = .failed issues) :
    compilation.endpoint.answer (compilation.request query origin (.value json)) =
      pure (.rejected (issues.map (Issue.under (.key "body")))) := by
  cases compilation with
  | normalForm => rw [endpoint, Endpoint.answer, Endpoint.withBody_of_failed rfl h]
  | requests => rw [endpoint, Endpoint.answer, Endpoint.withBody_of_failed rfl h]
  | script =>
    have hread : ScriptRequest.read json = .failed issues := by
      rw [read] at h
      rcases hread : ScriptRequest.read json with asked | issues'
      · rw [hread] at h
        cases h
      · rw [hread] at h
        cases h
        rfl
    rw [endpoint, Endpoint.answer, Endpoint.withBody_of_failed rfl hread]

/-- The status of the response to a body. -/
def status (compilation : Compilation) : Body → Nat
  | .absent | .malformed .. => 422
  | .unreadable => 400
  | .value json =>
    match compilation.read json with
    | .failed issues => (Response.rejected issues).status
    | .done raw =>
      match raw.validate with
      | .ok _ => 200
      | .error _ => 422

theorem status_of_done (h : compilation.read json = .done raw) :
    compilation.status (.value json) =
      match raw.validate with
      | .ok _ => 200
      | .error _ => 422 := by
  rw [status, h]

theorem status_of_failed (h : compilation.read json = .failed issues) :
    compilation.status (.value json) = (Response.rejected issues).status := by
  rw [status, h]

/-- The place of the issues does not decide whether the report can be written. -/
theorem status_rejected_under (step : Place) (issues : List Issue) :
    (Response.rejected (issues.map (Issue.under step))).status = (Response.rejected issues).status := by
  have hunder := SharedJob.printable_under step issues
  by_cases hprintable : SharedJob.Printable issues
  · rw [SharedJob.rejected_of_printable hprintable, SharedJob.rejected_of_printable (hunder.mpr hprintable)]
  · rw [SharedJob.rejected_of_not_printable hprintable,
      SharedJob.rejected_of_not_printable (mt hunder.mp hprintable)]

/-- A body is answered at once, or its definition is compiled. -/
theorem answer_cases (compilation : Compilation) (query : List (String × String)) (origin : String)
    (body : Body) :
    (∃ response, compilation.endpoint.answer (compilation.request query origin body) = pure response ∧
      response.status = compilation.status body) ∨
    ∃ json raw, body = .value json ∧ compilation.read json = .done raw ∧
      Makes raw (compilation.endpoint.answer (compilation.request query origin body)) := by
  -- all three refuse a body that is no JSON value in the same way
  cases body with
  | absent =>
    refine .inl ⟨.rejected [⟨[.key "body"], .missing, .null⟩], ?_, rfl⟩
    cases compilation <;> rfl
  | malformed offset words =>
    refine .inl ⟨.rejected [⟨[.key "body", .index offset], .noJson words, .obj []⟩], ?_, rfl⟩
    cases compilation <;> rfl
  | unreadable =>
    refine .inl ⟨.unreadable, ?_, rfl⟩
    cases compilation <;> rfl
  | value json =>
    rcases hread : compilation.read json with raw | issues
    · exact .inr ⟨json, raw, rfl, hread, answer_of_done hread⟩
    · refine .inl ⟨_, answer_of_failed hread, ?_⟩
      rw [status_rejected_under, status_of_failed hread]

/-! ### The run of an endpoint -/

/-- Nothing changes but the log, which grows, and the number of item names. -/
def Untouched (w v : World) : Prop :=
  ∃ names records, v = { w with itemNames := names, records := w.records ++ records }

theorem untouched_refl (w : World) : Untouched w w :=
  ⟨w.itemNames, [], by rw [List.append_nil]⟩

/-- The result of an endpoint and the world after it: its only failures are refused definitions. -/
theorem run_answer (compilation : Compilation) (query : List (String × String)) (origin : String)
    (body : Body) (w : World) :
    ∃ result v,
      (compilation.endpoint.answer (compilation.request query origin body)).run w = (result, v) ∧
        Untouched w v ∧ (Response.ofResult result).status = compilation.status body ∧
        ∀ failure, result = .error failure → ∃ defect, failure = Job.invalid defect := by
  rcases answer_cases compilation query origin body with
    ⟨response, hanswer, hstatus⟩ | ⟨json, raw, rfl, hread, hmakes⟩
  · rw [hanswer]
    exact ⟨.ok response, w, rfl, untouched_refl w, hstatus, nofun⟩
  · rcases hvalidate : raw.validate with defect | d
    · refine ⟨_, w, hmakes.run_invalid hvalidate w, untouched_refl w, ?_, ?_⟩
      · rw [status_of_done hread, hvalidate]
        rfl
      · rintro failure ⟨⟩
        exact ⟨defect, rfl⟩
    · obtain ⟨product, names, hrun⟩ := hmakes.run_valid hvalidate w
      refine ⟨_, _, hrun, ⟨names, raw.droppedAnswers.map Job.dropped, rfl⟩, ?_, nofun⟩
      rw [status_of_done hread, hvalidate]
      rfl

/-! ### Statuses -/

theorem status_of_accepts (h : compilation.Accepts body) : compilation.status body = 200 := by
  obtain ⟨json, raw, d, rfl, hread, hvalid⟩ := h
  rw [status_of_done hread, hvalid]

theorem status_of_unreportable (h : compilation.Unreportable body) :
    compilation.status body = 500 := by
  obtain ⟨json, issues, rfl, hread, hendless⟩ := h
  rw [status_of_failed hread, SharedJob.rejected_of_not_printable hendless]
  rfl

/-- Each status but 422 has its own cause. -/
theorem status_cases (compilation : Compilation) (body : Body) :
    (compilation.status body = 200 ∧ compilation.Accepts body) ∨
      (compilation.status body = 400 ∧ body = .unreadable) ∨
      (compilation.status body = 500 ∧ compilation.Unreportable body) ∨
      compilation.status body = 422 := by
  cases body with
  | absent | malformed => exact .inr (.inr (.inr rfl))
  | unreadable => exact .inr (.inl ⟨rfl, rfl⟩)
  | value json =>
    rcases hread : compilation.read json with raw | issues
    · rw [status_of_done hread]
      rcases hvalidate : raw.validate with defect | d
      · exact .inr (.inr (.inr rfl))
      · exact .inl ⟨rfl, json, raw, d, rfl, hread, hvalidate⟩
    · rw [status_of_failed hread]
      by_cases hprintable : SharedJob.Printable issues
      · rw [SharedJob.rejected_of_printable hprintable]
        exact .inr (.inr (.inr rfl))
      · rw [SharedJob.rejected_of_not_printable hprintable]
        exact .inr (.inr (.inl ⟨rfl, json, issues, rfl, hread, hprintable⟩))

/-- The causes exclude each other, so the status decides between them. -/
theorem status_tells (compilation : Compilation) (body : Body) :
    compilation.status body ∈ [200, 400, 422, 500] ∧
      (compilation.status body = 200 ↔ compilation.Accepts body) ∧
      (compilation.status body = 400 ↔ body = .unreadable) ∧
      (compilation.status body = 500 ↔ compilation.Unreportable body) := by
  have haccepts : compilation.Accepts body → compilation.status body = 200 := status_of_accepts
  have hunreadable : body = .unreadable → compilation.status body = 400 := fun h => by rw [h]; rfl
  have hreports : compilation.Unreportable body → compilation.status body = 500 :=
    status_of_unreportable
  have hcases := status_cases compilation body
  simp only [List.mem_cons, List.not_mem_nil, or_false]
  grind

theorem ofPath?_path (compilation : Compilation) :
    Endpoint.ofPath? compilation.endpoint.path = some compilation.endpoint := by
  cases compilation <;> decide

theorem serve_request (compilation : Compilation) (query : List (String × String)) (origin : String)
    (body : Body) (w : World) :
    Server.serve (compilation.request query origin body) w =
      Server.settle (compilation.endpoint.answer (compilation.request query origin body)) w := by
  refine Server.serve_eq compilation.ofPath?_path ?_ w
  cases compilation <;> rfl

/-- **The endpoints that compile answer 500 only where no report can be written.**  Whatever body is posted to one
of them, no service is called, no file is touched, and nothing but the log and the number of item names changes.
The only exception that leaves the endpoint is a `FormValidationError`.  The status is 200 just where the body fits
the request model and the definition in it is accepted, 400 just where the body cannot be parsed at all, 500 just
where the body does not fit and the report would have to repeat a number that is not finite, and else 422. -/
theorem breaks_only_unreportable (compilation : Compilation) (query : List (String × String))
    (origin : String) (body : Body) (w : World) :
    let request := compilation.request query origin body
    let (response, v) := Server.serve request w
    (v.calls = w.calls ∧ v.files = w.files ∧ Untouched w v) ∧
      (compilation.endpoint.answer request).Raises (fun problem =>
        ∃ field reason, problem = .invalidForm field reason) ∧
      response.status ∈ [200, 400, 422, 500] ∧
      (response.status = 200 ↔ compilation.Accepts body) ∧
      (response.status = 400 ↔ body = .unreadable) ∧
      (response.status = 500 ↔ compilation.Unreportable body) := by
  obtain ⟨result, v, hrun, huntouched, hstatus, -⟩ := run_answer compilation query origin body w
  intro request
  rw [serve_request, Server.settle_eq, hrun]
  dsimp only
  rw [hstatus]
  refine ⟨?_, ?_, status_tells compilation body⟩
  · obtain ⟨names, records, rfl⟩ := huntouched
    exact ⟨rfl, rfl, names, records, rfl⟩
  · intro u failure t hfails
    obtain ⟨result, v, hrun, -, -, hfailure⟩ := run_answer compilation query origin body u
    rw [hrun] at hfails
    cases hfails
    obtain ⟨defect, rfl⟩ := hfailure failure rfl
    exact ⟨defect.field, defect.reason, rfl⟩

/-- A body with an infinite title is answered 500, though it merely does not fit the request model. -/
theorem breaks_over_endless_title :
    let body := Body.ofText default "\x7b\"title\": 1e999\x7d"
    let w : World := { now := Moment.epoch }
    let (response, v) := Server.serve (normalForm.request [] "" body) w
    body = .value (.obj [("title", .float (.infinite false))]) ∧
      v = w ∧ response.status = 500 := by
  have hbody : Body.ofText default "\x7b\"title\": 1e999\x7d" =
      .value (.obj [("title", .float (.infinite false))]) := by
    decide +kernel
  rw [hbody]
  exact ⟨rfl, rfl, rfl⟩

end Compilation
end Formwork
