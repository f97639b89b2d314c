import Formwork.Proofs.Definition.Faults
import Formwork.Proofs.Definition.Normal
import Formwork.Proofs.Plan.Layout
import Formwork.Proofs.Remote.Making
import Formwork.Proofs.Service.Serving

/-!
# `POST /api/forms/remote`

The calls that the endpoint makes, and its response.  A request goes through the parsing of its body, validation,
`is_signed_in`, `get_token`, the create request and the batchUpdate; each of these may end it, and no call is made out
of order.  `RemoteConduct` is what holds whatever is stored, whatever the body is and whatever the services answer.
-/
namespace Formwork

/-- The kinds of calls. -/
inductive Purpose
  | connect
  | createForm
  | fillForm
  | askModel
  | refreshToken
  | exchangeCode
deriving DecidableEq

/-- The kind of a call. -/
def Call.purpose : Call → Purpose
  | connect _ => .connect
  | createForm _ => .createForm
  | fillForm .. => .fillForm
  | askModel .. => .askModel
  | refreshToken _ => .refreshToken
  | exchangeCode _ => .exchangeCode

/-- The validated definition of a request, if its body can be read as a definition and the definition is accepted. -/
def Request.definition? (request : Request) : Option Definition :=
  match request.body with
  | .value json => (Definition.read .request json).value?.bind fun d => d.validate.toOption
  | _ => none

/-- The conduct of a request for a remote form in a world: the calls that are made, and the response. -/
structure RemoteConduct (request : Request) (w : World) (made : List Call) (response : Response) :
    Prop where
  /-- The calls come in this order, each once at most. -/
  order : made.map Call.purpose <+: [.connect, .createForm, .fillForm] ∨
    made.map Call.purpose <+: [.refreshToken, .connect, .createForm, .fillForm]
  /-- There is no call without a valid definition and a signed-in account. -/
  gate : made ≠ [] → request.definition?.isSome ∧
    ((Account.isSignedIn request.account).run w).1 = .ok true
  /-- The token is the refreshed one if there was a refresh, and the stored one otherwise. -/
  token : ∀ token, .connect token ∈ made → ∃ value,
    ((Account.stored request.account).run w).1 = .ok value ∧
    ((.refreshToken ∉ made.map Call.purpose ∧ value.get? "token" = some token) ∨
      ∃ old grant, .refreshToken old ∈ made ∧ value.get? "refresh_token" = some old ∧
        w.answers.refreshToken.take.1 = .ok grant ∧ token = grant.token)
  creates : ∀ body, .createForm body ∈ made → ∃ d, request.definition? = some d ∧
    body = .obj [("info", .obj [("title", .str d.title), ("documentTitle", .str d.title)])]
  /-- A batchUpdate goes to the form that was just created, which has an id. -/
  fills : ∀ formId body, .fillForm formId body ∈ made → formId ≠ "" ∧ ∃ d answer,
    request.definition? = some d ∧ w.answers.createForm.take.1 = .ok answer ∧
    answer.get? "formId" = some (.str formId) ∧ body = .obj [("requests", .arr d.plan.requests)]
  succeeds : response.status = 200 ↔ ∃ formId body reply, .fillForm formId body ∈ made ∧
    w.answers.fillForm.take.1 = .ok reply
  /-- The body of a 200 response describes the form that was created and populated. -/
  tells : response.status = 200 → ∃ (form : RemoteForm) (d : Definition) (answer : Json),
    response.content = .json form.document ∧ request.definition? = some d ∧
    .fillForm form.formId (.obj [("requests", .arr d.plan.requests)]) ∈ made ∧
    form.operationCount = d.plan.requests.length ∧ w.answers.createForm.take.1 = .ok answer ∧
    answer.get? "formId" = some (.str form.formId) ∧
    form.editUrl = FormsService.editUrl form.formId ∧
    (answer.get? "responderUri").getD (.str "") = .str form.shareUrl

variable {request : Request} {w : World} {made : List Call} {response : Response} {d : Definition}

/-- A request that ends before any call. -/
theorem conduct_nil (h : response.status ≠ 200) : RemoteConduct request w [] response where
  order := Or.inl (List.nil_prefix)
  gate := fun hne => absurd rfl hne
  token := by simp
  creates := by simp
  fills := by simp
  succeeds := by simp [h]
  tells := fun hok => absurd hok h

/-- A request that ends with a refused refresh. -/
theorem conduct_refreshToken (hd : request.definition? = some d)
    (signedIn : ((Account.isSignedIn request.account).run w).1 = .ok true) (old : Json)
    (h : response.status ≠ 200) : RemoteConduct request w [.refreshToken old] response where
  order := Or.inr ⟨[.connect, .createForm, .fillForm], rfl⟩
  gate := fun _ => ⟨by rw [hd]; rfl, signedIn⟩
  token := by simp
  creates := by simp
  fills := by simp
  succeeds := by simp [h]
  tells := fun hok => absurd hok h

/-- A refresh comes before all other calls. -/
theorem Account.Authorized.eq_nil_or {account : String} {before : List Call} {token : Json}
    (h : Account.Authorized account w before token) :
    before = [] ∨ ∃ old, before = [.refreshToken old] := by
  cases h with
  | stored stores holds => exact Or.inl rfl
  | renewed stores holds grants => exact Or.inr ⟨_, rfl⟩

/-- The calls after the token is known, and the response. -/
structure ServiceConduct (d : Definition) (w : World) (token : Json) (rest : List Call)
    (response : Response) : Prop where
  order : rest.map Call.purpose <+: [.connect, .createForm, .fillForm]
  connects : ∀ given, .connect given ∈ rest → given = token
  creates : ∀ body, .createForm body ∈ rest → body = FormsService.shellBody d.title
  fills : ∀ formId body, .fillForm formId body ∈ rest → formId ≠ "" ∧ ∃ answer,
    w.answers.createForm.take.1 = .ok answer ∧ answer.get? "formId" = some (.str formId) ∧
    body = FormsService.fillBody d.plan
  succeeds : response.status = 200 ↔ ∃ formId body reply, .fillForm formId body ∈ rest ∧
    w.answers.fillForm.take.1 = .ok reply
  tells : response.status = 200 → ∃ (form : RemoteForm) (answer : Json),
    response.content = .json form.document ∧
    .fillForm form.formId (FormsService.fillBody d.plan) ∈ rest ∧
    form.operationCount = d.plan.length ∧ w.answers.createForm.take.1 = .ok answer ∧
    answer.get? "formId" = some (.str form.formId) ∧
    form.editUrl = FormsService.editUrl form.formId ∧
    (answer.get? "responderUri").getD (.str "") = .str form.shareUrl

namespace ServiceConduct

variable {token answer reply : Json} {shell : FormShell} {problem : Problem}

/-- There is no form with an id. -/
theorem unmade (d : Definition) (w : World) (token : Json) (h : response.status ≠ 200) :
    ServiceConduct d w token [.connect token, .createForm (FormsService.shellBody d.title)]
      response where
  order := ⟨[.fillForm], rfl⟩
  connects := by simp
  creates := by simp
  fills := by simp
  succeeds := by simp [h]
  tells := fun hok => absurd hok h

/-- A form with an id was created, and the batchUpdate is sent. -/
theorem named (token : Json) (creates : w.answers.createForm.take.1 = .ok answer)
    (describes : shell.Describes answer) (name : shell.id ≠ "")
    (succeeds : response.status = 200 ↔ ∃ reply, w.answers.fillForm.take.1 = .ok reply)
    (tells : response.status = 200 → response.content =
      .json (RemoteForm.document ⟨shell.id, shell.editUrl, shell.shareUrl, d.plan.length⟩)) :
    ServiceConduct d w token [.connect token, .createForm (FormsService.shellBody d.title),
      .fillForm shell.id (FormsService.fillBody d.plan)] response where
  order := ⟨[], rfl⟩
  connects := by simp
  creates := by simp
  fills formId body hmem := by
    obtain ⟨rfl, rfl⟩ : formId = shell.id ∧ body = FormsService.fillBody d.plan := by
      simpa using hmem
    exact ⟨name, answer, creates, describes.get?_formId name, rfl⟩
  succeeds := by
    rw [succeeds]
    constructor
    · rintro ⟨reply, hreply⟩
      exact ⟨shell.id, FormsService.fillBody d.plan, reply, by simp, hreply⟩
    · rintro ⟨-, -, reply, -, hreply⟩
      exact ⟨reply, hreply⟩
  tells hok := ⟨⟨shell.id, shell.editUrl, shell.shareUrl, d.plan.length⟩, answer, tells hok, by simp,
    rfl, creates, describes.get?_formId name, describes.editUrl name, describes.shareUrl⟩

/-- With a refresh in front of them, the later calls are as they were. -/
theorem remote {before rest : List Call} (h : ServiceConduct d w token rest response)
    (hd : request.definition? = some d)
    (signedIn : ((Account.isSignedIn request.account).run w).1 = .ok true)
    (authorized : Account.Authorized request.account w before token) :
    RemoteConduct request w (before ++ rest) response := by
  have hkept : ∀ call : Call, call.purpose ≠ .refreshToken → (call ∈ before ++ rest ↔ call ∈ rest) := by
    intro call hpurpose
    rcases authorized.eq_nil_or with rfl | ⟨old, rfl⟩
    · rw [List.nil_append]
    · constructor
      · intro hmem
        rcases List.mem_append.mp hmem with hmem | hmem
        · obtain rfl := List.mem_singleton.mp hmem
          exact absurd rfl hpurpose
        · exact hmem
      · exact fun hmem => List.mem_append_right _ hmem
  constructor
  case order =>
    rcases authorized.eq_nil_or with rfl | ⟨old, rfl⟩
    · exact Or.inl h.order
    · exact Or.inr ((List.prefix_cons_inj _).mpr h.order)
  case gate => exact fun _ => ⟨by rw [hd]; rfl, signedIn⟩
  case token =>
    intro given hmem
    obtain rfl := h.connects given ((hkept _ (by simp [Call.purpose])).mp hmem)
    cases authorized with
    | @stored value _ stores holds =>
      refine ⟨value, stores, Or.inl ⟨fun hrefresh => ?_, holds⟩⟩
      have hpurposes := h.order.subset hrefresh
      simp at hpurposes
    | @renewed value old grant stores holds grants =>
      exact ⟨value, stores, Or.inr ⟨old, grant, List.mem_cons_self, holds, grants, rfl⟩⟩
  case creates =>
    intro body hmem
    exact ⟨d, hd, h.creates body ((hkept _ (by simp [Call.purpose])).mp hmem)⟩
  case fills =>
    intro formId body hmem
    obtain ⟨hname, answer, hanswer, hid, hbody⟩ :=
      h.fills formId body ((hkept _ (by simp [Call.purpose])).mp hmem)
    exact ⟨hname, d, answer, hd, hanswer, hid, hbody⟩
  case succeeds =>
    rw [h.succeeds]
    refine exists_congr fun formId => exists_congr fun body => exists_congr fun reply => ?_
    rw [hkept _ (by simp [Call.purpose])]
  case tells =>
    intro hok
    obtain ⟨form, answer, hcontent, hmem, hcount, hrest⟩ := h.tells hok
    refine ⟨form, d, answer, hcontent, hd, (hkept _ (by simp [Call.purpose])).mpr hmem, ?_, hrest⟩
    rw [hcount, Plan.requests, List.length_map]

end ServiceConduct

/-- The response with the result of the orchestrator. -/
def Response.ofRemoteForm : Except Failure RemoteForm → Response
  | .ok form => .ok form.document
  | .error failure => .ofFailure failure

/-- Every way to create a form has this conduct. -/
theorem conduct_of_making {result : Except Failure RemoteForm} (hd : request.definition? = some d)
    (h : Account.Making request.account d w made result) :
    RemoteConduct request w made (.ofRemoteForm result) := by
  have hfailed : ∀ failure, (Response.ofRemoteForm (.error failure)).status ≠ 200 :=
    Response.ofFailure_status_ne
  cases h with
  | barred => exact conduct_nil (hfailed _)
  | tokenless signedIn few =>
    rcases few with rfl | ⟨old, rfl⟩
    · exact conduct_nil (hfailed _)
    · exact conduct_refreshToken hd signedIn old (hfailed _)
  | unmade signedIn authorized =>
    exact (ServiceConduct.unmade d w _ (hfailed _)).remote hd signedIn authorized
  | @unfilled _ _ _ _ _ failure signedIn authorized creates describes name fills =>
    have hsucceeds : (Response.ofRemoteForm (.error failure)).status = 200 ↔
        ∃ reply, w.answers.fillForm.take.1 = .ok reply := by simp [hfailed, fills]
    exact (ServiceConduct.named _ creates describes name hsucceeds
      fun hok => absurd hok (hfailed _)).remote hd signedIn authorized
  | @filled _ _ _ reply _ signedIn authorized creates describes name fills =>
    exact (ServiceConduct.named _ creates describes name
      ⟨fun _ => ⟨reply, fills⟩, fun _ => rfl⟩ fun _ => rfl).remote hd signedIn authorized

/-! ### The endpoint -/

theorem Job.run_createForm_error {raw : Definition} {defect : Defect} (account : String)
    (h : raw.validate = .error defect) :
    (Job.createForm account raw).run w = (.error (Job.invalid defect), w) :=
  Job.run_bind_validate_error h (Account.createForm account) w

theorem Job.run_createForm_ok {raw : Definition} (account : String) (h : raw.validate = .ok d) :
    (Job.createForm account raw).run w =
      (Account.createForm account d).run (w.logged (raw.droppedAnswers.map Job.dropped)) :=
  Job.run_bind_validate_ok h (Account.createForm account) w

theorem settle_answerRemoteForm (account : String) (raw : Definition) (w : World) :
    Server.settle (Endpoint.answerRemoteForm account raw) w =
      (.ofRemoteForm ((Job.createForm account raw).run w).1,
        ((Job.createForm account raw).run w).2) := by
  unfold Server.settle Endpoint.answerRemoteForm
  rw [Act.run_bind]
  rcases (Job.createForm account raw).run w with ⟨failure | form, v⟩
  · rfl
  · rfl

/-- The conduct of the endpoint with a definition. -/
theorem conduct_answerRemoteForm {raw : Definition}
    (hbody : request.definition? = raw.validate.toOption) :
    ∃ made, (Server.settle (Endpoint.answerRemoteForm request.account raw) w).2.calls =
        w.calls ++ made ∧
      RemoteConduct request w made
        (Server.settle (Endpoint.answerRemoteForm request.account raw) w).1 := by
  rw [settle_answerRemoteForm]
  rcases hvalidate : raw.validate with defect | d
  · rw [Job.run_createForm_error _ hvalidate]
    exact ⟨[], (List.append_nil _).symm, conduct_nil (Response.ofFailure_status_ne _)⟩
  · have hd : request.definition? = some d := by
      rw [hbody, hvalidate]
      rfl
    have hplan := Definition.plan_ne_nil (Definition.slots_ne_nil_of_validate hvalidate)
    have hlike := World.alike_logged (raw.droppedAnswers.map Job.dropped) w
    obtain ⟨made, hmaking, hcalls⟩ := Account.making_createForm request.account
      (w.logged (raw.droppedAnswers.map Job.dropped)) hplan
    rw [Job.run_createForm_ok _ hvalidate]
    exact ⟨made, hcalls, conduct_of_making hd (hmaking.congr hlike)⟩

/-- **A request for a remote form makes no call out of order**, whatever is stored, whatever the body is and
whatever the services answer. -/
theorem remote_form_conduct (query : List (String × String)) (origin : String) (body : Body)
    (w : World) :
    let request : Request := ⟨"POST", "/api/forms/remote", query, origin, body⟩
    ∃ made, (Server.serve request w).2.calls = w.calls ++ made ∧
      RemoteConduct request w made (Server.serve request w).1 := by
  intro request
  have hpath : Endpoint.ofPath? "/api/forms/remote" = some .remoteForm := by decide
  have hserve : Server.serve request w = Server.settle (Endpoint.remoteForm.answer request) w := by
    unfold Server.serve
    rw [show request.path = "/api/forms/remote" from rfl, hpath]
    rfl
  rw [hserve, Endpoint.answer]
  -- a body that cannot be read as a definition is turned away at once
  have hturned : ∀ response : Response, response.status ≠ 200 →
      ∃ made, (Server.settle (pure response) w).2.calls = w.calls ++ made ∧
        RemoteConduct request w made (Server.settle (pure response) w).1 :=
    fun response h => ⟨[], (List.append_nil _).symm, conduct_nil h⟩
  cases body with
  | absent => exact hturned _ (Response.rejected_status_ne _)
  | malformed => exact hturned _ (Response.rejected_status_ne _)
  | unreadable => exact hturned _ (by decide)
  | value json =>
    rcases hread : Definition.read .request json with raw | issues
    · rw [Endpoint.withBody_of_done rfl hread]
      refine conduct_answerRemoteForm ?_
      show ((Definition.read .request json).value?.bind fun d => d.validate.toOption) = _
      rw [hread]
      rfl
    · rw [Endpoint.withBody_of_failed rfl hread]
      exact hturned _ (Response.rejected_status_ne _)

end Formwork
