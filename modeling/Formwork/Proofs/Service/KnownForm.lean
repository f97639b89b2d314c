import Formwork.Proofs.Service.RemoteForm

/-!
# The id of a created form

Once the Forms API has answered a create request with a form id, the form exists, and its id has to reach the caller.
Whether it does depends on one other member of the answer: `responderUri` may be missing, but if it is there and is no
text, the `FormShell` is refused and the id is lost (`FormsService.withoutFormId`).  In every other case the response
has the id, also when the batchUpdate fails (`created_form_ids_reported`).
-/
namespace Formwork

namespace FormsService

/-- The `responderUri` of an answer is a text or missing. -/
def ReadableUri (answer : Json) : Prop :=
  ∃ url, (answer.get? "responderUri").getD (.str "") = .str url

/-- The error for another `responderUri`. -/
def uriProblem (answer : Json) : Problem :=
  .misshapen "FormShell" [⟨[.key "share_url"], .noText, (answer.get? "responderUri").getD (.str "")⟩]

/-- The response to an answer with another `responderUri`, without the form id. -/
def withoutFormId (answer : Json) : Response :=
  .error 502 "creation_failed" s!"Could not create form. Reason: {(uriProblem answer).message}" []

variable {answer : Json} {formId : String} {σ : Type} {s t : σ}

theorem shell_eq (hid : answer.get? "formId" = some (.str formId)) :
    (shell answer : Act σ FormShell) =
      .ofReading "FormShell" (FormShell.read (.obj [
        ("id", .str formId),
        ("edit_url", .str (if (Json.str formId).truthy then editUrl formId else "")),
        ("share_url", (answer.get? "responderUri").getD (.str ""))])) := by
  cases answer with
  | obj fields =>
    have hfield : Fields.get? "formId" fields = some (.str formId) := hid
    show Act.ofReading "FormShell" (FormShell.read (.obj [
      ("id", (Fields.get? "formId" fields).getD (.str "")), _, _])) = _
    rw [hfield]
    rfl
  | _ => cases hid

/-- An answer with a form id and a readable address is accepted. -/
theorem exists_shell (hid : answer.get? "formId" = some (.str formId)) (hplace : ReadableUri answer) :
    ∃ form : FormShell, form.id = formId ∧ (shell answer).run s = (.ok form, s) := by
  obtain ⟨url, hurl⟩ := hplace
  rw [shell_eq hid, hurl]
  exact ⟨⟨formId, _, url⟩, rfl, rfl⟩

/-- An answer with a form id and another address is refused. -/
theorem shell_of_not_readableUri (hid : answer.get? "formId" = some (.str formId))
    (hplace : ¬ ReadableUri answer) :
    (shell answer).run s = (.error (uriProblem answer), s) := by
  rw [shell_eq hid, uriProblem]
  rcases hshare : (answer.get? "responderUri").getD (.str "") with _ | _ | _ | _ | url | _ | _
  case str => exact absurd ⟨url, hshare⟩ hplace
  all_goals rfl

/-- The shell of an accepted answer has its form id. -/
theorem of_shell_ok {form : FormShell} (hid : answer.get? "formId" = some (.str formId))
    (h : (shell answer).run s = (.ok form, t)) : form.id = formId ∧ ReadableUri answer := by
  have hdescribes := describes_of_shell h
  refine ⟨?_, form.shareUrl, hdescribes.shareUrl⟩
  have hname := hdescribes.id
  rw [hid] at hname
  exact (Json.str.inj hname).symm

/-- An answer with a form id is refused for its address only. -/
theorem of_shell_error {failure : Failure} (hid : answer.get? "formId" = some (.str formId))
    (h : (shell answer).run s = (.error failure, t)) :
    ¬ ReadableUri answer ∧ failure = uriProblem answer := by
  by_cases hplace : ReadableUri answer
  · obtain ⟨form, -, hshell⟩ := exists_shell (s := s) hid hplace
    cases hshell.symm.trans h
  · cases (shell_of_not_readableUri (s := s) hid hplace).symm.trans h
    exact ⟨hplace, rfl⟩

end FormsService

namespace Response

/-- The response has this `form_id`. -/
def Names (formId : String) (response : Response) : Prop :=
  ∃ body, response.content = .json body ∧ body.get? "form_id" = some (.str formId)

end Response

/-- The results of the work on a form that keep its id. -/
inductive RemoteForm.Known (formId : String) : Except Failure RemoteForm → Prop
  | filled (editUrl shareUrl : String) (count : Nat) :
      Known formId (.ok ⟨formId, editUrl, shareUrl, count⟩)
  | unfilled (message : String) (causes : List Problem) :
      Known formId (.error ⟨.batchFailed message formId, causes⟩)

theorem RemoteForm.Known.names {formId : String} {result : Except Failure RemoteForm}
    (h : RemoteForm.Known formId result) :
    Response.Names formId (.ofRemoteForm result) ∧
      ((Response.ofRemoteForm result).status = 200 ∨ (Response.ofRemoteForm result).status = 502) := by
  cases h with
  | filled editUrl shareUrl count => exact ⟨⟨_, rfl, rfl⟩, Or.inl rfl⟩
  | unfilled message causes => exact ⟨⟨_, rfl, rfl⟩, Or.inr rfl⟩

/-! ### The work keeps the id -/

namespace Orchestrator

/-- Whatever happens to a form shell, its id is kept. -/
theorem Filling.known {σ : Type} {c : Collaborators σ} {d : Definition} {form : FormShell} {s t : σ}
    {exchanges : List Exchange} {result : Except Failure RemoteForm}
    (h : Filling c d form s exchanges result t) : RemoteForm.Known form.id result := by
  cases h with
  | unplanned plans => exact .unfilled _ _
  | nothing plans => exact .filled _ _ _
  | unfilled plans work fills => exact .unfilled _ _
  | filled plans work fills => exact .filled _ _ _

end Orchestrator

namespace Account

variable {account formId : String} {d : Definition} {w v : World} {calls made : List Call}
  {answer : Json} {failure : Failure}

/-- Getting credentials creates no form. -/
theorem Obtaining.createForm_notMem {result : Except Failure Credentials}
    (h : Obtaining account w calls result v) (body : Json) : .createForm body ∉ calls := by
  rcases h.few with rfl | ⟨old, rfl⟩
  · simp
  · simp

/-- Where a form was created, its shell was read from the answer. -/
theorem shell_of_opening {title : String} {result : Except Failure FormShell} {u : Connection}
    {body : Json} (h : Connection.Opening account title w calls result u)
    (hasked : .createForm body ∈ calls) (hanswer : w.answers.createForm.take.1 = .ok answer) :
    (FormsService.shell answer).run u = (result, u) := by
  have hreply : ∀ {before : List Call} {c : Credentials} {found : Except Failure Credentials}
      {reply : Except Failure Json} {x y : World}, Obtaining account w before found x →
      (World.createForm (FormsService.shellBody title)).run (x.called (.connect c.token)) = (reply, y) →
      reply = .ok answer := by
    intro before c found reply x y obtains creates
    rw [World.createForm, World.run_request] at creates
    have hreply : w.answers.createForm.take.1.mapError (⟨·, []⟩) = reply := by
      rw [← obtains.aside.createForm]
      exact congrArg Prod.fst creates
    rw [← hreply, hanswer]
    rfl
  cases h with
  | tokenless obtains => exact absurd hasked (obtains.createForm_notMem body)
  | refused obtains creates => cases hreply obtains creates
  | answered obtains creates reads =>
    cases hreply obtains creates
    exact reads

/-- Once the Forms API has answered with a form id, the work keeps the id, or fails over the `responderUri`. -/
theorem known_of_createForm {result : Except Failure RemoteForm} {body : Json}
    (hrun : (createForm account d).run w = (result, v)) (hcalls : v.calls = w.calls ++ made)
    (hasked : .createForm body ∈ made) (hanswer : w.answers.createForm.take.1 = .ok answer)
    (hid : answer.get? "formId" = some (.str formId)) (hname : formId ≠ "") :
    (FormsService.ReadableUri answer → RemoteForm.Known formId result) ∧
      (¬ FormsService.ReadableUri answer →
        result = .error (Orchestrator.shellFailure (FormsService.uriProblem answer))) := by
  -- something was called, so the work got as far as that
  have hcalled : ¬ w.Alike v := by
    intro hlike
    rw [hlike.calls, List.self_eq_append_right] at hcalls
    rw [hcalls] at hasked
    cases hasked
  rcases course_of_createForm hrun with ⟨hlike, -⟩ |
    ⟨session, u, exchanges, t, records, hstart, hcourse, rfl⟩
  · exact absurd hlike hcalled
  have hlike := alike_start hstart
  have hcreates : u.answers.createForm.take.1 = .ok answer := by rw [hlike.answers, hanswer]
  -- whatever comes of the first call, its answer is what was read
  have hform : ∀ {form : FormShell} {x : Connection},
      ((Connection.collaborators session).createShell d.title).run ⟨u, false⟩ = (.ok form, x) →
      form.id = formId ∧ FormsService.ReadableUri answer := by
    intro form x hmakes
    obtain ⟨calls, hopening⟩ := Connection.exists_opening hmakes
    obtain ⟨-, -, before, token, -, hbefore⟩ := hopening.ok
    have hmem : .createForm (FormsService.shellBody d.title) ∈ calls := by simp [hbefore]
    exact FormsService.of_shell_ok hid (shell_of_opening hopening hmem hcreates)
  cases hcourse with
  | unsure asks =>
    obtain ⟨-, rfl⟩ := run_isSignedIn asks
    exact absurd (hlike.trans (World.alike_logged records u)) hcalled
  | signedOut asks =>
    obtain ⟨-, rfl⟩ := run_isSignedIn asks
    exact absurd (hlike.trans (World.alike_logged records u)) hcalled
  | unmade asks makes =>
    obtain ⟨-, rfl⟩ := run_isSignedIn asks
    obtain ⟨calls, hopening⟩ := Connection.exists_opening makes
    have hmade : calls = made := by
      have hafter : t.world.calls = w.calls ++ made := hcalls
      rw [hopening.calls_eq.1, hlike.calls] at hafter
      exact List.append_cancel_left hafter
    obtain ⟨hplace, rfl⟩ :=
      FormsService.of_shell_error hid (shell_of_opening hopening (hmade ▸ hasked) hcreates)
    exact ⟨fun h => absurd h hplace, fun _ => rfl⟩
  | unnamed asks makes name =>
    obtain ⟨-, rfl⟩ := run_isSignedIn asks
    exact absurd ((hform makes).1.symm.trans name) hname
  | made asks makes name filling =>
    obtain ⟨-, rfl⟩ := run_isSignedIn asks
    obtain ⟨rfl, hplace⟩ := hform makes
    exact ⟨fun _ => filling.known, fun h => absurd hplace h⟩

end Account

/-! ### The response -/

variable {request : Request} {w : World}

/-- A request for a remote form leaves the world as it is, or it runs the orchestrator. -/
theorem served_or_made (request : Request) (hpath : request.path = "/api/forms/remote")
    (hmethod : request.method = "POST") (w : World) :
    (Server.serve request w).2 = w ∨ ∃ d u, d.plan ≠ [] ∧ w.Alike u ∧
      (Server.serve request w).1 =
        .ofRemoteForm ((Account.createForm request.account d).run u).1 ∧
      (Server.serve request w).2 = ((Account.createForm request.account d).run u).2 := by
  have hendpoint : Endpoint.ofPath? request.path = some .remoteForm := by
    rw [hpath]
    decide
  rw [Server.serve_eq hendpoint hmethod, Endpoint.answer]
  unfold Endpoint.withBody
  split
  · exact Or.inl rfl
  · exact Or.inl rfl
  · exact Or.inl rfl
  split
  · rename_i raw hread
    rw [settle_answerRemoteForm]
    rcases hvalidate : raw.validate with defect | d
    · rw [Job.run_createForm_error _ hvalidate]
      exact Or.inl rfl
    · rw [Job.run_createForm_ok _ hvalidate]
      have hplan := Definition.plan_ne_nil (Definition.slots_ne_nil_of_validate hvalidate)
      have hlike := World.alike_logged (raw.droppedAnswers.map Job.dropped) w
      exact Or.inr ⟨d, _, hplan, hlike, rfl, rfl⟩
  · exact Or.inl rfl

/-- **The response to a request that created a form has the form id**, unless the `responderUri` of the answer is
there and is no text.  Whatever is stored, whatever the body of the request is and whatever else the services
answer: if the answer to the create request has a form id, the response has it too, with status 200 or 502; or
else it is `withoutFormId`. -/
theorem created_form_ids_reported (query : List (String × String)) (origin : String) (body : Body) (w : World) :
    let request : Request := ⟨"POST", "/api/forms/remote", query, origin, body⟩
    let served := Server.serve request w
    ∃ made, served.2.calls = w.calls ++ made ∧ ∀ shellBody answer formId,
      .createForm shellBody ∈ made → w.answers.createForm.take.1 = .ok answer →
      answer.get? "formId" = some (.str formId) → formId ≠ "" →
      (FormsService.ReadableUri answer → served.1.Names formId ∧
        (served.1.status = 200 ∨ served.1.status = 502)) ∧
      (¬ FormsService.ReadableUri answer → served.1 = FormsService.withoutFormId answer) := by
  intro request served
  rcases served_or_made request rfl rfl w with
    hturned | ⟨d, u, hplan, hlike, hresponse, hafter⟩
  · have hcalls : served.2.calls = w.calls ++ [] := by
      rw [List.append_nil]
      exact congrArg World.calls hturned
    exact ⟨[], hcalls, fun _ _ _ hasked => nomatch hasked⟩
  obtain ⟨made, -, hcalls⟩ := Account.making_createForm request.account u hplan
  refine ⟨made, ?_, fun shellBody answer formId hasked hanswer hid hname => ?_⟩
  · rw [hlike.calls, ← hafter] at hcalls
    exact hcalls
  rw [← hlike.answers] at hanswer
  obtain ⟨hknown, hfailed⟩ := Account.known_of_createForm (Prod.eta _).symm hcalls hasked hanswer hid hname
  rw [show served.1 = _ from hresponse]
  refine ⟨fun hplace => (hknown hplace).names, fun hplace => ?_⟩
  rw [hfailed hplace]
  rfl

/-- A form is created and its id is lost, where the `responderUri` is `null`. -/
theorem created_form_id_unreported :
    let given : Json := .obj [
      ("title", .str "Tea"),
      ("sections", .arr [.obj [
        ("title", .str "Black"),
        ("questions", .arr [.obj [("title", .str "Since when?"), ("type", .str "DATE")]])]])]
    let answer : Json := .obj [("formId", .str "form123"), ("responderUri", .null)]
    let tokens : String := "\x7b\"forms\": \x7b\"token\": \"t\", \"refresh_token\": \"r\", "
      ++ "\"client_id\": \"c\", \"client_secret\": \"s\", \"expiry\": \"2999-01-01T00:00:00Z\"\x7d\x7d"
    let w : World := {
      now := Moment.epoch
      files := [("tokens.json", tokens)]
      answers := { createForm := ⟨[.ok answer], .null⟩ } }
    let served := Server.serve (.posting "/api/forms/remote" [] "" given) w
    .createForm (FormsService.shellBody "Tea") ∈ served.2.calls ∧
      answer.get? "formId" = some (.str "form123") ∧ served.1 = FormsService.withoutFormId answer := by
  decide +kernel

end Formwork
