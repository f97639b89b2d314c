import Formwork.Proofs.Account.Token
import Formwork.Proofs.Remote.Course
import Formwork.Proofs.Schema.Reading
import Formwork.Remote.Backend

/-!
# The calls of `create_remote_form`

The requests that `create_remote_form` makes for an account.  `create_shell` is the first call of the backend, so it
builds the service and needs a token; `batch_mutate` uses the service that is built.

`Opening` lists the ways in which `create_shell` can go, and `Making` those of the whole operation, each with its
calls.  `making_createForm` maps the course of the orchestrator to one of them.
-/
namespace Formwork

/-! ### Shells -/

/-- The response of `forms.create` describes this shell. -/
structure FormShell.Describes (answer : Json) (shell : FormShell) : Prop where
  id : (answer.get? "formId").getD (.str "") = .str shell.id
  editUrl : shell.id ≠ "" → shell.editUrl = FormsService.editUrl shell.id
  /-- `responderUri` may be missing. -/
  shareUrl : (answer.get? "responderUri").getD (.str "") = .str shell.shareUrl

/-- The id of a shell that has one is the `formId` of the response. -/
theorem FormShell.Describes.get?_formId {answer : Json} {shell : FormShell}
    (h : shell.Describes answer) (name : shell.id ≠ "") :
    answer.get? "formId" = some (.str shell.id) := by
  have hid := h.id
  cases hget : answer.get? "formId" with
  | none =>
    rw [hget] at hid
    exact absurd (Json.str.inj hid).symm name
  | some value =>
    rw [hget] at hid
    exact congrArg some hid

/-- A shell is read field by field. -/
theorem FormShell.eq_str_of_read {id editUrl shareUrl : Json} {shell : FormShell}
    (h : FormShell.read (.obj [("id", id), ("edit_url", editUrl), ("share_url", shareUrl)]) =
      .done shell) :
    id = .str shell.id ∧ editUrl = .str shell.editUrl ∧ shareUrl = .str shell.shareUrl := by
  have hread : FormShell.mk <$> (Reading.text id).under (.key "id")
      <*> (Reading.text editUrl).under (.key "edit_url")
      <*> (Reading.text shareUrl).under (.key "share_url") = .done shell := by
    simpa [FormShell.read, Reading.object, FieldName.required, FieldName.find?, FieldName.only,
      Fields.get?] using h
  obtain ⟨withShare, share, hrest, hshare, rfl⟩ := Reading.seq_eq_done.mp hread
  obtain ⟨withEdit, edit, hid, hedit, rfl⟩ := Reading.seq_eq_done.mp hrest
  obtain ⟨name, hname, rfl⟩ := Reading.map_eq_done.mp hid
  rw [Reading.under_eq_done, Reading.text_eq_done] at hname hedit hshare
  exact ⟨hname, hedit, hshare⟩

theorem FormsService.describes_of_shell {σ : Type} {answer : Json} {shell : FormShell} {s t : σ}
    (h : (FormsService.shell answer).run s = (.ok shell, t)) : shell.Describes answer := by
  cases answer with
  | obj fields =>
    have hread : (Act.ofReading "FormShell" (FormShell.read (.obj [
        ("id", (Fields.get? "formId" fields).getD (.str "")),
        ("edit_url", .str (if ((Fields.get? "formId" fields).getD (.str "")).truthy then
          editUrl ((Fields.get? "formId" fields).getD (.str "")).bare else "")),
        ("share_url", (Fields.get? "responderUri" fields).getD (.str ""))]))).run s =
          (.ok shell, t) := h
    rcases hshell : FormShell.read _ with found | issues
    · rw [hshell] at hread
      obtain rfl : found = shell := Except.ok.inj (congrArg Prod.fst hread)
      obtain ⟨hid, hedit, hshare⟩ := FormShell.eq_str_of_read hshell
      refine ⟨hid, fun hname => ?_, hshare⟩
      have htruthy : (Json.str found.id).truthy = true := decide_eq_true hname
      rw [hid, if_pos htruthy] at hedit
      exact (Json.str.inj hedit).symm
    · rw [hshell] at hread
      cases hread
  | _ => cases h

/-- Reading a response changes no state. -/
theorem FormsService.looks_shell {σ : Type} (answer : Json) :
    (FormsService.shell answer : Act σ FormShell).Looks fun _ => () :=
  (Act.looks_ofProblem _ _).bind fun _ => Act.looks_ofReading _ _ _

namespace Connection

variable {source : TokenSource} {account title : String} {w v : World} {calls : List Call}
  {shell : FormShell} {failure : Failure} {connection : Connection}

theorem run_inWorld {α : Type} (act : Act World α) (w : World) (isOpen : Bool) :
    (inWorld act).run ⟨w, isOpen⟩ = ((act.run w).1, ⟨(act.run w).2, isOpen⟩) := rfl

theorem connect_error (h : source.token.run w = (.error failure, v)) :
    (connect source).run ⟨w, false⟩ = (.error (noToken failure), ⟨v, false⟩) := by
  have hget : ((inWorld source.token).mapFailure noToken).run ⟨w, false⟩ =
      (.error (noToken failure), ⟨v, false⟩) := by
    rw [Act.run_mapFailure, run_inWorld, h]
    rfl
  exact (Act.run_bind_ok (Act.run_state _)).trans (Act.run_bind_error hget)

theorem connect_ok {token : Json} (h : source.token.run w = (.ok token, v)) :
    (connect source).run ⟨w, false⟩ = (.ok (), ⟨v.called (.connect token), true⟩) := by
  have hget : ((inWorld source.token).mapFailure noToken).run ⟨w, false⟩ =
      (.ok token, ⟨v, false⟩) := by
    rw [Act.run_mapFailure, run_inWorld, h]
    rfl
  exact (Act.run_bind_ok (Act.run_state _)).trans (Act.run_bind_ok hget)

theorem connect_open : (connect source).run ⟨w, true⟩ = (.ok (), ⟨w, true⟩) := rfl

/-! ### The first call -/

/-- The ways in which `create_shell` can go before the service is built: the calls, the outcome and the connection
after it. -/
inductive Opening (account title : String) (w : World) :
    List Call → Except Failure FormShell → Connection → Prop
  /-- No token is obtained. -/
  | tokenless {calls : List Call} {failure : Failure} {v : World}
      (obtains : Account.Obtaining account w calls (.error failure) v) :
      Opening account title w calls (.error (noToken failure)) ⟨v, false⟩
  /-- `forms.create` is refused. -/
  | refused {calls : List Call} {c : Credentials} {failure : Failure} {v u : World}
      (obtains : Account.Obtaining account w calls (.ok c) v)
      (creates : (World.createForm (FormsService.shellBody title)).run (v.called (.connect c.token)) =
        (.error failure, u)) :
      Opening account title w
        (calls ++ [.connect c.token, .createForm (FormsService.shellBody title)])
        (.error (FormsService.ofFailedCall failure)) ⟨u, true⟩
  /-- `forms.create` answers, and the response is read. -/
  | answered {calls : List Call} {c : Credentials} {answer : Json}
      {result : Except Failure FormShell} {v u : World}
      (obtains : Account.Obtaining account w calls (.ok c) v)
      (creates : (World.createForm (FormsService.shellBody title)).run (v.called (.connect c.token)) =
        (.ok answer, u))
      (reads : (FormsService.shell answer).run (⟨u, true⟩ : Connection) = (result, ⟨u, true⟩)) :
      Opening account title w
        (calls ++ [.connect c.token, .createForm (FormsService.shellBody title)]) result ⟨u, true⟩

theorem opening_createShell (account title : String) (w : World) :
    ∃ calls, Opening account title w calls
      ((createShell (.account account) title).run ⟨w, false⟩).1
      ((createShell (.account account) title).run ⟨w, false⟩).2 := by
  unfold createShell
  obtain ⟨calls, hobtains⟩ := Account.obtaining_credentials account w
  rcases hrun : (Account.credentials account).run w with ⟨failure | c, v⟩
  · rw [hrun] at hobtains
    have htoken : (TokenSource.account account).token.run w = (.error failure, v) :=
      Act.run_bind_error hrun
    rw [Act.run_bind_error (connect_error htoken)]
    exact ⟨calls, .tokenless hobtains⟩
  rw [hrun] at hobtains
  have htoken : (TokenSource.account account).token.run w = (.ok c.token, v) :=
    Act.run_bind_ok hrun
  rw [Act.run_bind_ok (connect_ok htoken)]
  have hasked := Act.run_mapFailure FormsService.ofFailedCall
    (inWorld (World.createForm (FormsService.shellBody title))) ⟨v.called (.connect c.token), true⟩
  rw [run_inWorld] at hasked
  rcases hcreates : (World.createForm (FormsService.shellBody title)).run
    (v.called (.connect c.token)) with ⟨failure | answer, u⟩
  · rw [hcreates] at hasked
    rw [Act.run_bind_error hasked]
    exact ⟨_, .refused hobtains hcreates⟩
  · rw [hcreates] at hasked
    have hreads := (FormsService.looks_shell answer).run_eq (⟨u, true⟩ : Connection)
    rw [Act.run_bind_ok hasked, hreads]
    exact ⟨_, .answered hobtains hcreates hreads⟩

/-- Every run of `create_shell` is one of these. -/
theorem exists_opening {result : Except Failure FormShell}
    (h : (createShell (.account account) title).run ⟨w, false⟩ = (result, connection)) :
    ∃ calls, Opening account title w calls result connection := by
  obtain ⟨calls, hopening⟩ := opening_createShell account title w
  rw [h] at hopening
  exact ⟨calls, hopening⟩

/-- The calls of an opening, none of them a batchUpdate. -/
theorem Opening.calls_eq {result : Except Failure FormShell}
    (h : Opening account title w calls result connection) :
    connection.world.calls = w.calls ++ calls ∧
      connection.world.answers.fillForm = w.answers.fillForm := by
  have hasked : ∀ {calls : List Call} {c : Credentials} {answer : Except Failure Json} {v u : World},
      Account.Aside calls w v →
      (World.createForm (FormsService.shellBody title)).run (v.called (.connect c.token)) =
        (answer, u) →
      u.calls = w.calls ++ (calls ++ [.connect c.token, .createForm (FormsService.shellBody title)]) ∧
        u.answers.fillForm = w.answers.fillForm := by
    intro calls c answer v u haside hcreates
    rw [World.createForm, World.run_request] at hcreates
    cases hcreates
    refine ⟨?_, haside.fillForm⟩
    show v.calls ++ [.connect c.token] ++ [.createForm _] = _
    rw [haside.calls, List.append_assoc, List.append_assoc]
    rfl
  cases h with
  | tokenless obtains => exact ⟨obtains.aside.calls, obtains.aside.fillForm⟩
  | refused obtains creates => exact hasked obtains.aside creates
  | answered obtains creates reads => exact hasked obtains.aside creates

/-- The calls of an opening that fails. -/
theorem Opening.error (h : Opening account title w calls (.error failure) connection) :
    (calls = [] ∨ ∃ old, calls = [.refreshToken old]) ∨ ∃ before token,
      Account.Authorized account w before token ∧
      calls = before ++ [.connect token, .createForm (FormsService.shellBody title)] := by
  cases h with
  | tokenless obtains => exact Or.inl obtains.few
  | refused obtains creates => exact Or.inr ⟨_, _, obtains.authorized, rfl⟩
  | answered obtains creates reads => exact Or.inr ⟨_, _, obtains.authorized, rfl⟩

/-- The calls of an opening that yields a shell, and the response that describes it. -/
theorem Opening.ok (h : Opening account title w calls (.ok shell) connection) :
    connection.isOpen = true ∧ (∃ answer, w.answers.createForm.take.1 = .ok answer ∧
      shell.Describes answer) ∧ ∃ before token, Account.Authorized account w before token ∧
      calls = before ++ [.connect token, .createForm (FormsService.shellBody title)] := by
  cases h with
  | @answered before c answer _ v u obtains creates reads =>
    refine ⟨rfl, ⟨answer, ?_, FormsService.describes_of_shell reads⟩, _, _, obtains.authorized, rfl⟩
    rw [World.createForm, World.run_request] at creates
    rw [← obtains.aside.createForm]
    exact Act.mapError_eq_ok.mp (congrArg Prod.fst creates)

/-! ### The second call -/

/-- `batch_mutate` over the service that is built obtains no token. -/
theorem run_fill (source : TokenSource) (formId : String) (plan : Plan) (w : World) :
    (fill source formId plan).run ⟨w, true⟩ =
      (match w.answers.fillForm.take.1 with
        | .ok _ => .ok ()
        | .error problem => .error (FormsService.ofFailedCall ⟨problem, []⟩),
        ⟨w.answered (.fillForm formId (FormsService.fillBody plan))
          { w.answers with fillForm := w.answers.fillForm.take.2 }, true⟩) := by
  unfold fill
  rw [Act.run_bind_ok connect_open, Act.run_bind, Act.run_mapFailure, run_inWorld, World.fillForm,
    World.run_request]
  rcases w.answers.fillForm.take.1 with problem | answer
  · rfl
  · rfl

end Connection

/-! ### The whole operation -/

namespace Account

/-- The ways in which `create_remote_form` can go, from a world: the calls and the outcome. -/
inductive Making (account : String) (d : Definition) (w : World) :
    List Call → Except Failure RemoteForm → Prop
  /-- The sign-in check fails or answers no. -/
  | barred {failure : Failure} : Making account d w [] (.error failure)
  /-- No token is obtained. -/
  | tokenless {calls : List Call} {failure : Failure}
      (signedIn : ((isSignedIn account).run w).1 = .ok true)
      (few : calls = [] ∨ ∃ old, calls = [.refreshToken old]) :
      Making account d w calls (.error failure)
  /-- The shell is not created, or has no id. -/
  | unmade {calls : List Call} {token : Json} {failure : Failure}
      (signedIn : ((isSignedIn account).run w).1 = .ok true)
      (authorized : Authorized account w calls token) :
      Making account d w (calls ++ [.connect token, .createForm (FormsService.shellBody d.title)])
        (.error failure)
  /-- The batch fails. -/
  | unfilled {calls : List Call} {token answer : Json} {shell : FormShell} {problem : Problem}
      {failure : Failure} (signedIn : ((isSignedIn account).run w).1 = .ok true)
      (authorized : Authorized account w calls token)
      (creates : w.answers.createForm.take.1 = .ok answer) (describes : shell.Describes answer)
      (name : shell.id ≠ "") (fills : w.answers.fillForm.take.1 = .error problem) :
      Making account d w
        (calls ++ [.connect token, .createForm (FormsService.shellBody d.title),
          .fillForm shell.id (FormsService.fillBody d.plan)])
        (.error failure)
  | filled {calls : List Call} {token answer reply : Json} {shell : FormShell}
      (signedIn : ((isSignedIn account).run w).1 = .ok true)
      (authorized : Authorized account w calls token)
      (creates : w.answers.createForm.take.1 = .ok answer) (describes : shell.Describes answer)
      (name : shell.id ≠ "") (fills : w.answers.fillForm.take.1 = .ok reply) :
      Making account d w
        (calls ++ [.connect token, .createForm (FormsService.shellBody d.title),
          .fillForm shell.id (FormsService.fillBody d.plan)])
        (.ok ⟨shell.id, shell.editUrl, shell.shareUrl, d.plan.length⟩)

variable {account : String} {d : Definition} {w v : World} {calls : List Call}
  {result : Except Failure RemoteForm}

/-- Alike worlds allow the same ways. -/
theorem Making.congr (h : Making account d v calls result) (hlike : w.Alike v) :
    Making account d w calls result := by
  have hsignedIn : ((isSignedIn account).run v).1 = ((isSignedIn account).run w).1 :=
    isSignedIn_congr hlike
  cases h with
  | barred => exact .barred
  | tokenless signedIn few => exact .tokenless (hsignedIn ▸ signedIn) few
  | unmade signedIn authorized => exact .unmade (hsignedIn ▸ signedIn) (authorized.congr hlike)
  | unfilled signedIn authorized creates describes name fills =>
    rw [hlike.answers] at creates fills
    exact .unfilled (hsignedIn ▸ signedIn) (authorized.congr hlike) creates describes name fills
  | filled signedIn authorized creates describes name fills =>
    rw [hlike.answers] at creates fills
    exact .filled (hsignedIn ▸ signedIn) (authorized.congr hlike) creates describes name fills

/-- The start of a session keeps the world alike. -/
theorem alike_start {started : Except Failure AccountSession}
    (h : (AccountSession.start account).run w = (started, v)) : w.Alike v := by
  have hrun : (AccountSession.start account).run w =
      ((TokenStore.current.run w).1.map (AccountSession.mk account), (TokenStore.current.run w).2) :=
    Act.run_bind_pure ..
  rw [hrun] at h
  cases h
  exact (TokenStore.alike_current (Prod.eta (TokenStore.current.run w)).symm).1

theorem account_of_start {session : AccountSession}
    (h : (AccountSession.start account).run w = (.ok session, v)) : session.account = account := by
  obtain ⟨store, u, -, hsession⟩ := Act.run_bind_eq_ok.mp h
  cases hsession
  rfl

/-- The sign-in check changes no state. -/
theorem run_isSignedIn {session : AccountSession} {answer : Except Failure Bool} {t : Connection}
    (h : (Connection.collaborators session).isSignedIn.run ⟨v, false⟩ = (answer, t)) :
    session.isSignedIn.run v = (answer, v) ∧ t = ⟨v, false⟩ := by
  have hlooks := session.store.looks_isUsable (key session.account)
  have hrun : (Connection.inWorld session.isSignedIn).run ⟨v, false⟩ = (answer, t) := h
  rw [Connection.run_inWorld, AccountSession.isSignedIn, hlooks.run_eq] at hrun
  cases hrun
  exact ⟨hlooks.run_eq v, rfl⟩

/-- A second phase after an opening ends in one of the ways. -/
theorem making_of_filling {session : AccountSession} {shell : FormShell} {u t : Connection}
    {exchanges : List Exchange} (hplan : d.plan ≠ []) (name : shell.id ≠ "")
    (hlike : w.Alike v) (signedIn : ((isSignedIn session.account).run w).1 = .ok true)
    (hopening : Connection.Opening session.account d.title v calls (.ok shell) u)
    (h : Orchestrator.Filling (Connection.collaborators session) d shell u exchanges result t) :
    ∃ calls, Making session.account d w calls result ∧ t.world.calls = w.calls ++ calls := by
  obtain ⟨hopen, ⟨answer, creates, describes⟩, before, token, hauthorized, rfl⟩ := hopening.ok
  obtain ⟨hcalls, hfillForm⟩ := hopening.calls_eq
  obtain ⟨world, isOpen⟩ := u
  obtain rfl : isOpen = true := hopen
  have hrun := Connection.run_fill (.account session.account) shell.id d.plan world
  have hafter : (world.calls ++ [.fillForm shell.id (FormsService.fillBody d.plan)]) = w.calls ++
      (before ++ [.connect token, .createForm (FormsService.shellBody d.title),
        .fillForm shell.id (FormsService.fillBody d.plan)]) := by
    rw [← hlike.calls, show world.calls = _ from hcalls, List.append_assoc, List.append_assoc]
    rfl
  rw [hlike.answers] at creates
  rw [show world.answers.fillForm = _ from hfillForm, hlike.answers] at hrun
  cases h with
  | unplanned plans => cases plans
  | nothing plans => exact absurd (Except.ok.inj (congrArg Prod.fst plans)) hplan
  | unfilled plans work fills =>
    cases plans
    have hanswered := hrun.symm.trans fills
    rcases hanswer : w.answers.fillForm.take.1 with problem | reply
    · rw [hanswer] at hanswered
      cases hanswered
      exact ⟨_, .unfilled signedIn (hauthorized.congr hlike) creates describes name hanswer, hafter⟩
    · rw [hanswer] at hanswered
      cases hanswered
  | filled plans work fills =>
    cases plans
    have hanswered := hrun.symm.trans fills
    rcases hanswer : w.answers.fillForm.take.1 with problem | reply
    · rw [hanswer] at hanswered
      cases hanswered
    · rw [hanswer] at hanswered
      cases hanswered
      exact ⟨_, .filled signedIn (hauthorized.congr hlike) creates describes name hanswer, hafter⟩

/-- **Every course of the orchestrator is one of the ways.** -/
theorem making_of_course {session : AccountSession} {exchanges : List Exchange} {t : Connection}
    (hstart : (AccountSession.start account).run w = (.ok session, v)) (hplan : d.plan ≠ [])
    (h : Orchestrator.Course (Connection.collaborators session) d ⟨v, false⟩ exchanges result t) :
    ∃ calls, Making account d w calls result ∧ t.world.calls = w.calls ++ calls := by
  have hlike := alike_start hstart
  obtain rfl := account_of_start hstart
  have hbarred : v.calls = w.calls ++ [] := by rw [hlike.calls, List.append_nil]
  have hsignedIn : ∀ {t}, (Connection.collaborators session).isSignedIn.run ⟨v, false⟩ = (.ok true, t) →
      ((isSignedIn session.account).run w).1 = .ok true := by
    intro t hasks
    exact congrArg Prod.fst ((Act.run_bind_ok hstart).trans (run_isSignedIn hasks).1)
  obtain ⟨calls, hopening⟩ := Connection.opening_createShell session.account d.title v
  cases h with
  | unsure asks =>
    obtain ⟨-, rfl⟩ := run_isSignedIn asks
    exact ⟨[], .barred, hbarred⟩
  | signedOut asks =>
    obtain ⟨-, rfl⟩ := run_isSignedIn asks
    exact ⟨[], .barred, hbarred⟩
  | @unmade failure _ _ asks makes =>
    obtain ⟨-, rfl⟩ := run_isSignedIn asks
    have hmakes : (Connection.createShell (.account session.account) d.title).run ⟨v, false⟩ = _ :=
      makes
    rw [hmakes] at hopening
    refine ⟨calls, ?_, by rw [← hlike.calls]; exact hopening.calls_eq.1⟩
    rcases hopening.error with hfew | ⟨before, token, hauthorized, rfl⟩
    · exact .tokenless (hsignedIn asks) hfew
    · exact .unmade (hsignedIn asks) (hauthorized.congr hlike)
  | unnamed asks makes name =>
    obtain ⟨-, rfl⟩ := run_isSignedIn asks
    have hmakes : (Connection.createShell (.account session.account) d.title).run ⟨v, false⟩ = _ :=
      makes
    rw [hmakes] at hopening
    refine ⟨calls, ?_, by rw [← hlike.calls]; exact hopening.calls_eq.1⟩
    obtain ⟨-, -, before, token, hauthorized, rfl⟩ := hopening.ok
    exact .unmade (hsignedIn asks) (hauthorized.congr hlike)
  | made asks makes name filling =>
    obtain ⟨-, rfl⟩ := run_isSignedIn asks
    have hmakes : (Connection.createShell (.account session.account) d.title).run ⟨v, false⟩ = _ :=
      makes
    rw [hmakes] at hopening
    exact making_of_filling hplan name hlike (hsignedIn asks) hopening filling

/-- `create_remote_form` fails at the start of its session, or runs a course of the orchestrator and logs its
events. -/
theorem course_of_createForm {result : Except Failure RemoteForm} {v : World}
    (h : (createForm account d).run w = (result, v)) :
    (w.Alike v ∧ ∃ failure, result = .error failure) ∨
      ∃ session u exchanges t records, (AccountSession.start account).run w = (.ok session, u) ∧
        Orchestrator.Course (Connection.collaborators session) d ⟨u, false⟩ exchanges result t ∧
        v = t.world.logged records := by
  unfold createForm at h
  rcases hstart : (AccountSession.start account).run w with ⟨failure | session, u⟩
  · rw [Act.run_bind_error hstart] at h
    cases h
    exact Or.inl ⟨alike_start hstart, failure, rfl⟩
  · rw [Act.run_bind_ok hstart] at h
    cases h
    obtain ⟨exchanges, hcourse⟩ := Orchestrator.course_create (Connection.collaborators session) d
      .fresh ⟨u, false⟩
    exact Or.inr ⟨session, u, exchanges, _, _, rfl, hcourse, rfl⟩

/-- **Every run of `create_remote_form` is one of the ways**, for a definition with a nonempty plan. -/
theorem making_createForm (account : String) (w : World) (hplan : d.plan ≠ []) :
    ∃ calls, Making account d w calls ((createForm account d).run w).1 ∧
      ((createForm account d).run w).2.calls = w.calls ++ calls := by
  unfold createForm
  rcases hstart : (AccountSession.start account).run w with ⟨failure | session, v⟩
  · rw [Act.run_bind_error hstart]
    exact ⟨[], .barred, by rw [(alike_start hstart).calls, List.append_nil]⟩
  · rw [Act.run_bind_ok hstart]
    obtain ⟨exchanges, hcourse⟩ := Orchestrator.course_create (Connection.collaborators session) d
      .fresh ⟨v, false⟩
    exact making_of_course hstart hplan hcourse

end Account
end Formwork
