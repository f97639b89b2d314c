import Formwork.Proofs.Plan.Content
import Formwork.Proofs.Script.Execution
import Formwork.Proofs.Service.KnownForm

/-!
# What the calls for a remote form carry

The script of a definition sets the description of the form; the calls that create a remote form do not carry it.
`requests_carry_title_and_content` says so by saying what they do carry: two definitions make the same calls in every
world exactly when they have the same title and the same content (`Definition.SameContent`), and the description is
neither.

That the calls carry no more holds in every world, because the orchestrator uses the title and the plan of a definition
only (`Orchestrator.create_congr`).  That they carry all of this is shown by a world in which both calls are made
(`Account.Ready`).
-/
namespace Formwork

/-! ### The calls carry no more -/

namespace Orchestrator

/-- The orchestrator uses the title and the plan of a definition only. -/
theorem create_congr {σ : Type} {c : Collaborators σ} {d e : Definition} (htitle : d.title = e.title)
    (hplan : c.plan d = c.plan e) : create c d = create c e := by
  funext o s
  unfold create populate
  rw [htitle, hplan]

end Orchestrator

/-- Definitions with one title and one plan have the same run. -/
theorem Account.createForm_congr {d e : Definition} (htitle : d.title = e.title) (hplan : d.plan = e.plan)
    (account : String) : createForm account d = createForm account e := by
  have hcreate : ∀ session, Orchestrator.create (Connection.collaborators session) d =
      Orchestrator.create (Connection.collaborators session) e := by
    intro session
    refine Orchestrator.create_congr htitle ?_
    show (pure d.plan : Act Connection Plan) = pure e.plan
    rw [hplan]
  unfold createForm
  simp only [hcreate]

/-! ### The calls carry all of this -/

namespace Account

/-- A world in which the calls for a form are made: the account has a valid token, and the Forms API will answer
with this form id.  The settings are cached, so that looking up the token changes nothing. -/
structure Ready (account : String) (w : World) (token : Json) (formId : String) : Prop where
  token : ∃ store c, TokenStore.current.run w = (.ok store, w) ∧
    (store.findCredentials (key account)).run w = (.ok (some (c, .good)), w) ∧ c.token = token
  form : ∃ answer, w.answers.createForm.take.1 = .ok answer ∧
    answer.get? "formId" = some (.str formId) ∧ FormsService.ReadableUri answer
  name : formId ≠ ""

variable {account formId : String} {token : Json} {w : World} {d : Definition}

/-- There the form shell is created. -/
theorem Ready.run_createShell (h : Ready account w token formId) (title : String) :
    ∃ shell v, shell.id = formId ∧
      (Connection.createShell (.account account) title).run ⟨w, false⟩ = (.ok shell, ⟨v, true⟩) ∧
      v.calls = w.calls ++ [.connect token, .createForm (FormsService.shellBody title)] := by
  obtain ⟨store, c, hsettles, hfinds, rfl⟩ := h.token
  obtain ⟨answer, hanswer, hid, hplace⟩ := h.form
  have hcredentials : (credentials account).run w = (.ok c, w) := by
    rw [credentials_eq, Act.run_bind_ok hsettles, Act.run_bind_ok hfinds]
    rfl
  have htoken : (TokenSource.account account).token.run w = (.ok c.token, w) :=
    Act.run_bind_ok hcredentials
  let called := w.called (.connect c.token)
  let asked := called.answered (.createForm (FormsService.shellBody title))
    { called.answers with createForm := called.answers.createForm.take.2 }
  have hcreates : ((Connection.inWorld (World.createForm (FormsService.shellBody title))).mapFailure
      FormsService.ofFailedCall).run ⟨called, true⟩ = (.ok answer, ⟨asked, true⟩) := by
    have hreply : called.answers.createForm.take.1 = .ok answer := hanswer
    rw [Act.run_mapFailure, Connection.run_inWorld, World.createForm, World.run_request, hreply]
    rfl
  obtain ⟨shell, hshell, hreads⟩ :=
    FormsService.exists_shell (s := (⟨asked, true⟩ : Connection)) hid hplace
  refine ⟨shell, asked, hshell, ?_, ?_⟩
  · unfold Connection.createShell
    rw [Act.run_bind_ok (Connection.connect_ok htoken), Act.run_bind_ok hcreates, hreads]
  · show w.calls ++ [_] ++ [_] = _
    rw [List.append_assoc]
    rfl

/-- **The calls for a form in such a world.** -/
theorem Ready.calls_createForm (h : Ready account w token formId) (hplan : d.plan ≠ []) :
    ((createForm account d).run w).2.calls = w.calls ++ [.connect token,
      .createForm (FormsService.shellBody d.title),
      .fillForm formId (FormsService.fillBody d.plan)] := by
  obtain ⟨store, c, hsettles, hfinds, -⟩ := h.token
  obtain ⟨shell, v, hshell, hmakes, hcalls⟩ := h.run_createShell d.title
  let session : AccountSession := ⟨account, store⟩
  have hstart : (AccountSession.start account).run w = (.ok session, w) := Act.run_bind_ok hsettles
  have hasks : (Connection.collaborators session).isSignedIn.run ⟨w, false⟩ =
      (.ok true, ⟨w, false⟩) := by
    show (Connection.inWorld (store.isUsable (key account))).run ⟨w, false⟩ = _
    rw [Connection.run_inWorld, TokenStore.isUsable_eq, Act.run_map, hfinds]
    rfl
  have hname : shell.id ≠ "" := hshell ▸ h.name
  have hfills := Connection.run_fill (.account account) shell.id d.plan v
  have hfilled : (Orchestrator.create (Connection.collaborators session) d .fresh
      ⟨w, false⟩).state.world.calls =
      v.calls ++ [.fillForm shell.id (FormsService.fillBody d.plan)] := by
    have hplans : (Connection.collaborators session).plan d = pure d.plan := rfl
    unfold Orchestrator.create
    simp only [hasks]
    -- the collaborators make the first call as it was made above
    rw [show (Connection.collaborators session).createShell d.title =
      Connection.createShell (.account account) d.title from rfl, hmakes]
    simp only [if_neg hname, Orchestrator.populate, hplans, Act.run_pure]
    rw [Orchestrator.carryOut_of_fill hplan hfills]
    rcases v.answers.fillForm.take.1 with problem | reply
    · rfl
    · rfl
  unfold createForm
  rw [Act.run_bind_ok hstart, ← hshell]
  refine hfilled.trans ?_
  rw [hcalls, List.append_assoc]
  rfl

/-- There is such a world. -/
theorem exists_ready : ∃ account w token formId, Ready account w token formId := by
  let tokens : String := "\x7b\"forms\": \x7b\"token\": \"t\", \"refresh_token\": \"r\", "
    ++ "\"client_id\": \"c\", \"client_secret\": \"s\", \"expiry\": \"2999-01-01T00:00:00Z\"\x7d\x7d"
  let w : World := {
    now := Moment.epoch
    settings := some {}
    files := [("tokens.json", tokens)]
    answers := { createForm := ⟨[], .obj [("formId", .str "form123")]⟩ } }
  let c : Credentials := {
    token := .str "t", refreshToken := .str "r", tokenUri := .str Credentials.tokenEndpoint
    clientId := .str "c", clientSecret := .str "s"
    expiry := (Moment.read "2999-01-01T00:00:00").toOption }
  let store : TokenStore := { file := "tokens.json" }
  have hfinds : (store.findCredentials (key Account.default)).run w = (.ok (some (c, .good)), w) := by
    have hfound : ((store.findCredentials (key Account.default)).run w).1 = .ok (some (c, .good)) := by
      decide +kernel
    rw [(store.looks_findCredentials _).run_eq, hfound]
  exact ⟨Account.default, w, .str "t", "form123", ⟨store, c, rfl, hfinds, rfl⟩,
    ⟨_, rfl, rfl, "", rfl⟩, by decide⟩

end Account

/-! ### The content of a definition -/

namespace Definition

variable {raw other d e : Definition}

theorem plan_eq_iff_sameContent (hd : raw.validate = .ok d) (he : other.validate = .ok e) :
    d.plan = e.plan ↔ d.SameContent e := by
  rw [plan_eq_iff, planSettings_eq_iff, planItems_eq_iff (sections_ne_nil_of_validate hd)
    (sections_ne_nil_of_validate he) (normal_of_validate hd) (normal_of_validate he)]
  constructor
  · rintro ⟨⟨hquiz, hsettings⟩, hheadings, hquestions⟩
    exact ⟨hquiz, hsettings, hheadings, hquestions⟩
  · intro h
    exact ⟨⟨h.quiz, h.settings⟩, h.headings, h.questions⟩

/-- The plan of a validated definition is determined by its requests. -/
theorem plan_eq_of_requests_eq (hd : raw.validate = .ok d) (he : other.validate = .ok e)
    (h : d.plan.requests = e.plan.requests) : d.plan = e.plan := by
  have hclean := Plan.clean_eq_of_same (Json.same_of_eq (congrArg Json.arr h))
  rw [map_clean_plan (normal_of_validate hd), map_clean_plan (normal_of_validate he)] at hclean
  exact hclean

/-- A validated definition has no description, or one that is not empty. -/
theorem nonempty?_description (h : raw.validate = .ok d) :
    Text.nonempty? d.description = d.description := by
  unfold validate at h
  split at h
  · cases h
  · cases h
    exact Text.nonempty?_present? raw.description

end Definition

/-- The script of a validated definition sets its description. -/
theorem Script.description_of_execute {raw d : Definition} (h : raw.validate = .ok d)
    (P : FormApp.Platform) (options : Options) (names : Nat → ItemName) :
    ∃ s form, Script.execute P entryFunction (d.script options names).text = some (.ok (), s) ∧
      s.account.forms = [form] ∧ form.description = d.description := by
  obtain ⟨s, hrun, haccount⟩ := execute_script P d options names
  rw [Definition.built_eq] at haccount
  exact ⟨s, _, hrun, by rw [haccount], Definition.nonempty?_description h⟩

/-- **The calls carry the title and the content of a form, and not its description.**  The forms of two validated
definitions take the same calls in every world exactly when their titles and their contents agree, and then their
runs are the same, with the answer and the log.  Definitions that differ in the description only are such
definitions, though their scripts differ. -/
theorem requests_carry_title_and_content {raw other d e : Definition} (hd : raw.validate = .ok d)
    (he : other.validate = .ok e) :
    ((∀ account w, ((Account.createForm account d).run w).2.calls =
        ((Account.createForm account e).run w).2.calls) ↔ d.title = e.title ∧ d.SameContent e) ∧
      (d.title = e.title → d.SameContent e →
        ∀ account, Account.createForm account d = Account.createForm account e) ∧
      (e = { d with description := e.description } → d.title = e.title ∧ d.SameContent e) ∧
      ∀ P options names, ∃ s form,
        Script.execute P Script.entryFunction (d.script options names).text = some (.ok (), s) ∧
        s.account.forms = [form] ∧ form.description = d.description := by
  have hplans := Definition.plan_eq_iff_sameContent hd he
  have hsame : d.title = e.title → d.SameContent e →
      ∀ account, Account.createForm account d = Account.createForm account e :=
    fun htitle hcontent => Account.createForm_congr htitle (hplans.mpr hcontent)
  refine ⟨⟨fun hcalls => ?_, fun ⟨htitle, hcontent⟩ account w => ?_⟩, hsame, fun hdescription => ?_,
    Script.description_of_execute hd⟩
  · obtain ⟨account, w, token, formId, hready⟩ := Account.exists_ready
    have htold := hcalls account w
    rw [hready.calls_createForm (Definition.plan_ne_nil (Definition.slots_ne_nil_of_validate hd)),
      hready.calls_createForm (Definition.plan_ne_nil (Definition.slots_ne_nil_of_validate he))] at htold
    have hcreated := List.append_cancel_left htold
    obtain ⟨hshell, hfill⟩ : FormsService.shellBody d.title = FormsService.shellBody e.title ∧
        FormsService.fillBody d.plan = FormsService.fillBody e.plan := by
      simpa using hcreated
    have htitle : d.title = e.title := by
      simpa [FormsService.shellBody] using hshell
    have hrequests : d.plan.requests = e.plan.requests := by
      simpa [FormsService.fillBody] using hfill
    exact ⟨htitle, hplans.mp (Definition.plan_eq_of_requests_eq hd he hrequests)⟩
  · rw [hsame htitle hcontent]
  · have hplan : d.plan = e.plan := by
      rw [hdescription]
      rfl
    exact ⟨(congrArg Definition.title hdescription).symm, hplans.mp hplan⟩

/-- The script of this form sets the description, and the calls are those of the form without it. -/
theorem requests_carry_title_and_content_tea :
    let d : Definition :=
      { title := "Tea"
        description := some "All about tea"
        sections := [⟨"Black", none, [{ title := "Since when?", kind := .known .shortAnswer }]⟩] }
    let e : Definition := { d with description := none }
    d.validate = .ok d ∧ e.validate = .ok e ∧ e = { d with description := e.description } ∧
      (∀ account, Account.createForm account d = Account.createForm account e) ∧
      ∀ P options names, ∃ s form,
        Script.execute P Script.entryFunction (d.script options names).text = some (.ok (), s) ∧
        s.account.forms = [form] ∧ form.description = some "All about tea" := by
  intro d e
  have hd : d.validate = .ok d := by decide
  have he : e.validate = .ok e := by decide
  obtain ⟨-, hsame, hapart, hscript⟩ := requests_carry_title_and_content hd he
  obtain ⟨htitle, hcontent⟩ := hapart rfl
  exact ⟨hd, he, rfl, hsame htitle hcontent, hscript⟩

/-- The description `All about tea` occurs in none of the calls. -/
theorem description_not_carried :
    let d : Definition :=
      { title := "Tea"
        description := some "All about tea"
        sections := [⟨"Black", none, [{ title := "Since when?", kind := .known .shortAnswer }]⟩] }
    let answer : Json :=
      .obj [("formId", .str "form123"), ("responderUri", .str "https://r/form123")]
    let tokens : String := "\x7b\"forms\": \x7b\"token\": \"t\", \"refresh_token\": \"r\", "
      ++ "\"client_id\": \"c\", \"client_secret\": \"s\", \"expiry\": \"2999-01-01T00:00:00Z\"\x7d\x7d"
    let w : World := {
      now := Moment.epoch
      files := [("tokens.json", tokens)]
      answers := { createForm := ⟨[.ok answer], .null⟩ } }
    let made := (Account.createForm Account.default d).run w
    let question : Json := .obj [
      ("title", .str "Since when?"),
      ("questionItem", .obj [("question", .obj [
        ("required", .bool false), ("textQuestion", .obj [("paragraph", .bool false)])])])]
    d.validate = .ok d ∧
      made.1 = .ok ⟨"form123", "https://docs.google.com/forms/d/form123/edit", "https://r/form123", 1⟩ ∧
      made.2.calls = [
        .connect (.str "t"),
        .createForm (.obj [("info", .obj [("title", .str "Tea"), ("documentTitle", .str "Tea")])]),
        .fillForm "form123" (.obj [("requests", .arr [.obj [("createItem", .obj [
          ("item", question), ("location", .obj [("index", .int 0)])])]])])] ∧
      made.2.calls =
        ((Account.createForm Account.default { d with description := none }).run w).2.calls := by
  decide +kernel

end Formwork
