import Formwork.Proofs.Account.Renewal
import Formwork.Proofs.Service.Serving
import Formwork.Service.Tool

/-!
# Sessions

A session is a list of steps, each of them a request to the server or a tool call at some time.  A step does to
the token store what a renewal for its account does (`SessionStep.renewal`), which is nothing at all for most
steps.  Over a whole session the store therefore changes one entry at a time, by steps for the account of that
entry (`session_renews_own_entry`), and an entry stays as it is while no step is for its account
(`session_keeps_entries`).
-/
namespace Formwork

/-! ### Steps -/

/-- A request or a tool call. -/
inductive Interaction
  /-- A request to the inner application. -/
  | ask (request : Request)
  /-- A request of a client to the outer application. -/
  | askLocally (client : Option String) (request : Request)
  /-- A call of a tool with arguments. -/
  | use (tool : Tool) (given : Fields)

/-- An interaction at some time. -/
structure SessionStep where
  time : Moment
  interaction : Interaction

/-- The account whose credentials a request may change: that of the `state` of an OAuth callback, or the account
that a remote form is created for. -/
def Request.account? (request : Request) : Option String :=
  match Endpoint.ofPath? request.path with
  | some .callback => some (SignIn.accountOf ((request.parameter? "state").getD ""))
  | some .remoteForm => some request.account
  | _ => none

/-- The account whose credentials a tool may change. -/
def Tool.account? (given : Fields) : Tool → Option String
  | createRemote => some (((given.get? "account").map Json.bare).getD Account.default)
  | _ => none

/-- The account whose credentials an interaction may change. -/
def Interaction.account? : Interaction → Option String
  | ask request | askLocally _ request => request.account?
  | use tool given => tool.account? given

/-- The key of the entry that a step may change. -/
def SessionStep.ownName? (step : SessionStep) : Option String := step.interaction.account?.map Account.key

/-- The world after an interaction. -/
def Interaction.after (w : World) : Interaction → World
  | ask request => (Server.serve request w).2
  | askLocally client request => (Server.serveLocally client request w).2
  | use tool given => ((tool.call given).run w).2

/-- The world after a step. -/
def SessionStep.after (step : SessionStep) (w : World) : World := step.interaction.after { w with now := step.time }

/-- The world after a session. -/
def session (steps : List SessionStep) (w : World) : World := steps.foldl (fun w step => step.after w) w

/-! ### Endpoints -/

namespace Endpoint

variable {account? : Option String}

theorem renews_withBody {α : Type} {read : Json → Reading α} {request : Request}
    {answer : α → Act World Response} (h : ∀ value, (answer value).Renews account?) :
    (withBody read request answer).Renews account? := by
  unfold withBody
  split
  · exact (Act.idles_pure _).renews _
  · exact (Act.idles_pure _).renews _
  · exact (Act.idles_pure _).renews _
  · split
    · exact h _
    · exact (Act.idles_pure _).renews _

theorem idles_answerAccounts : answerAccounts.Idles :=
  TokenStore.idles_current.bind fun store => store.idles_accounts.bind fun _ => Act.idles_pure _

theorem idles_answerSignInStatus (request : Request) : (answerSignInStatus request).Idles :=
  (AccountSession.idles_start _).bind fun session => session.idles_isSignedIn.bind fun _ => Act.idles_pure _

theorem idles_answerStatus : answerStatus.Idles :=
  TokenStore.idles_current.bind fun store => store.idles_accounts.bind fun _ =>
    World.idles_currentSettings.bind fun _ => Act.idles_pure _

theorem renews_answerCallback (request : Request) :
    (answerCallback request).Renews
      (some (SignIn.accountOf ((request.parameter? "state").getD ""))) := by
  unfold answerCallback
  split
  · exact (Act.idles_pure _).renews _
  · exact (SignIn.renews_finish _ _).bind_pure _

/-- **Only two endpoints write the token store**: `/auth/forms/callback` and `/api/forms/remote`. -/
theorem renews_answer {request : Request} {endpoint : Endpoint}
    (h : ofPath? request.path = some endpoint) :
    (endpoint.answer request).Renews request.account? := by
  unfold Request.account?
  rw [h]
  cases endpoint with
  | setup => exact ((SignIn.idles_page _).bind fun _ => Act.idles_pure _).renews _
  | callback => exact renews_answerCallback request
  | accounts => exact idles_answerAccounts.renews _
  | signInStatus => exact (idles_answerSignInStatus request).renews _
  | generate =>
    exact renews_withBody fun asked => ((Job.idles_generate _ _).bind fun _ => Act.idles_pure _).renews _
  | validate => exact renews_withBody fun d => ((Job.idles_validate d).bind fun _ => Act.idles_pure _).renews _
  | script =>
    exact renews_withBody fun asked => ((Job.idles_script _ _).bind fun _ => Act.idles_pure _).renews _
  | requests => exact renews_withBody fun d => ((Job.idles_requests d).bind fun _ => Act.idles_pure _).renews _
  | remoteForm =>
    exact renews_withBody fun d =>
      ((Job.idles_validate d).bind_renews fun normal => Account.renews_createForm _ normal).bind_pure _
  | status => exact idles_answerStatus.renews _

end Endpoint

theorem Server.renewal_serve (request : Request) (w : World) :
    ∃ made, Renewal request.account? w made (serve request w).2 := by
  unfold serve
  split
  · rename_i endpoint hendpoint
    split
    · rw [settle_eq]
      exact Endpoint.renews_answer hendpoint w
    · exact (World.idle_refl w).renewal _
  · split
    · exact (World.idle_refl w).renewal _
    · exact (World.idle_refl w).renewal _

theorem Server.renewal_serveLocally (client : Option String) (request : Request) (w : World) :
    ∃ made, Renewal request.account? w made (serveLocally client request w).2 := by
  unfold serveLocally
  split
  · exact renewal_serve request w
  · exact (World.idle_refl w).renewal _

/-! ### Tools -/

namespace Tool

theorem renews_answering {account? : Option String} {act : Act World Json} (h : act.Renews account?)
    (locale : Json) : (answering locale act).Renews account? := by
  intro w
  have hworld : ((answering locale act).run w).2 = (act.run w).2 := by
    rw [Act.run, answering]
    rcases act.run w with ⟨failure | value, v⟩
    · simp only
      split <;> rfl
    · rfl
  rw [hworld]
  exact h w

theorem idles_definition (given : Json) : (definition given).Idles := Act.idles_ofReading _ _

/-- **Only one tool writes the token store**: `forms_create_remote`. -/
theorem renews_run (tool : Tool) (given : Fields) :
    (tool.run fun word => given.get? word).Renews (tool.account? given) := by
  cases tool with
  | generateDefinition =>
    refine renews_answering (Act.Idles.renews ?_ _) _
    exact (Act.idles_ofExcept _).bind fun language => (Job.idles_generate _ _).bind fun _ => Act.idles_pure _
  | compileScript =>
    refine renews_answering (Act.Idles.renews ?_ _) _
    exact (idles_definition _).bind fun d => (Job.idles_validate d).bind fun normal =>
      (Act.idles_ofExcept _).bind fun language => (Job.idles_scriptOf normal _).bind fun _ => Act.idles_pure _
  | compileRequests =>
    refine renews_answering (Act.Idles.renews ?_ _) _
    exact (idles_definition _).bind fun d => (Job.idles_requests d).bind fun _ => Act.idles_pure _
  | createRemote =>
    refine renews_answering ((idles_definition _).bind_renews fun d => ?_) _
    exact ((Job.idles_validate d).bind_renews fun normal => Account.renews_createForm _ normal).bind_pure _

theorem renews_call (tool : Tool) (given : Fields) : (tool.call given).Renews (tool.account? given) := by
  unfold call
  split
  · exact (Act.idles_ofExcept _).renews _
  · split
    · exact renews_run tool given
    · exact (Act.idles_ofExcept _).renews _

end Tool

/-! ### Sessions -/

theorem Interaction.renewal (interaction : Interaction) (w : World) :
    ∃ made, Renewal interaction.account? w made (interaction.after w) := by
  cases interaction with
  | ask request => exact Server.renewal_serve request w
  | askLocally client request => exact Server.renewal_serveLocally client request w
  | use tool given => exact tool.renews_call given w

namespace SessionStep

variable {step : SessionStep} {steps : List SessionStep} {settings : Settings} {start : Fields} {w : World}

/-- **A step is a renewal for its account.** -/
theorem renewal (step : SessionStep) (w : World) :
    ∃ made, Renewal step.interaction.account? w made (step.after w) := by
  obtain ⟨made, hrenewal⟩ := step.interaction.renewal { w with now := step.time }
  exact hrenewal.before (w.idle_at step.time)

/-- A step keeps a readable store readable, and every entry but its own as it was. -/
theorem keeps_entries (step : SessionStep) (hsettings : w.settingsNow = .ok settings)
    (hstart : w.files.Holds settings.tokenFile start) :
    ∃ fields, (step.after w).files.Holds settings.tokenFile fields ∧
      ∀ name, step.ownName? ≠ some name → fields.get? name = start.get? name := by
  obtain ⟨made, hrenewal⟩ := step.renewal w
  by_cases hfiles : (step.after w).files = w.files
  · rw [hfiles]
    exact ⟨start, hstart, fun _ _ => rfl⟩
  · obtain ⟨found, account, fields, value, hfound, haccount, hbefore, hafter⟩ := hrenewal.entry hfiles
    obtain rfl : settings = found := Except.ok.inj (hsettings.symm.trans hfound)
    obtain rfl := hstart.unique hbefore
    refine ⟨_, hafter, fun name hname => Fields.get?_set_of_ne (fun hkey => hname ?_) value start⟩
    rw [ownName?, haccount, hkey]
    rfl

end SessionStep

/-- The settings stay the same over a session. -/
theorem settingsNow_session (steps : List SessionStep) (w : World) :
    (session steps w).settingsNow = w.settingsNow := by
  induction steps generalizing w with
  | nil => rfl
  | cons step steps ih =>
    obtain ⟨made, hrenewal⟩ := step.renewal w
    exact (ih (step.after w)).trans hrenewal.settings

/-- **A session keeps every entry that no step is for.**  A store that is missing, or holds an object, is such a
store after any session. -/
theorem session_keeps_entries {settings : Settings} {start : Fields} {w : World} (steps : List SessionStep)
    (hsettings : w.settingsNow = .ok settings) (hstart : w.files.Holds settings.tokenFile start) :
    ∃ fields, (session steps w).files.Holds settings.tokenFile fields ∧
      ∀ name, (∀ step ∈ steps, step.ownName? ≠ some name) → fields.get? name = start.get? name := by
  induction steps generalizing w start with
  | nil => exact ⟨start, hstart, fun _ _ => rfl⟩
  | cons step steps ih =>
    obtain ⟨made, hrenewal⟩ := step.renewal w
    obtain ⟨mid, hmid, hstep⟩ := step.keeps_entries hsettings hstart
    obtain ⟨fields, hfields, hsteps⟩ := ih (hrenewal.settings.trans hsettings) hmid
    refine ⟨fields, hfields, fun name hname => ?_⟩
    obtain ⟨hfirst, hrest⟩ := List.forall_mem_cons.mp hname
    rw [hsteps name hrest, hstep name hfirst]

/-- **The store is changed one entry at a time**, and only by steps for the account whose entry it is.  After
any steps the settings are those of the start, and a store that held members, or was not there, still does so.
One more step asks for a new token once at most; it leaves all files as they are unless it gets one, and
then it changes no more than the entry of its account. -/
theorem session_renews_own_entry (earlier : List SessionStep) (step : SessionStep) (w : World) :
    (session earlier w).settingsNow = w.settingsNow ∧
    (∀ settings start, w.settingsNow = .ok settings → w.files.Holds settings.tokenFile start →
      ∃ fields, (session earlier w).files.Holds settings.tokenFile fields) ∧
    ∃ made, Renewal step.interaction.account? (session earlier w) made (step.after (session earlier w)) := by
  refine ⟨settingsNow_session earlier w, fun settings start hsettings hstart => ?_,
    step.renewal (session earlier w)⟩
  obtain ⟨fields, hfields, -⟩ := session_keeps_entries earlier hsettings hstart
  exact ⟨fields, hfields⟩

end Formwork
