import Formwork.Account.SignIn
import Formwork.Proofs.Generation.Failing
import Formwork.Proofs.Remote.Making
import Formwork.Service.Job

/-!
# Idle activities

An activity is idle if it makes no token refresh, leaves the files and the settings alone and takes no answer of
the token endpoint (`World.Idle`).  Idle activities are closed under sequencing, so this is proved for the primitive
effects on the world and from there for every job that needs no account.
-/
namespace Formwork

/-- A token refresh. -/
def Call.renews : Call → Bool
  | .refreshToken _ | .exchangeCode _ => true
  | _ => false

/-! ### Idle worlds -/

/-- The second world comes from the first without a token refresh, with the same files, settings and limits. -/
structure World.Idle (w v : World) : Prop where
  files : v.files = w.files
  settings : v.settingsNow = w.settingsNow
  limits : v.limits = w.limits
  refreshToken : v.answers.refreshToken = w.answers.refreshToken
  exchangeCode : v.answers.exchangeCode = w.answers.exchangeCode
  calls : ∃ made, v.calls = w.calls ++ made ∧ ∀ call ∈ made, call.renews = false

namespace World

variable {u v w : World}

theorem idle_refl (w : World) : w.Idle w :=
  ⟨rfl, rfl, rfl, rfl, rfl, [], (List.append_nil _).symm, List.forall_mem_nil _⟩

theorem Idle.trans (h : u.Idle v) (h' : v.Idle w) : u.Idle w := by
  obtain ⟨made, hcalls, hidle⟩ := h.calls
  obtain ⟨more, hcalls', hidle'⟩ := h'.calls
  refine ⟨h'.files.trans h.files, h'.settings.trans h.settings, h'.limits.trans h.limits,
    h'.refreshToken.trans h.refreshToken, h'.exchangeCode.trans h.exchangeCode, made ++ more, ?_,
    List.forall_mem_append.mpr ⟨hidle, hidle'⟩⟩
  rw [hcalls', hcalls, List.append_assoc]

theorem Alike.idle (h : w.Alike v) : w.Idle v where
  files := congrArg Prod.fst h.outside
  settings := h.settings
  limits := h.limits
  refreshToken := congrArg Answers.refreshToken h.answers
  exchangeCode := congrArg Answers.exchangeCode h.answers
  calls := ⟨[], by rw [h.calls, List.append_nil], List.forall_mem_nil _⟩

theorem idle_logged (records : List LogRecord) (w : World) : w.Idle (w.logged records) :=
  (alike_logged records w).idle

/-- Time passes. -/
theorem idle_at (time : Moment) (w : World) : w.Idle { w with now := time } :=
  ⟨rfl, rfl, rfl, rfl, rfl, [], (List.append_nil _).symm, List.forall_mem_nil _⟩

theorem idle_called {call : Call} (h : call.renews = false) (w : World) : w.Idle (w.called call) :=
  ⟨rfl, rfl, rfl, rfl, rfl, [call], rfl, List.forall_mem_singleton.mpr h⟩

end World

/-! ### Idle activities -/

/-- The activity makes no token refresh and leaves files and settings alone. -/
def Act.Idles {α : Type} (act : Act World α) : Prop := ∀ w : World, w.Idle (act.run w).2

namespace Act

variable {α β : Type} {act : Act World α} {next : α → Act World β}

theorem idles_ofExcept (result : Except Failure α) : (ofExcept result).Idles := World.idle_refl

theorem idles_pure (value : α) : (pure value : Act World α).Idles := World.idle_refl

theorem idles_state (next : World → Act World α) (h : ∀ w, (next w).Idles) : (state >>= next).Idles :=
  fun w => h w w

theorem Idles.bind (h : act.Idles) (hnext : ∀ value, (next value).Idles) : (act >>= next).Idles := by
  intro w
  have hidle := h w
  rcases hact : act.run w with ⟨failure | value, v⟩
  · rw [hact] at hidle
    rw [run_bind_error hact]
    exact hidle
  · rw [hact] at hidle
    rw [run_bind_ok hact]
    exact hidle.trans (hnext value v)

/-- An activity that only reads changes nothing. -/
theorem Looks.idles {γ : Type} {view : World → γ} (h : act.Looks view) : act.Idles := by
  intro w
  rw [h.run_eq]
  exact World.idle_refl w

theorem idles_ofReading (model : String) (reading : Reading α) : (ofReading model reading).Idles :=
  (looks_ofReading World.outside model reading).idles

end Act

namespace World

theorem idles_log (records : List LogRecord) : (log records).Idles := idle_logged records

theorem idles_currentSettings : currentSettings.Idles :=
  fun w => (alike_currentSettings (Prod.eta (currentSettings.run w)).symm).1.idle

theorem idles_takeItemNames (count : Nat) : (takeItemNames count).Idles :=
  fun _ => ⟨rfl, rfl, rfl, rfl, rfl, [], (List.append_nil _).symm, List.forall_mem_nil _⟩

theorem idles_createForm (body : Json) : (createForm body).Idles :=
  fun _ => ⟨rfl, rfl, rfl, rfl, rfl, [_], rfl, List.forall_mem_singleton.mpr rfl⟩

theorem idles_askModel (key model contents : String) (instructions : Option String) :
    (askModel key model contents instructions).Idles :=
  fun _ => ⟨rfl, rfl, rfl, rfl, rfl, [_], rfl, List.forall_mem_singleton.mpr rfl⟩

end World

/-! ### Accounts -/

theorem TokenStore.idles_current : TokenStore.current.Idles :=
  World.idles_currentSettings.bind fun _ => Act.idles_state _ fun _ => Act.idles_pure _

theorem TokenStore.idles_accounts (store : TokenStore) : store.accounts.Idles :=
  (store.looks_stored.bind fun _ => Act.looks_ofProblem _ _).idles

theorem AccountSession.idles_start (account : String) : (AccountSession.start account).Idles :=
  TokenStore.idles_current.bind fun _ => Act.idles_pure _

theorem AccountSession.idles_isSignedIn (session : AccountSession) : session.isSignedIn.Idles :=
  (session.store.looks_isUsable _).idles

theorem SignIn.idles_clientSecret : SignIn.clientSecret.Idles := by
  refine World.idles_currentSettings.bind fun settings => ?_
  refine (World.looks_isThere _).idles.bind fun there => ?_
  split
  · refine (World.looks_fileText _).idles.bind fun _ => Act.idles_state _ fun world => ?_
    exact (Act.idles_ofExcept _).bind fun _ => Act.idles_ofExcept _
  · exact Act.idles_ofExcept _

theorem SignIn.idles_page (account : String) : (SignIn.page account).Idles := by
  refine SignIn.idles_clientSecret.bind fun secret => ?_
  refine World.idles_currentSettings.bind fun settings => Act.idles_state _ fun world => ?_
  split
  · split
    · split
      · exact Act.idles_pure _
      · exact Act.idles_ofExcept _
    · exact Act.idles_ofExcept _
  · exact Act.idles_ofExcept _

/-! ### Definitions from the language model -/

namespace Generation

theorem idles_reporting {call : Act World ModelReply} (h : call.Idles) : (reporting call).Idles := by
  intro w
  have hidle := h w
  rcases hcall : call.run w with ⟨failure | reply, v⟩
  · rw [hcall] at hidle
    rw [run_reporting_error hcall]
    exact hidle.trans (World.idle_logged _ v)
  · rw [hcall] at hidle
    rw [run_reporting_ok hcall]
    exact hidle

theorem idles_ask (prompt : String) (instructions model : Option String) :
    (ask prompt instructions model).Idles := by
  refine World.idles_currentSettings.bind fun settings => ?_
  split
  · exact Act.idles_ofExcept _
  · exact (idles_reporting (World.idles_askModel _ _ _ _)).bind fun _ =>
      Act.idles_state _ fun _ => Act.idles_ofExcept _

theorem idles_reportingDefinition (value : Json) : (reportingDefinition value).Idles := by
  intro w
  unfold Act.run reportingDefinition
  rcases definition value with ⟨failure, record⟩ | d
  · exact World.idle_logged _ w
  · exact World.idle_refl w

theorem idles_define (text : String) (locale : Locale) : (define text locale).Idles :=
  (idles_ask _ _ _).bind fun _ => idles_reportingDefinition _

end Generation

/-! ### Jobs that need no account -/

namespace Job

theorem idles_validate (d : Definition) : (validate d).Idles := by
  unfold validate
  split
  · exact Act.idles_ofExcept _
  · exact (World.idles_log _).bind fun _ => Act.idles_pure _

theorem idles_generate (text : String) (locale : Locale) : (generate text locale).Idles :=
  (Generation.idles_define text locale).bind fun d => idles_validate d

theorem idles_scriptOf (d : Definition) (options : Script.Options) : (scriptOf d options).Idles :=
  (World.idles_takeItemNames _).bind fun _ => Act.idles_pure _

theorem idles_script (d : Definition) (options : Script.Options) : (script d options).Idles :=
  (idles_validate d).bind fun normal => idles_scriptOf normal options

theorem idles_requests (d : Definition) : (requests d).Idles :=
  (idles_validate d).bind fun _ => Act.idles_pure _

end Job
end Formwork
