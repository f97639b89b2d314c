import Formwork.Proofs.Account.Content
import Formwork.Proofs.Account.Document
import Formwork.Proofs.World.Idle

/-!
# Renewals of stored credentials

Two activities ask for a new token: the creation of a remote form, if the stored token has expired, and the callback of
the OAuth flow.  Nothing but a new token is ever written.  `Renewal` is what this can do to the world: without a new
token the files stay as they are, and with one they change at most in the entry of the account.

Both activities take the same step, a call and then a save (`Asked.save`); everything before and after it is idle.  That
the store does change is the converse: after a callback, and after a refresh whose token is used, the new token is in
the store (`SignIn.stored_of_finish`, `Account.Obtaining.stored`).
-/
namespace Formwork

/-- The next answer to such a call gives a new token. -/
def World.Grants (w : World) : Call → Prop
  | .refreshToken _ => ∃ grant, w.answers.refreshToken.take.1 = .ok grant
  | .exchangeCode _ => ∃ answer, w.answers.exchangeCode.take.1 = .ok answer
  | _ => False

/-- The world came from the other one by these calls, and of the files only the entry of this account may have
changed, if there is such an account. -/
structure Renewal (account? : Option String) (w : World) (made : List Call) (v : World) : Prop where
  settings : v.settingsNow = w.settingsNow
  calls : v.calls = w.calls ++ made
  once : made.countP Call.renews ≤ 1
  /-- Nothing is written without a new token. -/
  still : (∀ call ∈ made, ¬w.Grants call) → v.files = w.files
  /-- What is written is one entry of the token store. -/
  entry : v.files ≠ w.files → ∃ settings account fields value, w.settingsNow = .ok settings ∧
    account? = some account ∧ w.files.Holds settings.tokenFile fields ∧
    v.files.Holds settings.tokenFile (fields.set (Account.key account) value)

variable {account? : Option String} {account : String} {call : Call} {made : List Call} {u v w x : World}

/-! ### Renewals and idle activities -/

theorem Call.countP_renews (h : ∀ call ∈ made, call.renews = false) : made.countP Call.renews = 0 :=
  List.countP_eq_zero.mpr fun call hmem => Bool.eq_false_iff.mp (h call hmem)

theorem World.Idle.grants_iff (h : w.Idle v) (call : Call) : v.Grants call ↔ w.Grants call := by
  cases call with
  | refreshToken old => rw [World.Grants, World.Grants, h.refreshToken]
  | exchangeCode code => rw [World.Grants, World.Grants, h.exchangeCode]
  | _ => exact Iff.rfl

theorem World.Idle.renewal (h : w.Idle v) (account? : Option String) :
    ∃ made, Renewal account? w made v := by
  obtain ⟨made, hcalls, hidle⟩ := h.calls
  exact ⟨made, h.settings, hcalls, (Call.countP_renews hidle).trans_le (Nat.zero_le 1),
    fun _ => h.files, fun hfiles => absurd h.files hfiles⟩

/-- An idle activity may come before a renewal. -/
theorem Renewal.before (h : Renewal account? v made w) (hidle : u.Idle v) :
    ∃ made, Renewal account? u made w := by
  obtain ⟨first, hcalls, hfirst⟩ := hidle.calls
  refine ⟨first ++ made, h.settings.trans hidle.settings, ?_, ?_, fun hnone => ?_, ?_⟩
  · rw [h.calls, hcalls, List.append_assoc]
  · rw [List.countP_append, Call.countP_renews hfirst, Nat.zero_add]
    exact h.once
  · rw [← hidle.files]
    refine h.still fun call hmem => ?_
    rw [hidle.grants_iff]
    exact hnone call (List.mem_append_right first hmem)
  · rw [← hidle.files, ← hidle.settings]
    exact h.entry

/-- An idle activity may come after a renewal. -/
theorem Renewal.after (h : Renewal account? u made v) (hidle : v.Idle w) :
    ∃ made, Renewal account? u made w := by
  obtain ⟨last, hcalls, hlast⟩ := hidle.calls
  refine ⟨made ++ last, hidle.settings.trans h.settings, ?_, ?_, fun hnone => ?_, ?_⟩
  · rw [hcalls, h.calls, List.append_assoc]
  · rw [List.countP_append, Call.countP_renews hlast, Nat.add_zero]
    exact h.once
  · rw [hidle.files]
    exact h.still fun call hmem => hnone call (List.mem_append_left last hmem)
  · rw [hidle.files]
    exact h.entry

/-! ### Activities that renew -/

/-- In every world, the activity is a renewal for this account. -/
def Act.Renews {α : Type} (account? : Option String) (act : Act World α) : Prop :=
  ∀ w : World, ∃ made, Renewal account? w made (act.run w).2

section Activities

variable {α β : Type} {act : Act World α} {next : α → Act World β}

theorem Act.Idles.renews (h : act.Idles) (account? : Option String) : act.Renews account? :=
  fun w => (h w).renewal account?

theorem Act.Idles.bind_renews (h : act.Idles) (hnext : ∀ value, (next value).Renews account?) :
    (act >>= next).Renews account? := by
  intro w
  have hidle := h w
  rcases hact : act.run w with ⟨failure | value, v⟩
  · rw [hact] at hidle
    rw [run_bind_error hact]
    exact hidle.renewal account?
  · rw [hact] at hidle
    rw [run_bind_ok hact]
    obtain ⟨made, hrenewal⟩ := hnext value v
    exact hrenewal.before hidle

theorem Act.Renews.bind_pure (h : act.Renews account?) (f : α → β) :
    (act >>= fun value => pure (f value)).Renews account? := by
  intro w
  rw [run_bind_pure]
  exact h w

end Activities

/-! ### The call and the save -/

/-- The world came from the other one by this call, and nothing was written. -/
structure Asked (call : Call) (w v : World) : Prop where
  files : v.files = w.files
  settings : v.settingsNow = w.settingsNow
  limits : v.limits = w.limits
  calls : v.calls = w.calls ++ [call]

theorem Asked.alike (h : Asked call u v) (hlike : v.Alike w) : Asked call u w :=
  ⟨(congrArg Prod.fst hlike.outside).trans h.files, hlike.settings.trans h.settings,
    hlike.limits.trans h.limits, hlike.calls.trans h.calls⟩

theorem asked_refreshToken {token : Json} {granted : Except Failure Grant}
    (h : (World.refreshToken token).run w = (granted, v)) :
    Asked (.refreshToken token) w v ∧ v.settings = w.settings := by
  cases h
  exact ⟨⟨rfl, rfl, rfl, rfl⟩, rfl⟩

theorem grants_of_refreshToken {token : Json} {grant : Grant}
    (h : (World.refreshToken token).run w = (.ok grant, v)) : w.Grants (.refreshToken token) := by
  rw [World.refreshToken, World.run_request] at h
  exact ⟨grant, Act.mapError_eq_ok.mp (congrArg Prod.fst h)⟩

theorem asked_exchangeCode {code : String} {answer : Except Failure Json}
    (h : (World.exchangeCode code).run w = (answer, v)) : Asked (.exchangeCode code) w v := by
  cases h
  exact ⟨rfl, rfl, rfl, rfl⟩

theorem grants_of_exchangeCode {code : String} {answer : Json}
    (h : (World.exchangeCode code).run w = (.ok answer, v)) : w.Grants (.exchangeCode code) := by
  rw [World.exchangeCode, World.run_request] at h
  exact ⟨answer, Act.mapError_eq_ok.mp (congrArg Prod.fst h)⟩

theorem countP_renews_singleton (call : Call) : [call].countP Call.renews ≤ 1 :=
  List.countP_le_length

theorem Asked.renewal (h : Asked call w v) (account? : Option String) :
    Renewal account? w [call] v :=
  ⟨h.settings, h.calls, countP_renews_singleton call, fun _ => h.files,
    fun hfiles => absurd h.files hfiles⟩

/-- **What is saved after a new token was given is the entry of the account**, in the store of the settings. -/
theorem Asked.save {settings : Settings} {limits : Json.Limits} {value : Json}
    {saved : Except Failure Unit} (h : Asked call u w) (hgrants : u.Grants call)
    (hkept : w.settings = some settings)
    (hrun : ((TokenStore.ofSettings limits settings).save (Account.key account) value).run w = (saved, v)) :
    Renewal (some account) u [call] v := by
  rcases TokenStore.save_holds hrun with ⟨rfl, -⟩ | ⟨files, fields, -, rfl, hbefore, hafter⟩
  · exact h.renewal (some account)
  have hnow : w.settingsNow = .ok settings := by rw [World.settingsNow, hkept]
  have hkeeps : (w.withFiles files).settingsNow = .ok settings := by
    rw [World.settingsNow, World.withFiles, hkept]
  refine ⟨?_, h.calls, countP_renews_singleton call, fun hnone => ?_, fun _ => ?_⟩
  · rw [hkeeps, ← hnow, h.settings]
  · exact absurd hgrants (hnone call List.mem_cons_self)
  · refine ⟨settings, account, fields, value.tidy, ?_, rfl, ?_, hafter⟩
    · rw [← h.settings, hnow]
    · rw [← h.files]
      exact hbefore

/-- The current store is the one of the settings, which are cached from then on. -/
theorem TokenStore.kept_of_current {store : TokenStore} (h : current.run w = (.ok store, v)) :
    ∃ settings, v.settings = some settings ∧ store = ofSettings w.limits settings := by
  obtain ⟨settings, -, hstore, rfl⟩ := run_current_eq_ok.mp h
  exact ⟨settings, rfl, hstore⟩

/-- The store then has what was saved for the account. -/
theorem Asked.stored {settings : Settings} {limits : Json.Limits} {value : Json} (h : Asked call u w)
    (hkept : w.settings = some settings)
    (hrun : ((TokenStore.ofSettings limits settings).save (Account.key account) value).run w =
      (.ok (), v)) :
    ∃ fields, u.settingsNow = .ok settings ∧ u.files.Holds settings.tokenFile fields ∧
      v.files.Holds settings.tokenFile (fields.set (Account.key account) value.tidy) := by
  rcases TokenStore.save_holds hrun with ⟨-, failure, hfailed⟩ | ⟨files, fields, -, rfl, hbefore, hafter⟩
  · cases hfailed
  have hnow : w.settingsNow = .ok settings := by rw [World.settingsNow, hkept]
  exact ⟨fields, h.settings ▸ hnow, h.files ▸ hbefore, hafter⟩

/-! ### The callback -/

/-- **A callback changes at most the entry of its account**, and only if the code is exchanged. -/
theorem SignIn.renews_finish (code state : String) :
    (finish code state).Renews (some (accountOf state)) := by
  refine idles_clientSecret.bind_renews fun secret u => ?_
  rcases hanswer : (World.exchangeCode code).run u with ⟨failure | answer, v⟩
  · rw [Act.run_bind_error hanswer]
    exact ⟨_, (asked_exchangeCode hanswer).renewal _⟩
  rw [Act.run_bind_ok hanswer]
  have hasked := asked_exchangeCode hanswer
  rcases credentials secret answer with problem | c
  · exact ⟨_, hasked.renewal _⟩
  show ∃ made, Renewal _ u made ((TokenStore.current >>= fun store =>
    store.save (Account.key (accountOf state)) c.document >>= fun _ => pure (accountOf state)).run v).2
  rcases hstore : TokenStore.current.run v with ⟨failure | store, x⟩
  · rw [Act.run_bind_error hstore]
    exact ⟨_, (hasked.alike (TokenStore.alike_current hstore).1).renewal _⟩
  rw [Act.run_bind_ok hstore, Act.run_bind_pure]
  obtain ⟨settings, hkept, rfl⟩ := TokenStore.kept_of_current hstore
  exact ⟨_, (hasked.alike (TokenStore.alike_current hstore).1).save (grants_of_exchangeCode hanswer) hkept
    (Prod.eta (Act.run _ x)).symm⟩

/-- A successful callback: the code is exchanged for credentials, and they are saved in the store of the settings,
which was not written in between. -/
inductive SignIn.Finished (w : World) (state : String) : String → World → Prop
  | saved {secret : ClientSecret} {answer : Json} {c : Credentials} {settings : Settings} {u v : World}
      (knows : (clientSecret.run w).1 = .ok secret) (answers : w.answers.exchangeCode.take.1 = .ok answer)
      (reads : credentials secret answer = .ok c) (settles : w.settingsNow = .ok settings)
      (keeps : u.settingsNow = w.settingsNow) (limits : u.limits = w.limits) (files : u.files = w.files)
      (saves : ((TokenStore.ofSettings w.limits settings).save (Account.key (accountOf state))
        c.document).run u = (.ok (), v)) :
      Finished w state (accountOf state) v

/-- A callback succeeds in no other way. -/
theorem SignIn.finished_of_finish {code state account : String}
    (h : (finish code state).run w = (.ok account, v)) : Finished w state account v := by
  unfold finish at h
  obtain ⟨secret, u, hsecret, hexchanges⟩ := Act.run_bind_eq_ok.mp h
  obtain ⟨answer, x, hanswer, hreads⟩ := Act.run_bind_eq_ok.mp hexchanges
  obtain ⟨c, _, hread, hlooks⟩ := Act.run_bind_eq_ok.mp hreads
  obtain ⟨hcredentials, rfl⟩ := Act.run_ofProblem_eq_ok.mp hread
  obtain ⟨store, y, hstore, hsaves⟩ := Act.run_bind_eq_ok.mp hlooks
  obtain ⟨⟨⟩, z, hsave, hends⟩ := Act.run_bind_eq_ok.mp hsaves
  cases hends
  have hidle := idles_clientSecret w
  rw [hsecret] at hidle
  have hasked := (asked_exchangeCode hanswer).alike (TokenStore.alike_current hstore).1
  obtain ⟨settings, hkept, rfl⟩ := TokenStore.kept_of_current hstore
  have hlimits : y.limits = w.limits := hasked.limits.trans hidle.limits
  rw [← (TokenStore.alike_current hstore).1.limits, hlimits] at hsave
  have hnow : y.settingsNow = .ok settings := by rw [World.settingsNow, hkept]
  have hsame : y.settingsNow = w.settingsNow := hasked.settings.trans hidle.settings
  rw [World.exchangeCode, World.run_request, hidle.exchangeCode] at hanswer
  exact .saved (congrArg Prod.fst hsecret) (Act.mapError_eq_ok.mp (congrArg Prod.fst hanswer)) hcredentials
    (hsame ▸ hnow) hsame hlimits (hasked.files.trans hidle.files) hsave

/-- **After a callback the account is in the store**, with the token that the code was exchanged for. -/
theorem SignIn.stored_of_finish {code state account : String}
    (h : (finish code state).run w = (.ok account, v)) :
    account = accountOf state ∧ ∃ settings fields answer, ∃ c : Credentials, w.settingsNow = .ok settings ∧
      w.files.Holds settings.tokenFile fields ∧ w.answers.exchangeCode.take.1 = .ok answer ∧
      answer.get? "access_token" = some c.token ∧
      v.files.Holds settings.tokenFile (fields.set (Account.key account) c.document.tidy) := by
  obtain ⟨-, answers, reads, settles, -, -, hfiles, saves⟩ := finished_of_finish h
  obtain ⟨token, expiry, htoken, -, hc⟩ := exists_of_credentials reads
  rcases TokenStore.save_holds saves with ⟨-, failure, hfailed⟩ | ⟨files, fields, -, rfl, hbefore, hafter⟩
  · cases hfailed
  · exact ⟨rfl, _, fields, _, _, settles, hfiles ▸ hbefore, answers, hc ▸ htoken, hafter⟩

/-! ### Remote forms -/

/-- Getting the credentials of an account changes at most its entry, and only if the token is refreshed. -/
theorem Account.Obtaining.renewal {result : Except Failure Credentials}
    (h : Account.Obtaining account w made result v) : ∃ made, Renewal (some account) w made v := by
  have hsaved : ∀ {store : TokenStore} {c : Credentials} {grant : Grant} {value : Json}
      {saved : Except Failure Unit} {v x y : World},
      TokenStore.current.run w = (.ok store, v) →
      (World.refreshToken c.refreshToken).run v = (.ok grant, x) →
      (store.save (Account.key account) value).run x = (saved, y) →
      ∃ made, Renewal (some account) w made y := by
    intro store c grant value saved v x y hsettles hrenews hsaves
    obtain ⟨settings, hkept, rfl⟩ := TokenStore.kept_of_current hsettles
    obtain ⟨hasked, hsame⟩ := asked_refreshToken hrenews
    exact (hasked.save (grants_of_refreshToken hrenews) (hsame.trans hkept) hsaves).before
      (TokenStore.alike_current hsettles).1.idle
  cases h with
  | unsettled settles => exact (TokenStore.alike_current settles).1.idle.renewal _
  | unsure settles finds => exact (TokenStore.alike_current settles).1.idle.renewal _
  | signedOut settles finds useless => exact (TokenStore.alike_current settles).1.idle.renewal _
  | good settles finds => exact (TokenStore.alike_current settles).1.idle.renewal _
  | refused settles finds renews =>
    exact ((asked_refreshToken renews).1.renewal _).before (TokenStore.alike_current settles).1.idle
  | unsaved settles finds renews saves => exact hsaved settles renews saves
  | renewed settles finds renews saves => exact hsaved settles renews saves

/-- **A refreshed token that is used is in the store.** -/
theorem Account.Obtaining.stored {old : Json} {c : Credentials}
    (h : Account.Obtaining account w [.refreshToken old] (.ok c) v) :
    ∃ settings fields, w.settingsNow = .ok settings ∧ w.files.Holds settings.tokenFile fields ∧
      v.files.Holds settings.tokenFile (fields.set (Account.key account) c.document.tidy) := by
  cases h with
  | renewed settles finds renews saves =>
    obtain ⟨settings, hkept, rfl⟩ := TokenStore.kept_of_current settles
    obtain ⟨hasked, hsame⟩ := asked_refreshToken renews
    obtain ⟨fields, hsettings, hbefore, hafter⟩ := hasked.stored (hsame.trans hkept) saves
    have hidle := (TokenStore.alike_current settles).1.idle
    exact ⟨settings, fields, hidle.settings ▸ hsettings, hidle.files ▸ hbefore, hafter⟩

namespace Connection

variable {title : String} {connection : Connection}

/-- Creating the form shell is a renewal: the client needs a token. -/
theorem Opening.renewal {result : Except Failure FormShell}
    (h : Opening account title w made result connection) :
    ∃ made, Renewal (some account) w made connection.world := by
  have hasked : ∀ {c : Credentials} {answer : Except Failure Json} {v u : World},
      (∃ made, Renewal (some account) w made v) →
      (World.createForm (FormsService.shellBody title)).run (v.called (.connect c.token)) =
        (answer, u) →
      ∃ made, Renewal (some account) w made u := by
    rintro c answer v u ⟨made, hrenewal⟩ hcreates
    have hidle := World.idles_createForm (FormsService.shellBody title) (v.called (.connect c.token))
    rw [hcreates] at hidle
    exact hrenewal.after ((World.idle_called rfl v).trans hidle)
  cases h with
  | tokenless obtains => exact obtains.renewal
  | refused obtains creates => exact hasked obtains.renewal creates
  | answered obtains creates reads => exact hasked obtains.renewal creates

end Connection

namespace Orchestrator

variable {session : AccountSession} {d : Definition} {shell : FormShell} {exchanges : List Exchange}
  {result : Except Failure RemoteForm} {t : Connection}

/-- The batchUpdate needs no token and is idle. -/
theorem Filling.idle
    (h : Filling (Connection.collaborators session) d shell ⟨w, true⟩ exchanges result t) :
    w.Idle t.world := by
  have hfilled : ∀ {filled : Except Failure Unit} {plan : Plan} {t : Connection},
      (Connection.fill (.account session.account) shell.id plan).run ⟨w, true⟩ = (filled, t) →
      w.Idle t.world := by
    intro filled plan t hfill
    rw [Connection.run_fill] at hfill
    cases hfill
    exact ⟨rfl, rfl, rfl, rfl, rfl, [_], rfl, List.forall_mem_singleton.mpr rfl⟩
  cases h with
  | unplanned plans => cases plans
  | nothing plans =>
    obtain rfl : ⟨w, true⟩ = t := congrArg Prod.snd plans
    exact World.idle_refl w
  | unfilled plans work fills =>
    cases plans
    exact hfilled fills
  | filled plans work fills =>
    cases plans
    exact hfilled fills

/-- Every course of the orchestrator is a renewal for the account. -/
theorem Course.renewal
    (h : Course (Connection.collaborators session) d ⟨w, false⟩ exchanges result t) :
    ∃ made, Renewal (some session.account) w made t.world := by
  cases h with
  | unsure asks =>
    obtain ⟨-, rfl⟩ := Account.run_isSignedIn asks
    exact (World.idle_refl w).renewal _
  | signedOut asks =>
    obtain ⟨-, rfl⟩ := Account.run_isSignedIn asks
    exact (World.idle_refl w).renewal _
  | unmade asks makes =>
    obtain ⟨-, rfl⟩ := Account.run_isSignedIn asks
    obtain ⟨made, hopening⟩ := Connection.exists_opening makes
    exact hopening.renewal
  | unnamed asks makes name =>
    obtain ⟨-, rfl⟩ := Account.run_isSignedIn asks
    obtain ⟨made, hopening⟩ := Connection.exists_opening makes
    exact hopening.renewal
  | @made shell _ u _ _ _ asks makes name filling =>
    obtain ⟨-, rfl⟩ := Account.run_isSignedIn asks
    obtain ⟨made, hopening⟩ := Connection.exists_opening makes
    obtain ⟨world, isOpen⟩ := u
    obtain rfl : isOpen = true := hopening.ok.1
    obtain ⟨made, hrenewal⟩ := hopening.renewal
    exact hrenewal.after filling.idle

end Orchestrator

/-- **The creation of a remote form changes at most the entry of its account**, and only if the token is
refreshed. -/
theorem Account.renews_createForm (account : String) (d : Definition) :
    (createForm account d).Renews (some account) := by
  intro w
  rcases hrun : (createForm account d).run w with ⟨result, v⟩
  rcases course_of_createForm hrun with
    ⟨hlike, -⟩ | ⟨session, u, exchanges, t, records, hstart, hcourse, rfl⟩
  · exact hlike.idle.renewal _
  · obtain rfl := account_of_start hstart
    obtain ⟨made, hrenewal⟩ := hcourse.renewal
    obtain ⟨made, hrenewal⟩ := hrenewal.before (alike_start hstart).idle
    exact hrenewal.after (World.idle_logged records t.world)

end Formwork
