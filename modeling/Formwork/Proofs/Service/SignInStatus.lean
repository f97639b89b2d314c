import Formwork.Proofs.Service.SigningIn

/-!
# The status of an account after its callback

`GET /auth/forms/callback` answers 200 without reading the stored credentials again.  `GET /auth/forms/status` reads
them, and may fail to: the answer to a code need not bring a refresh token, and credentials without one are stored but
cannot be read (`reported_sign_in_unreadable`).  The status is determined by the credentials that the code was exchanged
for, and by the time (`reported_sign_in_status`).
-/
namespace Formwork
/-! ### `GET /auth/forms/status` -/

/-- The 200 response of `GET /auth/forms/status`. -/
def Response.signInStatus (account : String) (signedIn : Bool) : Response :=
  .ok (Endpoint.signInDocument signedIn
    (if signedIn then "Authenticated" ++ Account.label account
    else s!"Not authenticated{Account.label account} — visit {Account.setupPath account}"))

theorem Response.signInStatus_injective (account : String) : Function.Injective (signInStatus account) := by
  intro signedIn other h
  simp only [signInStatus, ok, Endpoint.signInDocument, mk.injEq, Content.json.injEq, Json.obj.injEq,
    List.cons.injEq, Prod.mk.injEq, Json.bool.injEq, true_and] at h
  exact h.1

theorem Response.signInStatus_ne_unforeseen (account : String) (signedIn : Bool) :
    signInStatus account signedIn ≠ unforeseen :=
  fun h => nomatch congrArg content h

variable {asked back : Request} {c : Credentials} {settings : Settings} {fields : Fields} {v w : World}
  {response : Response} {value : Json}

theorem TokenStore.run_isUsable {store : TokenStore} {key : String}
    (hget : (store.get key).run w = (.ok value, w)) (htruthy : value.truthy = true) :
    ((store.isUsable key).run w).1 = (Credentials.usable w.now value).mapError (⟨·, []⟩) := by
  rw [isUsable, Act.run_bind_ok hget, if_pos htruthy, Credentials.usable,
    Act.run_bind_ofProblem]
  rcases Credentials.read value with problem | c
  · rfl
  · show ((Act.state >>= fun world => Act.ofProblem (c.use world.now) >>= _).run w).1 = _
    rw [Act.run_bind_ok (Act.run_state w), Act.run_bind_ofProblem]
    dsimp only
    rcases c.use w.now with problem | use
    · rfl
    · rfl

namespace Server

/-- The status is determined by the entry of the account. -/
theorem serve_signInStatus (hasked : asked.Asks .signInStatus) (hstores : w.Stores settings fields)
    (hget : fields.get? (Account.key asked.account) = some value) (htruthy : value.truthy = true) :
    (serve asked w).1 = .ofResult (((Credentials.usable w.now value).mapError (⟨·, []⟩)).map
      (.signInStatus asked.account)) := by
  let store := TokenStore.ofSettings w.limits settings
  have hstart : (AccountSession.start asked.account).run w =
      (.ok ⟨asked.account, store⟩, w.keeping settings) := by
    rw [AccountSession.start, Act.run_bind_ok hstores.run_current]
    rfl
  have hlook : (store.get (Account.key asked.account)).run (w.keeping settings) =
      (.ok value, w.keeping settings) := by
    rw [TokenStore.get, Act.run_bind_ok hstores.run_stored]
    show (Except.ok ((fields.get? (Account.key asked.account)).getD .null), w.keeping settings) = _
    rw [hget]
    rfl
  have hanswer : (Endpoint.signInStatus.answer asked).run w =
      ((AccountSession.isSignedIn ⟨asked.account, store⟩ >>= fun signedIn =>
        pure (Response.signInStatus asked.account signedIn)).run (w.keeping settings)) := by
    show (Endpoint.answerSignInStatus asked).run w = _
    rw [Endpoint.answerSignInStatus, Act.run_bind_ok hstart]
    rfl
  rw [serve_of_asks hasked, hanswer, Act.run_bind_pure]
  show Response.ofResult (((TokenStore.isUsable _ _).run (w.keeping settings)).1.map _) = _
  rw [TokenStore.run_isUsable hlook htruthy]
  rfl

/-- **A callback that is answered 200 has succeeded.** -/
theorem run_finish_of_reported (hback : back.Asks .callback) (hserve : serve back w = (response, v))
    (hok : response.status = 200) :
    ∃ code, (SignIn.finish code ((back.parameter? "state").getD "")).run w =
        (.ok (SignIn.accountOf ((back.parameter? "state").getD "")), v) ∧
      response = .welcome (SignIn.accountOf ((back.parameter? "state").getD "")) := by
  rw [serve_of_asks hback] at hserve
  replace hserve : (Response.ofResult ((Endpoint.answerCallback back).run w).1,
    ((Endpoint.answerCallback back).run w).2) = (response, v) := hserve
  unfold Endpoint.answerCallback at hserve
  split at hserve
  · cases hserve
    exact absurd hok (Response.rejected_status_ne _)
  · rename_i code hcode
    rcases hfinish : (SignIn.finish code ((back.parameter? "state").getD "")).run w with ⟨failure | account, x⟩
    · rw [Act.run_bind_error hfinish] at hserve
      cases hserve
      exact absurd hok (Response.ofFailure_status_ne failure)
    · rw [Act.run_bind_ok hfinish] at hserve
      cases hserve
      obtain ⟨rfl, -, -⟩ := SignIn.exchanged_of_finish hfinish
      exact ⟨code, hfinish, rfl⟩

end Server

/-- After a callback that was answered 200, the status is determined by the credentials that the code was
exchanged for. -/
theorem serve_signInStatus_of_reported (hback : back.Asks .callback)
    (hserve : Server.serve back w = (response, v)) (hok : response.status = 200)
    (hlevels : 3 ≤ w.limits.levels)
    (hanswer : ∀ answer, w.answers.exchangeCode.take.1 = .ok answer → answer.Storable w.limits)
    (hasked : asked.Asks .signInStatus)
    (haccount : asked.account = SignIn.accountOf ((back.parameter? "state").getD "")) (time : Moment) :
    response = .welcome asked.account ∧ ∃ secret answer c, (SignIn.clientSecret.run w).1 = .ok secret ∧
      w.answers.exchangeCode.take.1 = .ok answer ∧ SignIn.credentials secret answer = .ok c ∧
      (Server.serve asked { v with now := time }).1 = .ofResult
        (((Credentials.usable time c.document).mapError (⟨·, []⟩)).map (.signInStatus asked.account)) := by
  obtain ⟨code, hfinish, hresponse⟩ := Server.run_finish_of_reported hback hserve hok
  obtain ⟨-, ⟨settings, fields, hstores⟩, secret, answer, c, hsecret, htake, hcredentials⟩ :=
    SignIn.exchanged_of_finish hfinish
  rw [← haccount] at hresponse
  refine ⟨hresponse, secret, answer, c, hsecret, htake, hcredentials, ?_⟩
  obtain ⟨x, hrun, hafter⟩ := SignIn.run_finish hstores
    (.given hsecret htake hcredentials hlevels (hanswer answer htake)) code ((back.parameter? "state").getD "")
  obtain rfl : x = v := congrArg Prod.snd (hrun.symm.trans hfinish)
  have hlater : World.Stores { x with now := time } settings _ := hafter.congr rfl rfl rfl
  have hget := Fields.get?_set_self (Account.key (SignIn.accountOf ((back.parameter? "state").getD "")))
    c.document fields
  rw [← haccount] at hget hlater
  exact Server.serve_signInStatus hasked hlater hget c.truthy_document

/-- **The status after a callback that was answered 200.**  The response to a status request at any later time is
determined by the credentials that the code was exchanged for: it is 500 if they cannot be read, and else 200,
with `authenticated` true just if they are usable at that time. -/
theorem reported_sign_in_status (hback : back.Asks .callback) (hserve : Server.serve back w = (response, v))
    (hok : response.status = 200) (hlevels : 3 ≤ w.limits.levels)
    (hanswer : ∀ answer, w.answers.exchangeCode.take.1 = .ok answer → answer.Storable w.limits)
    (hasked : asked.Asks .signInStatus)
    (haccount : asked.account = SignIn.accountOf ((back.parameter? "state").getD "")) (time : Moment) :
    response = .welcome asked.account ∧
      ∃ secret answer c expiry, (SignIn.clientSecret.run w).1 = .ok secret ∧
        w.answers.exchangeCode.take.1 = .ok answer ∧ SignIn.credentials secret answer = .ok c ∧
        c.expiry = some expiry ∧ ∃ status, (Server.serve asked { v with now := time }).1 = status ∧
          (status = .unforeseen ↔ c.Unreadable expiry) ∧
          (status = .signInStatus asked.account true ↔ c.Usable expiry time) ∧
          (status = .signInStatus asked.account false ↔ ¬ c.Unreadable expiry ∧ ¬ c.Usable expiry time) := by
  obtain ⟨hresponse, secret, answer, c, hsecret, htake, hcredentials, hreply⟩ :=
    serve_signInStatus_of_reported hback hserve hok hlevels hanswer hasked haccount time
  obtain ⟨token, expiry, -, hend, hc⟩ := SignIn.exists_of_credentials hcredentials
  have hexpiry : c.expiry = some expiry := by rw [hc]
  refine ⟨hresponse, secret, answer, c, expiry, hsecret, htake, hcredentials, hexpiry, _, rfl, ?_⟩
  generalize (Server.serve asked _).1 = status at hreply ⊢
  rcases Credentials.usable_document hexpiry hend time with
    ⟨hunreadable, husable⟩ | ⟨hunreadable, good, husable, hgood⟩
  · obtain rfl : status = .unforeseen := by
      rw [hreply]
      rcases husable with husable | ⟨text, husable⟩ <;> rw [husable] <;> rfl
    have hother := fun signedIn => (Response.signInStatus_ne_unforeseen asked.account signedIn).symm
    exact ⟨iff_of_true rfl hunreadable, iff_of_false (hother true) fun h => h.not_unreadable hunreadable,
      iff_of_false (hother false) fun h => h.1 hunreadable⟩
  · obtain rfl : status = .signInStatus asked.account good := by
      rw [hreply, husable]
      rfl
    have hinjective := Response.signInStatus_injective asked.account
    refine ⟨iff_of_false (Response.signInStatus_ne_unforeseen _ _) hunreadable, hinjective.eq_iff.trans hgood, ?_⟩
    rw [hinjective.eq_iff, ← hgood, Bool.not_eq_true]
    exact ⟨fun h => ⟨hunreadable, h⟩, fun h => h.2⟩

/-- Credentials with a refresh token are usable, even after their expiry. -/
theorem reported_sign_in_status_renewable :
    let w : World := .exchanging (.obj [
      ("access_token", .str "at"), ("refresh_token", .str "rt"), ("expires_at", .int 32472144000)])
    let back : Request := {
      method := "GET", path := "/auth/forms/callback", query := [("code", "4/x"), ("state", "forms:w")] }
    let asked : Request := { method := "GET", path := "/auth/forms/status", query := [("account", "w")] }
    let later : World := { (Server.serve back w).2 with now := Moment.of 3025 6 1 0 0 0 }
    (Server.serve back w).1 = .welcome "w" ∧ (Server.serve asked later).1 = .signInStatus "w" true := by
  intro w back asked later
  have hanswer : ∀ answer, w.answers.exchangeCode.take.1 = .ok answer → answer.Storable w.limits := by
    rintro _ ⟨⟩
    refine Json.storable_obj (by decide) ?_
    simp only [List.forall_mem_cons]
    exact ⟨Json.readable_str _ _, Json.readable_str _ _, ⟨.int _, .int (by decide +kernel)⟩,
      List.forall_mem_nil _⟩
  have hback : back.Asks .callback := ⟨by decide +kernel, rfl⟩
  have hasked : asked.Asks .signInStatus := ⟨by decide +kernel, rfl⟩
  have haccount : asked.account = "w" := by decide +kernel
  obtain ⟨hresponse, secret, answer, c, expiry, hsecret, htake, hcredentials, hexpiry, status, hreply, -,
      husable, -⟩ :=
    reported_sign_in_status hback (Prod.eta (Server.serve back w)).symm (by decide +kernel) (by decide) hanswer
      hasked (by decide +kernel) (Moment.of 3025 6 1 0 0 0)
  rw [haccount] at hresponse husable
  have hdescribed : (SignIn.clientSecret.run w).1 = .ok .described := by decide +kernel
  cases hsecret.symm.trans hdescribed
  cases htake
  have hgood : c.Usable expiry (Moment.of 3025 6 1 0 0 0) := by
    cases hcredentials
    cases hexpiry
    exact ⟨⟨nofun, nofun, nofun⟩, by decide +kernel, fun _ => nofun, fun _ => rfl⟩
  exact ⟨hresponse, hreply.trans (husable.mpr hgood)⟩

/-- A callback is answered 200, and the status request after it 500: the code was exchanged for credentials
without a refresh token. -/
theorem reported_sign_in_unreadable :
    let w : World := .exchanging (.obj [("access_token", .str "at"), ("expires_at", .int 32472144000)])
    let back : Request := {
      method := "GET", path := "/auth/forms/callback", query := [("code", "4/x"), ("state", "forms:w")] }
    let asked : Request := { method := "GET", path := "/auth/forms/status", query := [("account", "w")] }
    (Server.serve back w).1 = .welcome "w" ∧
      (Server.serve asked (Server.serve back w).2).1 = .unforeseen := by
  intro w back asked
  have hanswer : ∀ answer, w.answers.exchangeCode.take.1 = .ok answer → answer.Storable w.limits := by
    rintro _ ⟨⟩
    refine Json.storable_obj (by decide) ?_
    simp only [List.forall_mem_cons]
    exact ⟨Json.readable_str _ _, ⟨.int _, .int (by decide +kernel)⟩, List.forall_mem_nil _⟩
  have hback : back.Asks .callback := ⟨by decide +kernel, rfl⟩
  have hasked : asked.Asks .signInStatus := ⟨by decide +kernel, rfl⟩
  have haccount : asked.account = "w" := by decide +kernel
  have hok : (Server.serve back w).1.status = 200 := by decide +kernel
  rcases hserve : Server.serve back w with ⟨response, v⟩
  rw [hserve] at hok
  obtain ⟨hresponse, secret, answer, c, -, htake, hcredentials, hreply⟩ :=
    serve_signInStatus_of_reported hback hserve hok (by decide) hanswer hasked (by decide +kernel) v.now
  rw [haccount] at hresponse
  cases htake
  have hmissing : ¬ c.Complete := by
    obtain ⟨token, expiry, -, -, rfl⟩ := SignIn.exists_of_credentials hcredentials
    exact fun h => h.refreshToken rfl
  obtain ⟨text, hread⟩ := Credentials.read_document_of_not_complete hmissing
  refine ⟨hresponse, hreply.trans ?_⟩
  rw [Credentials.usable, hread]
  rfl

end Formwork
