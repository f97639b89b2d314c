import Formwork.Proofs.Account.SigningIn
import Formwork.Proofs.Service.Serving

/-!
# Signing in over HTTP

`GET /auth/forms/setup` redirects a user to the consent page, and the user returns to `GET /auth/forms/callback` with a
code and the `state` (`CallbackFor`).  The credentials are stored for the account of the setup request, whatever its
name.  `GET /auth/forms/accounts` then lists the accounts that have signed in, each once, in the order of their first
callbacks, and no others (`SignIns.stores`, `accounts_round_trip`).
-/
namespace Formwork

/-- The last value of a query parameter. -/
def Link.parameter? (name : String) (link : Link) : Option String := link.query.reverse.lookup name

/-- The request goes to this endpoint. -/
structure Request.Asks (request : Request) (endpoint : Endpoint) : Prop where
  path : Endpoint.ofPath? request.path = some endpoint
  method : request.method = endpoint.method

/-- The redirect to an address. -/
def Response.sent (link : Link) : Response := ⟨307, .redirect link⟩

/-- The 200 response of a callback for an account. -/
def Response.welcome (account : String) : Response :=
  .ok (Endpoint.signInDocument true
    s!"Forms account '{account}' authenticated successfully. You can close this tab.")

/-- The response of `GET /auth/forms/accounts`. -/
def Response.listed (accounts : List String) : Response := .ok (.obj [("accounts", .texts accounts)])

variable {account : String} {ask asked back : Request} {endpoint : Endpoint} {link : Link} {c : Credentials}
  {settings : Settings} {fields : Fields} {start u v w : World}

namespace Server

theorem serve_of_asks (h : asked.Asks endpoint) (w : World) :
    serve asked w =
      (.ofResult ((endpoint.answer asked).run w).1, ((endpoint.answer asked).run w).2) := by
  rw [serve_eq h.path h.method, settle_eq]

theorem serve_setup (h : ask.Asks .setup) (w : World) :
    serve ask w = (.ofResult (((SignIn.page ask.account).run w).1.map .sent),
      ((SignIn.page ask.account).run w).2) := by
  have hanswer : (Endpoint.setup.answer ask).run w = (((SignIn.page ask.account).run w).1.map .sent,
    ((SignIn.page ask.account).run w).2) :=
    Act.run_bind_pure (SignIn.page ask.account) Response.sent w
  rw [serve_of_asks h, hanswer]

/-- A redirect goes to the consent page of the account. -/
theorem run_page_of_status (h : ask.Asks .setup) (hsent : (serve ask w).1.status = 307) :
    ∃ link v, (SignIn.page ask.account).run w = (.ok link, v) ∧ (serve ask w).1 = .sent link := by
  rw [serve_setup h] at hsent ⊢
  rcases hpage : (SignIn.page ask.account).run w with ⟨failure | link, v⟩
  · rw [hpage] at hsent
    have hle := Response.le_ofFailure_status failure
    rw [show (Response.ofFailure failure).status = 307 from hsent] at hle
    exact absurd hle (by decide)
  · exact ⟨link, v, rfl, rfl⟩

theorem run_page_of_sent (h : ask.Asks .setup) (hsent : (serve ask w).1 = .sent link) :
    ∃ v, (SignIn.page ask.account).run w = (.ok link, v) := by
  obtain ⟨found, v, hpage, hfound⟩ := run_page_of_status h (congrArg Response.status hsent)
  cases hsent.symm.trans hfound
  exact ⟨v, hpage⟩

/-- **There is a redirect for every account or for none.** -/
theorem sent_of_sent (h : ask.Asks .setup) (hasked : asked.Asks .setup) (hsent : (serve ask w).1 = .sent link) :
    ∃ link, (serve asked w).1 = .sent link := by
  obtain ⟨v, hpage⟩ := run_page_of_sent h hsent
  obtain ⟨base, query, secret, settings, -, hpages⟩ := SignIn.run_page_eq_ok hpage
  exact ⟨_, by rw [serve_setup hasked, hpages]; rfl⟩

/-- **The `state` of the redirect is that of the account.** -/
theorem state_of_sent (h : ask.Asks .setup) (hsent : (serve ask w).1 = .sent link) :
    link.parameter? "state" = some (SignIn.state ask.account) := by
  obtain ⟨v, hpage⟩ := run_page_of_sent h hsent
  obtain ⟨base, query, secret, settings, rfl, -⟩ := SignIn.run_page_eq_ok hpage
  -- the parameters of the page's own address come first, so they are not the last ones
  rw [Link.parameter?, List.reverse_append]
  rfl

end Server

/-! ### One callback -/

/-- A callback for an account: it has a code, and the `state` of a redirect for that account. -/
structure CallbackFor (account : String) (back : Request) : Prop where
  asks : back.Asks .callback
  code : ∃ code, back.parameter? "code" = some code
  state : ∃ ask w link, ask.Asks .setup ∧ ask.account = account ∧ (Server.serve ask w).1 = .sent link ∧
    back.parameter? "state" = link.parameter? "state"

theorem CallbackFor.parameter?_state (h : CallbackFor account back) :
    back.parameter? "state" = some (SignIn.state account) := by
  obtain ⟨ask, w, link, hask, rfl, hsent, hstate⟩ := h.state
  rw [hstate, Server.state_of_sent hask hsent]

namespace Server

/-- **A callback for an account stores the credentials for that account.** -/
theorem serve_callbackFor (hback : CallbackFor account back) (hstores : w.Stores settings fields)
    (hexchanges : SignIn.Exchanges w c) :
    ∃ v, serve back w = (.welcome account, v) ∧
      v.Stores settings (fields.set (Account.key account) c.document) := by
  obtain ⟨code, hcode⟩ := hback.code
  obtain ⟨v, hfinish, hstored⟩ := SignIn.run_finish hstores hexchanges code (SignIn.state account)
  rw [SignIn.accountOf_state] at hfinish hstored
  refine ⟨v, ?_, hstored⟩
  have hanswer : (Endpoint.callback.answer back).run w = (.ok (.welcome account), v) := by
    show (Endpoint.answerCallback back).run w = _
    unfold Endpoint.answerCallback
    rw [hcode, hback.parameter?_state]
    exact (Act.run_bind_ok hfinish).trans rfl
  rw [serve_of_asks hback.asks, hanswer]
  rfl

theorem serve_accounts {accounts : List String} (hasked : asked.Asks .accounts)
    (hstores : w.Stores settings fields) (haccounts : Stored.accounts (.obj fields) = .ok accounts) :
    (serve asked w).1 = .listed accounts := by
  have hlist : (TokenStore.ofSettings w.limits settings).accounts.run (w.keeping settings) =
      (.ok accounts, w.keeping settings) := by
    rw [TokenStore.accounts, Act.run_bind_ok hstores.run_stored]
    exact Act.run_ofProblem_eq_ok.mpr ⟨haccounts, rfl⟩
  have hanswer : (Endpoint.accounts.answer asked).run w = (.ok (.listed accounts), w.keeping settings) := by
    show Endpoint.answerAccounts.run w = _
    rw [Endpoint.answerAccounts, Act.run_bind_ok hstores.run_current, Act.run_bind_ok hlist]
    rfl
  rw [serve_of_asks hasked, hanswer]
  rfl

end Server

/-! ### Any number of callbacks -/

/-- The world came from another one by callbacks for these accounts, in this order.  Anything else may happen in
between that leaves the token store as it is. -/
inductive SignIns (start : World) : List String → World → Prop
  | none : SignIns start [] start
  | elsewhere {accounts : List String} {u v : World} (signs : SignIns start accounts u)
      (still : ∀ settings fields, u.Stores settings fields → v.Stores settings fields) :
      SignIns start accounts v
  | signIn {accounts : List String} {account : String} {back : Request} {c : Credentials} {u : World}
      (signs : SignIns start accounts u) (comes : CallbackFor account back)
      (exchanges : SignIn.Exchanges u c) : SignIns start (accounts ++ [account]) (Server.serve back u).2

/-- **The store has one entry for each account that has signed in**, in the order of their first callbacks. -/
theorem SignIns.stores {accounts : List String} (h : SignIns start accounts w)
    (hstart : start.Stores settings []) :
    ∃ fields, w.Stores settings fields ∧ fields.names = accounts.eraseDups.map Account.key := by
  induction h with
  | none => exact ⟨[], hstart, rfl⟩
  | elsewhere signs still ih =>
    obtain ⟨fields, hstores, hnames⟩ := ih
    exact ⟨fields, still settings fields hstores, hnames⟩
  | @signIn accounts account back c u signs comes exchanges ih =>
    obtain ⟨fields, hstores, hnames⟩ := ih
    obtain ⟨v, hserve, hstored⟩ := Server.serve_callbackFor comes hstores exchanges
    rw [hserve]
    exact ⟨_, hstored, Stored.names_set_key hnames account c.document⟩

/-- **Accounts survive the OAuth flow.**  No two accounts share a key.  A user is redirected whatever the account
is, or not at all.  A callback whose code is exchanged stores the credentials under the key of the account of the
setup request, changes no other entry, and the account is listed from then on.  After any callbacks that begin
without a token file, the accounts that have signed in are listed, each of them once, in the order of their first
callbacks. -/
theorem accounts_round_trip :
    (∀ account other, Account.key account = Account.key other → account = other) ∧
    (∀ ask asked w link, ask.Asks .setup → asked.Asks .setup → (Server.serve ask w).1 = .sent link →
      ∃ link, (Server.serve asked w).1 = .sent link) ∧
    (∀ account back c settings fields w, CallbackFor account back → SignIn.Exchanges w c →
      w.Stores settings fields → ∃ v, Server.serve back w = (.welcome account, v) ∧
        v.Stores settings (fields.set (Account.key account) c.document) ∧
        ∀ asked, asked.Asks .accounts →
          ∃ accounts, (Server.serve asked v).1 = .listed accounts ∧ account ∈ accounts) ∧
    (∀ accounts settings start w, SignIns start accounts w → start.settingsNow = .ok settings →
      start.files.isThere settings.tokenFile = .ok false →
      (∃ place, start.files.filePlace settings.tokenFile = .ok place) →
      ∀ asked, asked.Asks .accounts → (Server.serve asked w).1 = .listed accounts.eraseDups) := by
  refine ⟨fun _ _ h => Account.key_injective h, fun _ _ _ _ => Server.sent_of_sent, ?_, ?_⟩
  · intro account back c settings fields w hback hexchanges hstores
    obtain ⟨v, hserve, hstored⟩ := Server.serve_callbackFor hback hstores hexchanges
    refine ⟨v, hserve, hstored, fun asked hasked => ?_⟩
    refine ⟨_, Server.serve_accounts hasked hstored (Stored.accounts_obj _), ?_⟩
    exact List.mem_filterMap.mpr ⟨_, Stored.mem_names_set _ _ _, Account.ofKey?_key account⟩
  · intro accounts settings start w h hsettings habsent hplace asked hasked
    obtain ⟨fields, hstores, hnames⟩ := h.stores (World.stores_of_absent hsettings habsent hplace)
    exact Server.serve_accounts hasked hstores (Stored.accounts_obj_of_names hnames)

/-- A world in which the client secret file describes a web application, and every code is exchanged for this
answer. -/
def World.exchanging (answer : Json) : World where
  now := Moment.of 2025 6 1 0 0 0
  files := [("client_secret.json", "\x7b\"web\": \x7b\"auth_uri\": \"https://a.test\", \"token_uri\": "
    ++ "\"https://t.test\", \"client_id\": \"c\", \"client_secret\": \"s\"\x7d\x7d")]
  answers := { exchangeCode := { usual := answer } }

/-- The description of the application in that world. -/
def ClientSecret.described : ClientSecret :=
  ⟨.str "https://a.test", .str "https://t.test", .str "c", .str "s"⟩

/-- An account with a colon in its name signs in and is listed. -/
theorem accounts_round_trip_colon :
    let w : World := .exchanging (.obj [("access_token", .str "at"), ("expires_at", .int 32472144000)])
    let back : Request := {
      method := "GET", path := "/auth/forms/callback", query := [("code", "4/x"), ("state", "forms:a:b")] }
    let asked : Request := { method := "GET", path := "/auth/forms/accounts" }
    (Server.serve back w).1 = .welcome "a:b" ∧
      (Server.serve asked (Server.serve back w).2).1 = .listed ["a:b"] := by
  intro w back asked
  have hsent : ∃ ask w link, ask.Asks .setup ∧ ask.account = "a:b" ∧ (Server.serve ask w).1 = .sent link ∧
      back.parameter? "state" = link.parameter? "state" := by
    let ask : Request := { method := "GET", path := "/auth/forms/setup", query := [("account", "a:b")] }
    have hask : ask.Asks .setup := ⟨by decide +kernel, rfl⟩
    obtain ⟨link, v, -, hlink⟩ := Server.run_page_of_status (w := w) hask (by decide +kernel)
    have haccount : ask.account = "a:b" := by decide +kernel
    refine ⟨ask, w, link, hask, haccount, hlink, ?_⟩
    rw [Server.state_of_sent hask hlink, haccount]
    decide +kernel
  have hback : CallbackFor "a:b" back := ⟨⟨by decide +kernel, rfl⟩, ⟨"4/x", by decide +kernel⟩, hsent⟩
  have hanswer : (Json.obj [("access_token", .str "at"), ("expires_at", .int 32472144000)]).Storable
      w.limits := by
    refine Json.storable_obj (by decide) ?_
    simp only [List.forall_mem_cons]
    exact ⟨Json.readable_str _ _, ⟨.int _, .int (by decide +kernel)⟩, List.forall_mem_nil _⟩
  have hdescribed : (SignIn.clientSecret.run w).1 = .ok .described := by decide +kernel
  have hexchanges : SignIn.Exchanges w _ := .given hdescribed rfl rfl (by decide) hanswer
  have hsettings : w.settingsNow = .ok {} := by decide +kernel
  have habsent : w.files.isThere "tokens.json" = .ok false := by decide +kernel
  have hplace : ∃ place, w.files.filePlace "tokens.json" = .ok place := ⟨"tokens.json", by decide +kernel⟩
  obtain ⟨-, -, hsigns, hlists⟩ := accounts_round_trip
  constructor
  · obtain ⟨v, hserve, -⟩ := hsigns "a:b" back _ {} [] w hback hexchanges
      (World.stores_of_absent hsettings habsent hplace)
    rw [hserve]
  · exact hlists ["a:b"] {} w _ (.signIn .none hback hexchanges) hsettings habsent hplace asked
      ⟨by decide +kernel, rfl⟩

end Formwork
