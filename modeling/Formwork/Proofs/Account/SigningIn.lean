import Formwork.Proofs.Account.Document
import Formwork.Proofs.Account.Name
import Formwork.Proofs.Account.Renewal
import Formwork.Proofs.Account.Saves

/-!
# The callback of the OAuth flow

The callback exchanges the code for credentials and saves them.  If the code is exchanged and the store can be written,
the credentials are stored under the key of the account (`SignIn.run_finish`), and the callback succeeds in no other
case (`SignIn.exchanged_of_finish`).
-/
namespace Formwork

/-- Within the limits of the world, the token store of the settings holds these members. -/
structure World.Stores (w : World) (settings : Settings) (fields : Fields) : Prop where
  known : w.settingsNow = .ok settings
  holds : w.files.HoldsWithin w.limits settings.tokenFile fields

/-- The store of the settings covers the limits of the world. -/
theorem TokenStore.covers_ofSettings (limits : Json.Limits) (settings : Settings) :
    (ofSettings limits settings).codec.Covers limits :=
  Json.Codec.covers_reads limits

namespace World

variable {w v : World} {settings : Settings} {fields : Fields}

/-- What is stored depends on the files, the settings and the limits only. -/
theorem Stores.congr (h : w.Stores settings fields) (hfiles : v.files = w.files)
    (hsettings : v.settingsNow = w.settingsNow) (hlimits : v.limits = w.limits) : v.Stores settings fields :=
  ⟨hsettings.trans h.known, by rw [hfiles, hlimits]; exact h.holds⟩

/-- Where the token file does not exist, nothing is stored. -/
theorem stores_of_absent (hsettings : w.settingsNow = .ok settings)
    (habsent : w.files.isThere settings.tokenFile = .ok false)
    (hplace : ∃ place, w.files.filePlace settings.tokenFile = .ok place) : w.Stores settings [] := by
  obtain ⟨place, hplace⟩ := hplace
  exact ⟨hsettings, .absent habsent hplace⟩

theorem Stores.run_current (h : w.Stores settings fields) :
    TokenStore.current.run w = (.ok (.ofSettings w.limits settings), w.keeping settings) :=
  TokenStore.run_current_eq_ok.mpr ⟨settings, h.known, rfl, rfl⟩

theorem Stores.keeping (h : w.Stores settings fields) : (w.keeping settings).Stores settings fields :=
  h.congr rfl (alike_keeping h.known).settings rfl

/-- What is stored is found by the store of the settings. -/
theorem Stores.run_stored (h : w.Stores settings fields) :
    (TokenStore.ofSettings w.limits settings).stored.run (w.keeping settings) =
      (.ok (.obj fields), w.keeping settings) :=
  TokenStore.run_stored _ h.keeping.holds (TokenStore.covers_ofSettings w.limits settings).reads

end World

namespace ClientSecret

variable {value : Json} {secret : ClientSecret} {levels digits : Nat}

/-- The members of a description lie two levels deep in the value of the file. -/
theorem readable_of_read (h : read value = .ok secret) (hvalue : value.Readable ⟨levels + 2, digits⟩) :
    secret.tokenUri.Readable ⟨levels, digits⟩ ∧ secret.clientId.Readable ⟨levels, digits⟩ ∧
      secret.clientSecret.Readable ⟨levels, digits⟩ := by
  unfold read at h
  split at h
  · rename_i description hdescription
    obtain ⟨sort, -, hsort⟩ := List.exists_of_findSome?_eq_some hdescription
    have hmember := (hvalue.get? hsort).getD_get?
    cases description with
    | obj fields =>
      simp only [Json.fieldsFor, bind, Except.bind] at h
      split at h
      · cases h
        exact ⟨hmember "token_uri", hmember "client_id", hmember "client_secret"⟩
      · cases h
    | _ => cases h
  · cases h

end ClientSecret

namespace SignIn

variable {secret : ClientSecret} {answer : Json} {c : Credentials} {settings : Settings} {fields : Fields}
  {w v : World}

/-! ### Answers that can be stored -/

/-- The description of the application was read from a file. -/
theorem exists_of_clientSecret (h : (clientSecret.run w).1 = .ok secret) :
    ∃ value, value.Readable w.limits ∧ ClientSecret.read value = .ok secret := by
  rcases hrun : clientSecret.run w with ⟨result, v⟩
  rw [hrun] at h
  cases h
  obtain ⟨settings, u, hsettings, hthen⟩ := Act.run_bind_eq_ok.mp hrun
  obtain ⟨there, u', hthere, hlook⟩ := Act.run_bind_eq_ok.mp hthen
  cases there with
  | false => cases hlook
  | true =>
    obtain ⟨text, x, htext, hparses⟩ := Act.run_bind_eq_ok.mp hlook
    have hlimits : x.limits = w.limits := by
      rw [(World.looks_isThere _).run_eq] at hthere
      rw [(World.looks_fileText _).run_eq] at htext
      obtain rfl : u = u' := congrArg Prod.snd hthere
      obtain rfl : u = x := congrArg Prod.snd htext
      exact (World.alike_currentSettings hsettings).1.limits
    rw [Act.run_bind_ok (Act.run_state x)] at hparses
    obtain ⟨value, y, hparse, hread⟩ := Act.run_bind_eq_ok.mp hparses
    obtain ⟨hvalue, -⟩ := Act.run_ofProblem_eq_ok.mp hparse
    obtain ⟨hsecret, -⟩ := Act.run_ofProblem_eq_ok.mp hread
    refine ⟨value, ?_, hsecret⟩
    rw [← hlimits]
    exact Json.readable_of_parseWithin (Act.mapError_eq_ok.mp hvalue)

/-- The next code will be exchanged for these credentials, by an answer that can be stored.  Stored credentials
take three levels: the store, the credentials and their scopes. -/
inductive Exchanges (w : World) (c : Credentials) : Prop
  | given {secret : ClientSecret} {answer : Json} (knows : (clientSecret.run w).1 = .ok secret)
      (answers : w.answers.exchangeCode.take.1 = .ok answer) (reads : credentials secret answer = .ok c)
      (levels : 3 ≤ w.limits.levels) (storable : answer.Storable w.limits)

/-- Credentials can be stored if the answer that they come from can. -/
theorem Exchanges.storable (h : Exchanges w c) : c.document.Storable w.limits := by
  obtain ⟨knows, -, reads, hlevels, hanswer⟩ := h
  obtain ⟨value, hvalue, hread⟩ := exists_of_clientSecret knows
  obtain ⟨token, expiry, htoken, -, rfl⟩ := exists_of_credentials reads
  generalize w.limits = limits at hlevels hanswer hvalue
  obtain ⟨levels, digits⟩ := limits
  obtain ⟨levels, rfl⟩ := Nat.exists_eq_add_of_le' hlevels
  obtain ⟨_, ⟨⟩, hanswer⟩ := hanswer
  obtain ⟨huri, hid, hsecret⟩ := @ClientSecret.readable_of_read _ _ (levels + 1) digits hread hvalue
  refine ⟨levels + 2, rfl, Credentials.readable_document ?_⟩
  simp only [Credentials.members, List.forall_mem_cons]
  exact ⟨hanswer.get? htoken, hanswer.getD_get? _, huri, hid, hsecret, Json.readable_texts _ _ _,
    Json.readable_null _, Json.readable_str _ _, Json.readable_str _ _, Json.readable_str _ _,
    List.forall_mem_nil _⟩

/-! ### The callback -/

/-- **If the code is exchanged and the store can be written, the credentials are stored under the key of the
account**, and all other entries stay as they are. -/
theorem run_finish (hstores : w.Stores settings fields) (hexchanges : Exchanges w c) (code state : String) :
    ∃ v, (finish code state).run w = (.ok (accountOf state), v) ∧
      v.Stores settings (fields.set (Account.key (accountOf state)) c.document) := by
  have hdocument := hexchanges.storable
  obtain ⟨knows, answers, reads, -, -⟩ := hexchanges
  rename_i secret answer
  have hidle := idles_clientSecret w
  obtain ⟨u, hsecret⟩ : ∃ u, clientSecret.run w = (.ok secret, u) := ⟨_, Prod.ext knows rfl⟩
  rw [hsecret] at hidle
  obtain ⟨x, hanswer⟩ : ∃ x, (World.exchangeCode code).run u = (.ok answer, x) := by
    rw [World.exchangeCode, World.run_request, hidle.exchangeCode, answers]
    exact ⟨_, rfl⟩
  have hasked := asked_exchangeCode hanswer
  have hlimits : x.limits = w.limits := hasked.limits.trans hidle.limits
  have hnow : x.Stores settings fields :=
    hstores.congr (hasked.files.trans hidle.files) (hasked.settings.trans hidle.settings) hlimits
  have hcodec := TokenStore.covers_ofSettings x.limits settings
  have hfound := hnow.holds.readable (hlimits ▸ hdocument.readable_obj_nil)
  obtain ⟨files, hput, hholds⟩ := (TokenStore.ofSettings x.limits settings).run_put hnow.keeping.holds hcodec
    hfound (hlimits ▸ hdocument) (Account.key (accountOf state))
  refine ⟨(x.keeping settings).withFiles files, ?_, rfl, hholds⟩
  rw [finish, Act.run_bind_ok hsecret, Act.run_bind_ok hanswer,
    Act.run_bind_ok (Act.run_ofProblem_eq_ok.mpr ⟨reads, rfl⟩), Act.run_bind_ok hnow.run_current,
    TokenStore.save_eq_put, bind_assoc, Act.run_bind_ok hnow.run_stored, Act.run_bind_ok hput]
  rfl

/-- **The callback succeeds in no other case**: the store could be written, and the code was exchanged. -/
theorem exchanged_of_finish {code state account : String} (h : (finish code state).run w = (.ok account, v)) :
    account = accountOf state ∧ (∃ settings fields, w.Stores settings fields) ∧
      ∃ secret answer c, (clientSecret.run w).1 = .ok secret ∧ w.answers.exchangeCode.take.1 = .ok answer ∧
        credentials secret answer = .ok c := by
  obtain ⟨knows, answers, reads, settles, hsettings, hlimits, hfiles, saves⟩ := finished_of_finish h
  rcases TokenStore.save_cases saves with ⟨-, failure, hfailed⟩ | ⟨fields, files, -, -, hstored, hwrite⟩
  · cases hfailed
  obtain ⟨place, hplace, -⟩ := Files.filePlace_of_save hwrite
  have hholds := TokenStore.holdsWithin_of_stored hstored hplace
  rw [hfiles] at hholds
  exact ⟨rfl, ⟨_, fields, settles, hholds⟩, _, _, _, knows, answers, reads⟩

/-! ### The consent page -/

/-- **There is a consent page for every account or for none**, and the pages differ in the `state` only. -/
theorem run_page_eq_ok {account : String} {link : Link} (h : (page account).run w = (.ok link, v)) :
    ∃ base query secret settings, link = ⟨base, query ++ parameters secret settings account⟩ ∧
      ∀ other, (page other).run w = (.ok ⟨base, query ++ parameters secret settings other⟩, v) := by
  obtain ⟨secret, u, hsecret, hthen⟩ := Act.run_bind_eq_ok.mp h
  obtain ⟨settings, x, hsettings, hsends⟩ := Act.run_bind_eq_ok.mp hthen
  obtain ⟨world, y, hstate, hsend⟩ := Act.run_bind_eq_ok.mp hsends
  split at hsend
  · rename_i text huri
    split at hsend
    · rename_i hallowed
      split at hsend
      · rename_i address haddress
        cases hsend
        refine ⟨address.page, address.query, secret, settings, rfl, fun other => ?_⟩
        rw [page, Act.run_bind_ok hsecret, Act.run_bind_ok hsettings, Act.run_bind_ok hstate]
        simp only [huri, if_pos hallowed, haddress]
        rfl
      · cases hsend
    · cases hsend
  · cases hsend

end SignIn
end Formwork
