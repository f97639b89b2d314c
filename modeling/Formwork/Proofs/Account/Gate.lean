import Formwork.Proofs.Account.Renewal

/-!
# `is_signed_in` and `get_token`

The orchestrator asks whether an account is signed in, and later the backend asks for its token.  Both read the token
store, each on its own: `is_signed_in` only determines whether there will be a token, and `get_token` loads it or
refreshes it.

The two agree (`gate_agrees`).  A signed-in account gets a token unless the refresh itself is refused; saving the new
token cannot fail, since a store in which credentials were found can be written
(`TokenStore.run_save_of_findCredentials`).  An account that is not signed in gets an error, and nothing changes.
-/
namespace Formwork

namespace TokenStore

variable {store : TokenStore} {key : String} {value : Json} {c : Credentials} {use : Credentials.Use}
  {w v : World}

theorem writes_of_current (h : current.run w = (.ok store, v)) : store.codec.writes = none := by
  obtain ⟨settings, -, rfl, -⟩ := run_current_eq_ok.mp h
  rfl

theorem run_get_eq_ok (h : (store.get key).run w = (.ok value, v)) :
    ∃ fields : Fields, store.stored.run w = (.ok (.obj fields), w) ∧ value = (fields.get? key).getD .null := by
  obtain ⟨stored, u, hstored, hget⟩ := Act.run_bind_eq_ok.mp h
  obtain ⟨hmember, rfl⟩ := Act.run_ofProblem_eq_ok.mp hget
  obtain ⟨rfl, -⟩ := run_stored_eq_ok.mp hstored
  cases stored with
  | obj fields =>
    cases hmember
    exact ⟨fields, hstored, rfl⟩
  | _ => cases hmember

/-- Credentials that are read from the entry of a key are found. -/
theorem findCredentials_of_get (hget : (store.get key).run w = (.ok value, w))
    (hread : Credentials.read value = .ok c) (huse : c.use w.now = .ok use) :
    (store.findCredentials key).run w = (.ok (some (c, use)), w) := by
  have htruthy : value.truthy = true := Credentials.truthy_of_read hread
  rw [findCredentials, Act.run_bind_ok hget, if_pos htruthy,
    Act.run_bind_ok (Act.run_ofProblem_eq_ok.mpr ⟨hread, rfl⟩), Act.run_bind_ok (Act.run_state w),
    Act.run_bind_ok (Act.run_ofProblem_eq_ok.mpr ⟨huse, rfl⟩), Act.run_pure]

/-- **A store in which credentials were found can be written**, if its writer has no limits. -/
theorem run_save_of_findCredentials (h : (store.findCredentials key).run w = (.ok (some (c, use)), w))
    (hwrites : store.codec.writes = none) (hfiles : v.files = w.files) (other : String) (value : Json) :
    ∃ u, (store.save other value).run v = (.ok (), u) := by
  obtain ⟨entry, hget, hread, -⟩ := eq_ok_of_findCredentials h
  obtain ⟨fields, hstored, rfl⟩ := run_get_eq_ok hget
  obtain ⟨-, ⟨-, hempty⟩ | ⟨text, htext, hparse⟩⟩ := run_stored_eq_ok.mp hstored
  · -- without a file nothing is found
    cases hempty
    cases hread
  · rw [← hfiles] at htext
    obtain ⟨place, hplace⟩ := Files.filePlace_of_read htext
    have hthere : store.stored.run v = (.ok (.obj fields), v) :=
      run_stored_eq_ok.mpr ⟨rfl, Or.inr ⟨text, htext, hparse⟩⟩
    have hencode : store.codec.encode (.obj (fields.set other value)) =
        .ok ((Json.obj (fields.set other value)).write .indented) :=
      Json.Codec.encode_eq_ok.mpr ⟨fun limits hlimits => (nomatch hwrites.symm.trans hlimits), rfl⟩
    rw [save_eq_put, Act.run_bind_ok hthere]
    show ∃ u, (Act.ofProblem (store.codec.encode (.obj (fields.set other value))) >>=
      World.saveText store.file).run v = (.ok (), u)
    rw [Act.run_bind_ok (Act.run_ofProblem_eq_ok.mpr ⟨hencode, rfl⟩), World.run_saveText,
      Files.save_eq hplace]
    exact ⟨_, rfl⟩

end TokenStore

namespace Account

variable {account : String} {w v : World} {calls : List Call} {store : TokenStore} {c : Credentials}
  {old : Json}

/-- The stored credentials of an account have expired, and this is their refresh token. -/
inductive Renewable (account : String) (w : World) : Json → Prop
  | expired {value : Json} {c : Credentials} (stores : ((stored account).run w).1 = .ok value)
      (reads : Credentials.read value = .ok c) (expired : c.isExpired w.now = .ok true)
      (refreshable : c.refreshToken.truthy = true) : Renewable account w c.refreshToken

/-- What `is_signed_in` says of an account in a world (`verdict`), and the run of `get_token` there: the result,
and the world afterwards. -/
structure GateAgrees (account : String) (w : World) (verdict : Except Failure Bool)
    (result : Except Failure Json) (v : World) : Prop where
  /-- A signed-in account gets a token, unless the refresh is refused. -/
  letIn : verdict = .ok true → (∃ token, result = .ok token) ∨ ∃ old problem, Renewable account w old ∧
    w.answers.refreshToken.take.1 = .error problem ∧ result = .error ⟨problem, []⟩
  turnedAway : verdict = .ok false → result = .error (notSignedIn account) ∧ w.Alike v
  unsure : ∀ failure, verdict = .error failure → result = .error failure
  asks : ∀ old, v.calls = w.calls ++ [.refreshToken old] ↔ Renewable account w old
  still : (∀ old, ¬ Renewable account w old) → v.calls = w.calls
  /-- Without a refresh the token is the stored one. -/
  keeps : (∀ old, ¬ Renewable account w old) → ∀ token, result = .ok token →
    ∃ value, ((stored account).run w).1 = .ok value ∧ value.get? "token" = some token
  renews : ∀ old grant, Renewable account w old → w.answers.refreshToken.take.1 = .ok grant →
    result = .ok grant.token

/-! ### `is_signed_in` -/

/-- An account is signed in if something usable is found. -/
theorem isSignedIn_of_findCredentials {found : Except Failure (Option (Credentials × Credentials.Use))}
    (hsettles : TokenStore.current.run w = (.ok store, v))
    (hfinds : (store.findCredentials (key account)).run v = (found, v)) :
    ((isSignedIn account).run w).1 = found.map TokenStore.isOfUse := by
  rw [isSignedIn_eq, Act.run_bind_ok hsettles, TokenStore.isUsable_eq, Act.run_map, hfinds]

theorem alike_isSignedIn (account : String) (w : World) : w.Alike ((isSignedIn account).run w).2 := by
  rw [isSignedIn_eq]
  rcases hsettles : TokenStore.current.run w with ⟨failure | store, v⟩
  · rw [Act.run_bind_error hsettles]
    exact (TokenStore.alike_current hsettles).1
  · rw [Act.run_bind_ok hsettles, (store.looks_isUsable _).run_eq]
    exact (TokenStore.alike_current hsettles).1

/-- There is a refresh token to use if and only if expired credentials with one are found. -/
theorem renewable_iff (hsettles : TokenStore.current.run w = (.ok store, v)) :
    Renewable account w old ↔ ∃ c : Credentials, c.refreshToken = old ∧
      (store.findCredentials (key account)).run v = (.ok (some (c, .refreshable)), v) := by
  have hnow : v.now = w.now := congrArg Prod.snd (TokenStore.alike_current hsettles).1.outside
  have hstored : (stored account).run w = (store.get (key account)).run v := Act.run_bind_ok hsettles
  constructor
  · rintro ⟨stores, reads, expired, refreshable⟩
    refine ⟨_, rfl, TokenStore.findCredentials_of_get ?_ reads ?_⟩
    · rw [(store.looks_get _).run_eq, ← hstored, stores]
    · rw [hnow]
      exact Credentials.use_eq_refreshable_iff.mpr ⟨expired, refreshable⟩
  · rintro ⟨c, rfl, hfinds⟩
    obtain ⟨value, hget, hread, huse⟩ := TokenStore.eq_ok_of_findCredentials hfinds
    obtain ⟨expired, refreshable⟩ := Credentials.use_eq_refreshable_iff.mp (hnow ▸ huse)
    exact .expired (by rw [hstored, hget]) hread expired refreshable

/-- The credentials that are found determine the refresh token. -/
theorem renewable_iff_eq (hsettles : TokenStore.current.run w = (.ok store, v))
    (hfinds : (store.findCredentials (key account)).run v = (.ok (some (c, .refreshable)), v)) :
    Renewable account w old ↔ old = c.refreshToken := by
  rw [renewable_iff hsettles, hfinds]
  constructor
  · rintro ⟨other, rfl, hother⟩
    cases hother
    rfl
  · rintro rfl
    exact ⟨c, rfl, rfl⟩

/-! ### `get_token` -/

/-- Where there is nothing to refresh, no call is made, and a token is the stored one. -/
theorem gateAgrees_still {verdict : Except Failure Bool} {result : Except Failure Credentials}
    (hway : Obtaining account w [] result v) (hnone : ∀ old, ¬ Renewable account w old)
    (hletIn : verdict = .ok true → ∃ c, result = .ok c)
    (hturnedAway : verdict = .ok false → result = .error (notSignedIn account) ∧ w.Alike v)
    (hunsure : ∀ failure, verdict = .error failure → result = .error failure) :
    GateAgrees account w verdict (result.map Credentials.token) v := by
  have hcalls : v.calls = w.calls := hway.aside.calls.trans (List.append_nil _)
  constructor
  case letIn =>
    intro h
    obtain ⟨c, rfl⟩ := hletIn h
    exact Or.inl ⟨c.token, rfl⟩
  case turnedAway =>
    intro h
    obtain ⟨rfl, hlike⟩ := hturnedAway h
    exact ⟨rfl, hlike⟩
  case unsure =>
    intro failure h
    rw [hunsure failure h]
    rfl
  case asks =>
    intro old
    refine ⟨fun h => ?_, fun h => absurd h (hnone old)⟩
    rw [hcalls] at h
    cases List.self_eq_append_right.mp h
  case still => exact fun _ => hcalls
  case keeps =>
    rintro - token h
    rcases result with failure | c
    · cases h
    · cases h
      cases hway.authorized with
      | stored stores holds => exact ⟨_, stores, holds⟩
  case renews => exact fun old grant h => absurd h (hnone old)

/-- Where the credentials are to be refreshed, the call is made, and only that can fail. -/
theorem gateAgrees_asked {granted : Except Failure Grant} {x y : World}
    (hsettles : TokenStore.current.run w = (.ok store, v))
    (hfinds : (store.findCredentials (key account)).run v = (.ok (some (c, .refreshable)), v))
    (hrenews : (World.refreshToken c.refreshToken).run v = (granted, x))
    (hcalls : y.calls = w.calls ++ [.refreshToken c.refreshToken]) :
    GateAgrees account w (.ok true) (granted.map Grant.token) y := by
  have hrenewable : ∀ {old}, Renewable account w old ↔ old = c.refreshToken :=
    renewable_iff_eq hsettles hfinds
  have hanswer : granted = w.answers.refreshToken.take.1.mapError (⟨·, []⟩) := by
    rw [World.refreshToken, World.run_request] at hrenews
    rw [← (TokenStore.alike_current hsettles).1.answers]
    exact (congrArg Prod.fst hrenews).symm
  constructor
  case letIn =>
    rintro -
    rcases htake : w.answers.refreshToken.take.1 with problem | grant
    · rw [hanswer, htake]
      exact Or.inr ⟨_, problem, hrenewable.mpr rfl, rfl, rfl⟩
    · rw [hanswer, htake]
      exact Or.inl ⟨grant.token, rfl⟩
  case turnedAway => rintro ⟨⟩
  case unsure => rintro _ ⟨⟩
  case asks =>
    intro old
    rw [hrenewable, hcalls, List.append_cancel_left_eq]
    exact ⟨fun h => (Call.refreshToken.inj (List.singleton_inj.mp h)).symm, fun h => by rw [h]⟩
  case still => exact fun h => absurd (hrenewable.mpr rfl) (h _)
  case keeps => exact fun h => absurd (hrenewable.mpr rfl) (h _)
  case renews =>
    intro old grant _ hgrant
    rw [hanswer, hgrant]
    rfl

/-- **Every way to get the credentials of an account agrees with `is_signed_in`.** -/
theorem Obtaining.gateAgrees {result : Except Failure Credentials}
    (h : Obtaining account w calls result v) :
    GateAgrees account w ((isSignedIn account).run w).1 (result.map Credentials.token) v := by
  cases h with
  | @unsettled failure _ settles =>
    have hverdict : ((isSignedIn account).run w).1 = .error failure := by
      rw [isSignedIn_eq, Act.run_bind_error settles]
    rw [hverdict]
    refine gateAgrees_still (.unsettled settles) ?_ nofun nofun fun _ hfailure => ?_
    · rintro _ ⟨stores, -, -, -⟩
      rw [Account.stored, Act.run_bind_error settles] at stores
      cases stores
    · cases hfailure
      rfl
  | unsure settles finds =>
    rw [isSignedIn_of_findCredentials settles finds]
    refine gateAgrees_still (.unsure settles finds) (fun old hold => ?_) nofun nofun fun _ hfailure => by
      cases hfailure
      rfl
    obtain ⟨c, -, hfound⟩ := (renewable_iff settles).mp hold
    rw [finds] at hfound
    cases hfound
  | signedOut settles finds useless =>
    rw [isSignedIn_of_findCredentials settles finds]
    refine gateAgrees_still (.signedOut settles finds useless) (fun old hold => ?_) (fun hin => ?_)
      (fun _ => ⟨rfl, (TokenStore.alike_current settles).1⟩) nofun
    · obtain ⟨c, -, hfound⟩ := (renewable_iff settles).mp hold
      rw [finds] at hfound
      cases hfound
      cases useless
    · rw [Except.map, useless] at hin
      cases hin
  | @good store c _ settles finds =>
    rw [isSignedIn_of_findCredentials settles finds]
    refine gateAgrees_still (.good settles finds) (fun old hold => ?_) (fun _ => ⟨c, rfl⟩) nofun nofun
    obtain ⟨c, -, hfound⟩ := (renewable_iff settles).mp hold
    rw [finds] at hfound
    cases hfound
  | refused settles finds renews =>
    rw [isSignedIn_of_findCredentials settles finds]
    exact gateAgrees_asked settles finds renews (Obtaining.refused settles finds renews).aside.calls
  | unsaved settles finds renews saves =>
    -- the file that the credentials were found in can be written
    have hwrites := TokenStore.writes_of_current settles
    obtain ⟨y, hsaved⟩ :=
      TokenStore.run_save_of_findCredentials finds hwrites (asked_refreshToken renews).1.files _ _
    rw [hsaved] at saves
    cases saves
  | renewed settles finds renews saves =>
    rw [isSignedIn_of_findCredentials settles finds]
    exact gateAgrees_asked settles finds renews (Obtaining.renewed settles finds renews saves).aside.calls

/-- **`is_signed_in` agrees with `get_token`.**  `is_signed_in` changes nothing but the cached settings.  If it is
true, `get_token` gives a token, unless a refresh is needed and is refused; if it is false, `get_token` raises
`AuthenticationError` and leaves the world as it is; and if it fails, `get_token` fails with the same failure.  A
refresh is made exactly if the stored credentials have expired and have a refresh token, and then the token is the
new one. -/
theorem gate_agrees (account : String) (w : World) :
    let gate := (isSignedIn account).run w
    let load := (token account).run gate.2
    w.Alike gate.2 ∧ GateAgrees account gate.2 gate.1 load.1 load.2 := by
  intro gate load
  have hlike : w.Alike gate.2 := alike_isSignedIn account w
  refine ⟨hlike, ?_⟩
  obtain ⟨calls, hway⟩ := obtaining_credentials account gate.2
  have hagrees := hway.gateAgrees
  rw [isSignedIn_congr hlike] at hagrees
  have hload : load = ((credentials account >>= fun c => pure c.token).run gate.2) := rfl
  rw [hload, Act.run_bind_pure]
  exact hagrees

end Account
end Formwork
