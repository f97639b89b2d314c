import Formwork.Account.Session
import Formwork.Proofs.World.Effects

/-!
# Getting a token

`is_signed_in` and `get_token` make the same lookup in the store: `TokenStore.findCredentials` is its result, and both
are that lookup with a continuation (`isUsable_eq`, `credentials_eq`).

`Obtaining` lists the ways to get the credentials of an account, with the calls that are made.  There is at most one
call, and it is none to the Forms API.
-/
namespace Formwork

namespace TokenStore

variable {store : TokenStore} {key : String} {value : Json} {world v : World}

theorem looks_stored (store : TokenStore) : store.stored.Looks World.outside := by
  refine (World.looks_isThere _).bind fun there => ?_
  split
  · exact (World.looks_fileText _).bind fun text => Act.looks_ofProblem _ _
  · exact Act.looks_pure _ _

theorem looks_get (store : TokenStore) (key : String) : (store.get key).Looks World.outside :=
  store.looks_stored.bind fun _ => Act.looks_ofProblem _ _

/-- **A save fails and leaves the world as it is, or writes the file** with one member set in what was read. -/
theorem save_cases {result : Except Failure Unit} (h : (store.save key value).run world = (result, v)) :
    (v = world ∧ ∃ failure, result = .error failure) ∨ ∃ fields files, result = .ok () ∧
      v = world.withFiles files ∧ store.stored.run world = (.ok (.obj fields), world) ∧
      world.files.save store.file ((Json.obj (Fields.set key value fields)).write .indented) = .ok files := by
  have hlooks := store.looks_stored.run_eq world
  rcases hstored : (store.stored.run world).1 with failure | stored
  · rw [hstored] at hlooks
    rw [save, Act.run_bind_error hlooks] at h
    cases h
    exact Or.inl ⟨rfl, _, rfl⟩
  rw [hstored] at hlooks
  rw [save, Act.run_bind_ok hlooks] at h
  rcases hset : Stored.set key value stored with problem | changed
  · rw [hset] at h
    cases h
    exact Or.inl ⟨rfl, _, rfl⟩
  rw [hset] at h
  replace h : (Act.ofProblem (store.codec.encode changed) >>= World.saveText store.file).run world =
    (result, v) := h
  rcases hencode : store.codec.encode changed with problem | text
  · rw [hencode] at h
    cases h
    exact Or.inl ⟨rfl, _, rfl⟩
  obtain ⟨-, rfl⟩ := Json.Codec.encode_eq_ok.mp hencode
  rw [hencode] at h
  replace h : (World.saveText store.file (changed.write .indented)).run world = (result, v) := h
  rw [World.run_saveText] at h
  rcases hsave : world.files.save store.file (changed.write .indented) with problem | files
  · rw [hsave] at h
    cases h
    exact Or.inl ⟨rfl, _, rfl⟩
  rw [hsave] at h
  cases h
  cases stored with
  | obj fields =>
    cases hset
    exact Or.inr ⟨fields, files, rfl, rfl, hlooks, hsave⟩
  | _ => cases hset

/-- A save changes no more than the files. -/
theorem run_save (store : TokenStore) (key : String) (value : Json) (world : World) :
    ∃ files, ((store.save key value).run world).2 = world.withFiles files := by
  rcases save_cases (Prod.eta ((store.save key value).run world)).symm with
    ⟨hsame, -⟩ | ⟨-, files, -, hfiles, -⟩
  · exact ⟨world.files, hsame⟩
  · exact ⟨files, hfiles⟩

/-- The current store is the one of the settings, which are cached from then on. -/
theorem run_current (w : World) :
    current.run w =
      match w.settingsNow with
      | .ok settings => (.ok (ofSettings w.limits settings), w.keeping settings)
      | .error failure => (.error failure, w) := by
  rw [current, Act.run_bind, World.run_currentSettings]
  rcases w.settingsNow with failure | settings
  · rfl
  · rfl

theorem run_current_eq_ok {w : World} : current.run w = (.ok store, v) ↔
    ∃ settings, w.settingsNow = .ok settings ∧ store = ofSettings w.limits settings ∧
      v = w.keeping settings := by
  rw [run_current]
  rcases w.settingsNow with failure | settings
  · simp
  · simp [eq_comm]

/-- Looking up the current store leaves the world as it was, but for the cached settings. -/
theorem alike_current {w v : World} {result : Except Failure TokenStore}
    (h : current.run w = (result, v)) :
    w.Alike v ∧ result = w.settingsNow.map (ofSettings w.limits) := by
  rw [run_current] at h
  rcases hsettings : w.settingsNow with failure | settings
  · rw [hsettings] at h
    cases h
    exact ⟨World.alike_refl w, rfl⟩
  · rw [hsettings] at h
    cases h
    exact ⟨World.alike_keeping hsettings, rfl⟩

/-- A run that begins with the current store is the same in worlds that are alike. -/
theorem run_current_congr {α : Type} {next : TokenStore → Act World α} {w v : World}
    (hnext : ∀ store, (next store).Looks World.outside) (hlike : w.Alike v) :
    ((current >>= next).run v).1 = ((current >>= next).run w).1 := by
  rcases hw : current.run w with ⟨found, w'⟩
  rcases hv : current.run v with ⟨found', v'⟩
  obtain ⟨hw', hfound⟩ := alike_current hw
  obtain ⟨hv', hfound'⟩ := alike_current hv
  obtain rfl : found' = found := by rw [hfound, hfound', hlike.settings, hlike.limits]
  rw [Act.run_bind, Act.run_bind, hw, hv]
  rcases found' with failure | store
  · rfl
  · exact (hnext store).congr (by rw [hv'.outside, hw'.outside, hlike.outside])

/-! ### The lookup of credentials -/

/-- The credentials under a key, if there are any, with what they can be used for. -/
def findCredentials (store : TokenStore) (key : String) : Act World (Option (Credentials × Credentials.Use)) := do
  let value ← store.get key
  if value.truthy then
    let credentials ← .ofProblem (Credentials.read value)
    let world ← .state
    let use ← .ofProblem (credentials.use world.now)
    pure (some (credentials, use))
  else
    pure none

/-- Whether credentials that were found can be used. -/
def isOfUse : Option (Credentials × Credentials.Use) → Bool
  | some (_, use) => use != .useless
  | none => false

theorem looks_findCredentials (store : TokenStore) (key : String) :
    (store.findCredentials key).Looks World.outside := by
  refine (store.looks_get key).bind fun value => ?_
  split
  · refine (Act.looks_ofProblem _ _).bind fun credentials => ?_
    -- of the state, only the clock is looked at
    exact Act.looks_state (fun seen : Files × Moment => do
        let use ← .ofProblem (credentials.use seen.2)
        pure (some (credentials, use)))
      fun seen => (Act.looks_ofProblem _ _).bind fun _ => Act.looks_pure _ _
  · exact Act.looks_pure _ _

theorem isUsable_eq (store : TokenStore) (key : String) :
    store.isUsable key = isOfUse <$> store.findCredentials key := by
  unfold isUsable findCredentials
  rw [map_bind]
  congr 1
  funext value
  split
  · simp only [map_bind, map_pure]
    rfl
  · rw [map_pure]
    rfl

theorem looks_isUsable (store : TokenStore) (key : String) :
    (store.isUsable key).Looks World.outside := by
  rw [isUsable_eq, map_eq_pure_bind]
  exact (store.looks_findCredentials key).bind fun _ => Act.looks_pure _ _

/-- Credentials that are found come from the entry of the key. -/
theorem eq_ok_of_findCredentials {c : Credentials} {use : Credentials.Use}
    (h : (store.findCredentials key).run world = (.ok (some (c, use)), v)) :
    ∃ value, (store.get key).run world = (.ok value, world) ∧
      Credentials.read value = .ok c ∧ c.use world.now = .ok use := by
  obtain ⟨value, t, hget, hfind⟩ := Act.run_bind_eq_ok.mp h
  have ht : t = world := by
    rw [(store.looks_get key).run_eq] at hget
    exact (congrArg Prod.snd hget).symm
  rw [ht] at hget hfind
  refine ⟨value, hget, ?_⟩
  by_cases htruthy : value.truthy = true
  · rw [if_pos htruthy] at hfind
    obtain ⟨credentials, u, hreads, hlook⟩ := Act.run_bind_eq_ok.mp hfind
    obtain ⟨hread, rfl⟩ := Act.run_ofProblem_eq_ok.mp hreads
    rw [Act.run_bind_ok (Act.run_state _)] at hlook
    obtain ⟨now, w, huses, hfound⟩ := Act.run_bind_eq_ok.mp hlook
    obtain ⟨huse, rfl⟩ := Act.run_ofProblem_eq_ok.mp huses
    cases hfound
    exact ⟨hread, huse⟩
  · rw [if_neg htruthy] at hfind
    cases hfind

end TokenStore

namespace Credentials

/-- Credentials have the tokens of the value that they are read from. -/
theorem get?_of_read {value : Json} {c : Credentials} (h : read value = .ok c) :
    (value.get? "token").getD .null = c.token ∧ value.get? "refresh_token" = some c.refreshToken := by
  cases value with
  | obj fields =>
    unfold read at h
    simp only [Json.fieldsFor, bind, Except.bind] at h
    rcases hneeded : needed.filter fun name => !Fields.has name fields with _ | ⟨first, rest⟩
    · have hhas : Fields.has "refresh_token" fields = true := by
        simpa using List.filter_eq_nil_iff.mp hneeded "refresh_token" (by decide)
      obtain ⟨token, htoken⟩ := Option.isSome_iff_exists.mp hhas
      rw [hneeded] at h
      rcases hexpiry : readExpiry ((Fields.get? "expiry" fields).getD .null) with problem | expiry
      · rw [hexpiry] at h
        cases h
      · rw [hexpiry] at h
        cases h
        refine ⟨rfl, ?_⟩
        show Fields.get? "refresh_token" fields = some ((Fields.get? "refresh_token" fields).getD .null)
        rw [htoken, Option.getD_some]
    · rw [hneeded] at h
      cases h
  | _ => cases h

/-- Only an object with members is read as credentials. -/
theorem truthy_of_read {value : Json} {c : Credentials} (h : read value = .ok c) : value.truthy = true := by
  obtain ⟨-, hrefresh⟩ := get?_of_read h
  cases value with
  | obj fields =>
    cases fields with
    | nil => cases hrefresh
    | cons field rest => rfl
  | _ => cases hrefresh

theorem use_eq_good_iff {c : Credentials} {now : Moment} :
    c.use now = .ok .good ↔ c.isExpired now = .ok false ∧ c.token ≠ .null := by
  unfold use
  rcases c.isExpired now with problem | _ | _
  · simp [bind, Except.bind]
  · by_cases htoken : c.token = .null <;> simp [bind, Except.bind, pure, Except.pure, htoken]
  · by_cases hrefresh : c.refreshToken.truthy = true <;>
      simp [bind, Except.bind, pure, Except.pure, hrefresh]

theorem use_eq_refreshable_iff {c : Credentials} {now : Moment} :
    c.use now = .ok .refreshable ↔ c.isExpired now = .ok true ∧ c.refreshToken.truthy = true := by
  unfold use
  rcases c.isExpired now with problem | _ | _
  · simp [bind, Except.bind]
  · by_cases htoken : c.token = .null <;> simp [bind, Except.bind, pure, Except.pure, htoken]
  · by_cases hrefresh : c.refreshToken.truthy = true <;>
      simp [bind, Except.bind, pure, Except.pure, hrefresh]

end Credentials

namespace Account

variable {account : String} {w v : World} {calls : List Call} {result : Except Failure Credentials}

/-! ### The entry of an account -/

/-- The entry of an account. -/
def stored (account : String) : Act World Json := do
  let store ← TokenStore.current
  store.get (key account)

/-- Whether an account is signed in. -/
def isSignedIn (account : String) : Act World Bool := do
  let session ← AccountSession.start account
  session.isSignedIn

theorem stored_congr (hlike : w.Alike v) :
    ((stored account).run v).1 = ((stored account).run w).1 :=
  TokenStore.run_current_congr (fun store => store.looks_get (key account)) hlike

theorem isSignedIn_eq (account : String) :
    isSignedIn account = TokenStore.current >>= fun store => store.isUsable (key account) := by
  unfold isSignedIn AccountSession.start
  rw [bind_assoc]
  rfl

theorem isSignedIn_congr (hlike : w.Alike v) :
    ((isSignedIn account).run v).1 = ((isSignedIn account).run w).1 := by
  rw [isSignedIn_eq]
  exact TokenStore.run_current_congr (fun store => store.looks_isUsable (key account)) hlike

/-! ### Ways to get credentials -/

/-- The credentials of an account are those that are found, or refreshed ones. -/
theorem credentials_eq (account : String) :
    credentials account = (do
      let store ← TokenStore.current
      let found ← store.findCredentials (key account)
      match found with
      | some (c, .good) => pure c
      | some (c, .refreshable) =>
        let grant ← World.refreshToken c.refreshToken
        store.save (key account) (c.refreshed grant).document
        pure (c.refreshed grant)
      | _ => .fail (notSignedIn account)) := by
  unfold credentials TokenStore.findCredentials
  congr 1
  funext store
  rw [bind_assoc]
  congr 1
  funext value
  split
  · simp only [bind_assoc, pure_bind]
    congr 1
    funext c
    congr 1
    funext world
    congr 1
    funext use
    cases use with
    | good => rfl
    | refreshable => rfl
    | useless => rfl
  · rw [pure_bind]

/-- The ways to get the credentials of an account from a world: the calls, the result and the world afterwards. -/
inductive Obtaining (account : String) (w : World) :
    List Call → Except Failure Credentials → World → Prop
  /-- The settings cannot be read. -/
  | unsettled {failure : Failure} {v : World}
      (settles : TokenStore.current.run w = (.error failure, v)) :
      Obtaining account w [] (.error failure) v
  /-- The entry cannot be read. -/
  | unsure {store : TokenStore} {failure : Failure} {v : World}
      (settles : TokenStore.current.run w = (.ok store, v))
      (finds : (store.findCredentials (key account)).run v = (.error failure, v)) :
      Obtaining account w [] (.error failure) v
  /-- There are no usable credentials. -/
  | signedOut {store : TokenStore} {found : Option (Credentials × Credentials.Use)} {v : World}
      (settles : TokenStore.current.run w = (.ok store, v))
      (finds : (store.findCredentials (key account)).run v = (.ok found, v))
      (useless : TokenStore.isOfUse found = false) :
      Obtaining account w [] (.error (notSignedIn account)) v
  | good {store : TokenStore} {c : Credentials} {v : World}
      (settles : TokenStore.current.run w = (.ok store, v))
      (finds : (store.findCredentials (key account)).run v = (.ok (some (c, .good)), v)) :
      Obtaining account w [] (.ok c) v
  /-- The refresh is refused. -/
  | refused {store : TokenStore} {c : Credentials} {failure : Failure} {v x : World}
      (settles : TokenStore.current.run w = (.ok store, v))
      (finds : (store.findCredentials (key account)).run v = (.ok (some (c, .refreshable)), v))
      (renews : (World.refreshToken c.refreshToken).run v = (.error failure, x)) :
      Obtaining account w [.refreshToken c.refreshToken] (.error failure) x
  /-- The refreshed credentials cannot be saved. -/
  | unsaved {store : TokenStore} {c : Credentials} {grant : Grant} {failure : Failure} {v x y : World}
      (settles : TokenStore.current.run w = (.ok store, v))
      (finds : (store.findCredentials (key account)).run v = (.ok (some (c, .refreshable)), v))
      (renews : (World.refreshToken c.refreshToken).run v = (.ok grant, x))
      (saves : (store.save (key account) (c.refreshed grant).document).run x = (.error failure, y)) :
      Obtaining account w [.refreshToken c.refreshToken] (.error failure) y
  | renewed {store : TokenStore} {c : Credentials} {grant : Grant} {v x y : World}
      (settles : TokenStore.current.run w = (.ok store, v))
      (finds : (store.findCredentials (key account)).run v = (.ok (some (c, .refreshable)), v))
      (renews : (World.refreshToken c.refreshToken).run v = (.ok grant, x))
      (saves : (store.save (key account) (c.refreshed grant).document).run x = (.ok (), y)) :
      Obtaining account w [.refreshToken c.refreshToken] (.ok (c.refreshed grant)) y

/-- **Credentials are obtained in one of the ways.** -/
theorem obtaining_credentials (account : String) (w : World) :
    ∃ calls, Obtaining account w calls ((credentials account).run w).1
      ((credentials account).run w).2 := by
  rw [credentials_eq]
  rcases hsettles : TokenStore.current.run w with ⟨failure | store, v⟩
  · rw [Act.run_bind_error hsettles]
    exact ⟨_, .unsettled hsettles⟩
  rw [Act.run_bind_ok hsettles]
  have hlooks := (store.looks_findCredentials (key account)).run_eq v
  rcases hfound : ((store.findCredentials (key account)).run v).1 with failure | found
  · rw [hfound] at hlooks
    rw [Act.run_bind_error hlooks]
    exact ⟨_, .unsure hsettles hlooks⟩
  rw [hfound] at hlooks
  rw [Act.run_bind_ok hlooks]
  rcases found with _ | ⟨c, use⟩
  · exact ⟨_, .signedOut hsettles hlooks rfl⟩
  cases use with
  | good => exact ⟨_, .good hsettles hlooks⟩
  | useless => exact ⟨_, .signedOut hsettles hlooks rfl⟩
  | refreshable =>
    simp only
    rcases hrenews : (World.refreshToken c.refreshToken).run v with ⟨failure | grant, x⟩
    · rw [Act.run_bind_error hrenews]
      exact ⟨_, .refused hsettles hlooks hrenews⟩
    rw [Act.run_bind_ok hrenews]
    rcases hsaves : (store.save (key account) (c.refreshed grant).document).run x with
      ⟨failure | ⟨⟩, y⟩
    · rw [Act.run_bind_error hsaves]
      exact ⟨_, .unsaved hsettles hlooks hrenews hsaves⟩
    · rw [Act.run_bind_ok hsaves]
      exact ⟨_, .renewed hsettles hlooks hrenews hsaves⟩

/-- The world came from the other one by these calls, none of which was to the Forms API. -/
structure Aside (calls : List Call) (w v : World) : Prop where
  calls : v.calls = w.calls ++ calls
  createForm : v.answers.createForm = w.answers.createForm
  fillForm : v.answers.fillForm = w.answers.fillForm

theorem aside_of_alike (h : w.Alike v) : Aside [] w v where
  calls := by rw [h.calls, List.append_nil]
  createForm := by rw [h.answers]
  fillForm := by rw [h.answers]

theorem aside_refreshToken {token : Json} {granted : Except Failure Grant} {u : World}
    (h : w.Alike v) (hrun : (World.refreshToken token).run v = (granted, u)) :
    Aside [.refreshToken token] w u := by
  rw [World.refreshToken, World.run_request] at hrun
  cases hrun
  exact ⟨congrArg (· ++ _) h.calls, by rw [← h.answers]; rfl, by rw [← h.answers]; rfl⟩

theorem Aside.save {store : TokenStore} {key : String} {value : Json} {saved : Except Failure Unit}
    {u : World} (h : Aside calls w v) (hrun : (store.save key value).run v = (saved, u)) :
    Aside calls w u := by
  obtain ⟨files, hfiles⟩ := store.run_save key value v
  rw [hrun] at hfiles
  obtain rfl : u = v.withFiles files := hfiles
  exact ⟨h.calls, h.createForm, h.fillForm⟩

/-- Getting credentials makes no call to the Forms API, and no calls but those listed. -/
theorem Obtaining.aside (h : Obtaining account w calls result v) : Aside calls w v := by
  cases h with
  | unsettled settles => exact aside_of_alike (TokenStore.alike_current settles).1
  | unsure settles finds => exact aside_of_alike (TokenStore.alike_current settles).1
  | signedOut settles finds useless => exact aside_of_alike (TokenStore.alike_current settles).1
  | good settles finds => exact aside_of_alike (TokenStore.alike_current settles).1
  | refused settles finds renews =>
    exact aside_refreshToken (TokenStore.alike_current settles).1 renews
  | unsaved settles finds renews saves =>
    exact (aside_refreshToken (TokenStore.alike_current settles).1 renews).save saves
  | renewed settles finds renews saves =>
    exact (aside_refreshToken (TokenStore.alike_current settles).1 renews).save saves

theorem Obtaining.few (h : Obtaining account w calls result v) :
    calls = [] ∨ ∃ old, calls = [.refreshToken old] := by
  cases h with
  | unsettled settles => exact Or.inl rfl
  | unsure settles finds => exact Or.inl rfl
  | signedOut settles finds useless => exact Or.inl rfl
  | good settles finds => exact Or.inl rfl
  | refused settles finds renews => exact Or.inr ⟨_, rfl⟩
  | unsaved settles finds renews saves => exact Or.inr ⟨_, rfl⟩
  | renewed settles finds renews saves => exact Or.inr ⟨_, rfl⟩

/-! ### Tokens -/

/-- A token that may be used for an account, with the calls that it takes: the stored token, which takes none, or
a refreshed one. -/
inductive Authorized (account : String) (w : World) : List Call → Json → Prop
  | stored {value token : Json} (stores : ((stored account).run w).1 = .ok value)
      (holds : value.get? "token" = some token) : Authorized account w [] token
  | renewed {value old : Json} {grant : Grant} (stores : ((stored account).run w).1 = .ok value)
      (holds : value.get? "refresh_token" = some old)
      (grants : w.answers.refreshToken.take.1 = .ok grant) :
      Authorized account w [.refreshToken old] grant.token

theorem Authorized.congr {token : Json} (h : Authorized account v calls token) (hlike : w.Alike v) :
    Authorized account w calls token := by
  cases h with
  | stored stores holds => exact .stored (stored_congr hlike ▸ stores) holds
  | renewed stores holds grants =>
    exact .renewed (stored_congr hlike ▸ stores) holds (hlike.answers ▸ grants)

/-- **The token of obtained credentials is one that may be used.** -/
theorem Obtaining.authorized {c : Credentials} (h : Obtaining account w calls (.ok c) v) :
    Authorized account w calls c.token := by
  cases h with
  | good settles finds =>
    obtain ⟨value, hget, hread, huse⟩ := TokenStore.eq_ok_of_findCredentials finds
    obtain ⟨htoken, -⟩ := Credentials.get?_of_read hread
    have hstored : (stored account).run w = (.ok value, v) :=
      (Act.run_bind_ok settles).trans hget
    refine .stored (congrArg Prod.fst hstored) ?_
    cases hmember : value.get? "token" with
    | none =>
      rw [hmember] at htoken
      exact absurd htoken.symm (Credentials.use_eq_good_iff.mp huse).2
    | some token =>
      rw [hmember] at htoken
      exact congrArg some htoken
  | @renewed store old grant v' x _ settles finds renews saves =>
    obtain ⟨value, hget, hread, -⟩ := TokenStore.eq_ok_of_findCredentials finds
    obtain ⟨-, holds⟩ := Credentials.get?_of_read hread
    have hstored : (stored account).run w = (.ok value, v') :=
      (Act.run_bind_ok settles).trans hget
    have hgrant : v'.answers.refreshToken.take.1 = .ok grant := by
      rw [World.refreshToken, World.run_request] at renews
      exact Act.mapError_eq_ok.mp (congrArg Prod.fst renews)
    refine .renewed (congrArg Prod.fst hstored) holds ?_
    rw [← (TokenStore.alike_current settles).1.answers]
    exact hgrant

end Account
end Formwork
