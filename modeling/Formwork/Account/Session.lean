import Formwork.Account.Credentials
import Formwork.Account.Store
/-!
# Account sessions

An account is signed in if its stored credentials are valid, or expired with a refresh token (`has_valid_token`).
Loading the credentials of an account refreshes expired ones and saves them (`get_forms_credentials`).
-/
namespace Formwork

namespace TokenStore

/-- Whether the credentials under a key can be used (`has_valid_token`). -/
def isUsable (store : TokenStore) (key : String) : Act World Bool := do
  let value ← store.get key
  if value.truthy then
    let credentials ← .ofProblem (Credentials.read value)
    let world ← .state
    let use ← .ofProblem (credentials.use world.now)
    pure (use != .useless)
  else
    pure false

end TokenStore

namespace Account

/-- The `AuthenticationError` of an account without usable credentials. -/
def notSignedIn (account : String) : Problem :=
  .authentication (s!"Google Forms not authenticated{label account}. "
    ++ s!"Visit {setupPath account} to connect.")

/-- The credentials of an account, refreshed and saved if they have expired (`get_forms_credentials`). -/
def credentials (account : String) : Act World Credentials := do
  let store ← TokenStore.current
  let value ← store.get (key account)
  if value.truthy then
    let credentials ← .ofProblem (Credentials.read value)
    let world ← .state
    match ← .ofProblem (credentials.use world.now) with
    | .good => pure credentials
    | .refreshable =>
      let grant ← World.refreshToken credentials.refreshToken
      let credentials := credentials.refreshed grant
      store.save (key account) credentials.document
      pure credentials
    | .useless => .fail (notSignedIn account)
  else
    .fail (notSignedIn account)

/-- The access token of an account (`get_token`). -/
def token (account : String) : Act World Json := do
  let credentials ← credentials account
  return credentials.token

end Account

/-- An account with the store that it is looked up in (`GoogleAuthSession`). -/
structure AccountSession where
  /-- The account. -/
  account : String
  /-- The store. -/
  store : TokenStore
deriving DecidableEq, Inhabited

namespace AccountSession

/-- The session of an account, with the store of the current settings. -/
def start (account : String) : Act World AccountSession := do
  let store ← TokenStore.current
  return ⟨account, store⟩

/-- Whether the account is signed in (`is_signed_in`). -/
def isSignedIn (session : AccountSession) : Act World Bool :=
  session.store.isUsable (Account.key session.account)

end AccountSession
end Formwork
