import Formwork.Account.Session
import Formwork.Address
/-!
# The OAuth flow

`GET /auth/forms/setup` redirects a user to the consent page, with the account in the `state` parameter.
`GET /auth/forms/callback` is given a code and the same `state`, exchanges the code for credentials, and saves them
under the key of the account.

The application is described by the client secret file, as a web application or else as an installed one.
-/
namespace Formwork

/-- The description of the application in the client secret file. -/
structure ClientSecret where
  /-- The address of the consent page. -/
  authUri : Json
  /-- The endpoint at which codes are exchanged. -/
  tokenUri : Json
  /-- The client id. -/
  clientId : Json
  /-- The client secret, `null` if there is none. -/
  clientSecret : Json
deriving DecidableEq, Inhabited

namespace ClientSecret

/-- The sorts of application, of which the first one present counts. -/
def sorts : List String := ["web", "installed"]

/-- The members that a description must have. -/
def needed : List String := ["auth_uri", "token_uri", "client_id"]

/-- The description in the value of a file. -/
def read (value : Json) : Except Problem ClientSecret := do
  let some description := sorts.findSome? fun sort => value.get? sort
    | throw (.badValue "Client secrets must be for a web or installed app.")
  let fields ← description.fieldsFor "keys"
  if needed.all fun name => fields.has name then
    let member := fun name => (fields.get? name).getD .null
    return ⟨member "auth_uri", member "token_uri", member "client_id", member "client_secret"⟩
  else
    throw (.badValue "Client secrets is not in the correct format.")

end ClientSecret

/-- An address with query parameters. -/
structure Link where
  /-- The address. -/
  base : String
  /-- The parameters. -/
  query : List (String × String)
deriving DecidableEq, Inhabited

namespace SignIn

/-- The address of the callback (`_redirect_uri`). -/
def redirectUri (settings : Settings) : String :=
  s!"http://localhost:{settings.portNumber}/auth/{Account.service}/callback"

/-- The `state` for an account. -/
def state (account : String) : String := s!"{Account.service}:{account}"

/-- The account of a `state`: everything behind the first colon, and the default account if there is no colon. -/
def accountOf (state : String) : String :=
  match state.toList.dropWhile (· ≠ ':') with
  | _ :: account => String.ofList account
  | [] => Account.default

/-- The description of the application, read from its file (`_create_flow`). -/
def clientSecret : Act World ClientSecret := do
  let settings ← World.currentSettings
  let there ← World.isThere settings.clientSecretFile
  if there then
    let text ← World.fileText settings.clientSecretFile
    let world ← .state
    let value ← .ofProblem ((Json.parseWithin world.limits text).mapError .malformedJson)
    .ofProblem (ClientSecret.read value)
  else
    .fail (Problem.missingFile
      (s!"OAuth client secret file not found at {settings.clientSecretFile}. "
        ++ "Download it from Google Cloud Console."))

/-- The environment variable that allows addresses without TLS, whatever its value, if it has one. -/
def insecureVariable : String := "OAUTHLIB_INSECURE_TRANSPORT"

/-- Whether users may be redirected to an address: it uses TLS, or the environment allows others. -/
def isAllowed (environment : Environment) (address : String) : Bool :=
  (Text.nonempty? (environment.lookup insecureVariable)).isSome
    || "https://".toList.isPrefixOf (address.toList.map Char.toLower)

/-- The query parameters of the consent page. -/
def parameters (secret : ClientSecret) (settings : Settings) (account : String) :
    List (String × String) :=
  [("response_type", "code"),
    ("client_id", secret.clientId.bare),
    ("redirect_uri", redirectUri settings),
    ("scope", " ".intercalate Credentials.scopes),
    ("state", state account),
    ("code_challenge_method", "S256"),
    ("access_type", "offline"),
    ("include_granted_scopes", "true"),
    ("prompt", "consent")]

/-- The consent page for an account (`auth_setup`).  The parameters that its address already has come first. -/
def page (account : String) : Act World Link := do
  let secret ← clientSecret
  let settings ← World.currentSettings
  let world ← .state
  match secret.authUri with
  | .str text =>
    if isAllowed world.environment text then
      match Address.read? text with
      | some address => pure ⟨address.page, address.query ++ parameters secret settings account⟩
      | none => .fail (Problem.badValue "the host of the address is malformed")
    else
      .fail (Problem.badValue "(insecure_transport) OAuth 2 MUST utilize https.")
  | other => .fail (Problem.noAttribute other.typeName "lower")

/-- The microseconds in a number of seconds.  The fraction is multiplied in binary64 and then rounded half to
even. -/
def micros (seconds : Magnitude) : Nat :=
  let one := Magnitude.unitsPerOne
  let fraction := (Magnitude.nearest? (seconds.units % one * Moment.second) one).getD .zero
  seconds.units / one * Moment.second + Magnitude.roundedQuotient fraction.units one

/-- The moment of a number of seconds since the epoch. -/
def moment? : Json → Option Moment
  | .int seconds => Moment.ofMicros? (seconds * Moment.second)
  | .bool value => Moment.ofMicros? (if value then Moment.second else 0)
  | .float (.finite negative seconds) =>
    Moment.ofMicros? (if negative then -(micros seconds : Int) else micros seconds)
  | _ => none

/-- The credentials in the answer to a code. -/
def credentials (secret : ClientSecret) (answer : Json) : Except Problem Credentials := do
  let fields ← answer.fieldsFor "get"
  let some token := fields.get? "access_token" | throw (.missingKey (.str "access_token"))
  let some seconds := fields.get? "expires_at" | throw (.missingKey (.str "expires_at"))
  let some expiry := moment? seconds | throw (.badValue "expires_at is no moment")
  return {
    token
    refreshToken := (fields.get? "refresh_token").getD .null
    tokenUri := secret.tokenUri
    clientId := secret.clientId
    clientSecret := secret.clientSecret
    expiry := some expiry }

/-- Exchanges a code, saves the credentials, and gives the account of the `state` (`auth_callback`). -/
def finish (code : String) (state : String) : Act World String := do
  let account := accountOf state
  let secret ← clientSecret
  let answer ← World.exchangeCode code
  let credentials ← .ofProblem (credentials secret answer)
  let store ← TokenStore.current
  store.save (Account.key account) credentials.document
  pure account

end SignIn
end Formwork
