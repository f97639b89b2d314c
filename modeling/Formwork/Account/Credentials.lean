import Formwork.Calendar
import Formwork.Failure
/-!
# OAuth credentials

The credentials that are stored for an account: the access token, its expiry, and what a refresh needs.  A token
counts as expired some minutes before its expiry, so that it does not expire in flight; stored credentials without
an expiry count as expired.
-/
namespace Formwork

/-- The answer to a refresh. -/
structure Grant where
  /-- The new access token. -/
  token : Json
  /-- The expiry of the token. -/
  expiry : Moment
deriving DecidableEq, Inhabited

/-- OAuth credentials of a user. -/
structure Credentials where
  /-- The access token, `null` if there is none. -/
  token : Json
  /-- The refresh token. -/
  refreshToken : Json
  /-- The endpoint of refreshes. -/
  tokenUri : Json
  /-- The client id of the application. -/
  clientId : Json
  /-- The client secret of the application. -/
  clientSecret : Json
  /-- The reauthentication proof token. -/
  raptToken : Json := .null
  /-- The universe domain. -/
  universeDomain : Json := .str "googleapis.com"
  /-- The account identifier at the provider. -/
  account : Json := .str ""
  /-- The expiry of the access token, if it is known. -/
  expiry : Option Moment
deriving DecidableEq, Inhabited

namespace Credentials

/-- The scopes of the credentials. -/
def scopes : List String := ["https://www.googleapis.com/auth/forms.body"]

/-- The endpoint of refreshes of stored credentials. -/
def tokenEndpoint : String := "https://oauth2.googleapis.com/token"

/-- The members that stored credentials must have, in the order in which error messages list them. -/
def needed : List String := ["client_id", "client_secret", "refresh_token"]

/-- The format of a stored expiry. -/
def timeFormat : String := "%Y-%m-%dT%H:%M:%S"

/-- The error for an expiry that cannot be parsed. -/
def timeProblem (text : String) : Moment.Fault → Problem
  | .form =>
    .badValue s!"time data {Text.display text} does not match format {Text.display timeFormat}"
  | .leftOver rest => .badValue s!"unconverted data remains: {rest}"
  | .yearZero => .badValue "year 0 is out of range"
  | .noSuchDay => .badValue "day is out of range for month"
  | .leapSecond => .badValue "second must be in 0..59"

/-- An expiry without its trailing `Z` and its fraction. -/
def bareTime (text : String) : String :=
  String.ofList ((text.toList.reverse.dropWhile (· = 'Z')).reverse.takeWhile (· ≠ '.'))

/-- The expiry in a stored value; an empty one is none. -/
def readExpiry (value : Json) : Except Problem (Option Moment) :=
  if value.truthy then
    match value with
    | .str text => ((Moment.read (bareTime text)).map some).mapError (timeProblem (bareTime text))
    | other => .error (.noAttribute other.typeName "rstrip")
  else
    .ok none

/-- A truthy value, or else another one. -/
def orElse (value other : Json) : Json := if value.truthy then value else other

/-- The credentials in a stored value (`from_authorized_user_info`). -/
def read (value : Json) : Except Problem Credentials := do
  let fields ← value.fieldsFor "keys"
  match needed.filter fun name => !fields.has name with
  | [] =>
    let member := fun name => (fields.get? name).getD .null
    let expiry ← readExpiry (member "expiry")
    return {
      token := member "token"
      refreshToken := member "refresh_token"
      tokenUri := .str tokenEndpoint
      clientId := member "client_id"
      clientSecret := member "client_secret"
      raptToken := member "rapt_token"
      universeDomain := orElse (member "universe_domain") (.str "googleapis.com")
      account := orElse (member "account") (.str "")
      expiry }
  | missing =>
    throw (.badValue ("Authorized user info was not in the expected format, missing fields "
      ++ String.intercalate ", " missing ++ "."))

/-- How long before its expiry a token counts as expired, in microseconds. -/
def margin : Nat := 225 * Moment.second

/-- Whether the access token has expired. -/
def isExpired (now : Moment) (credentials : Credentials) : Except Problem Bool :=
  match credentials.expiry with
  | none => .ok true
  | some expiry =>
    if expiry.micros < margin then .error .outsideCalendar
    else .ok (expiry.micros - margin ≤ now.micros)

/-- What credentials can be used for. -/
inductive Use
  /-- The access token is valid. -/
  | good
  /-- The access token has expired, and there is a refresh token. -/
  | refreshable
  /-- Neither. -/
  | useless
deriving DecidableEq, Inhabited

/-- What the credentials can be used for now. -/
def use (now : Moment) (credentials : Credentials) : Except Problem Use := do
  let expired ← credentials.isExpired now
  return if credentials.token != .null && !expired then .good
    else if expired && credentials.refreshToken.truthy then .refreshable
    else .useless

/-- The credentials with a new access token. -/
def refreshed (grant : Grant) (credentials : Credentials) : Credentials :=
  { credentials with token := grant.token, expiry := some grant.expiry }

/-- The credentials as they are stored (`to_json`), without members that are `null`. -/
def document (credentials : Credentials) : Json :=
  .obj ([
    ("token", credentials.token),
    ("refresh_token", credentials.refreshToken),
    ("token_uri", credentials.tokenUri),
    ("client_id", credentials.clientId),
    ("client_secret", credentials.clientSecret),
    ("scopes", .texts scopes),
    ("rapt_token", credentials.raptToken),
    ("universe_domain", credentials.universeDomain),
    ("account", credentials.account),
    ("expiry", .ofText? (credentials.expiry.map fun expiry => expiry.text ++ "Z"))].filter
      fun member => member.2 != .null)

end Credentials
end Formwork
