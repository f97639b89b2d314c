/-!
# Account keys

The credentials of an account are stored under a key: `forms` for the account `default`, and `forms:name` for any
other name (`_token_key`).  Different accounts have different keys, and `Account.ofKey?` is the inverse.
-/
namespace Formwork
namespace Account

/-- The account that is meant when none is given. -/
def default : String := "default"

/-- The name of the integration. -/
def service : String := "forms"

/-- The prefix of the keys of named accounts. -/
def keyStart : String := "forms:"

/-- The key of an account (`_token_key`). -/
def key (account : String) : String := if account = default then service else keyStart ++ account

/-- The account of a key, if it is the key of one. -/
def ofKey? (word : String) : Option String :=
  if word = service then some default
  else if keyStart.toList.isPrefixOf word.toList then
    some (String.ofList (word.toList.drop keyStart.length))
  else
    none

/-- The account in brackets, for messages; empty for the default account. -/
def label (account : String) : String := if account = default then "" else s!" (account={account})"

/-- The path and query of the sign-in page of an account. -/
def setupPath (account : String) : String := s!"/auth/forms/setup?account={account}"

end Account
end Formwork
