import Formwork.Files.Basic
import Formwork.Schema.Scalar
import Formwork.Settings.EnvFile
import Formwork.Text.LowerCase
/-!
# Settings

`Settings` are read from environment variables, and behind them from the file of variables.  The names of variables
are compared without regard to case.  The environment may have other variables; in the file they are an error.
-/
namespace Formwork

/-- The settings. -/
structure Settings where
  /-- The host of the server. -/
  host : String := "127.0.0.1"
  /-- The port of the server. -/
  portNumber : Int := 9000
  /-- The file of the token store. -/
  tokenFile : String := "tokens.json"
  /-- The client secret file. -/
  clientSecretFile : String := "client_secret.json"
  /-- The log level. -/
  logLevel : String := "INFO"
  /-- The API key of the model. -/
  geminiApiKey : String := ""
  /-- The name of the model. -/
  geminiModel : String := "gemini-2.5-flash"
  /-- The default locale. -/
  defaultLocale : String := "en"
deriving DecidableEq, Inhabited

namespace Settings

open FieldName (only)

/-- The names of the settings. -/
def names : List String :=
  ["host", "port", "token_file", "client_secret_file", "log_level", "gemini_api_key",
    "gemini_model", "default_locale"]

/-- A file name. -/
def fileName (given : Json) : Reading String := FileName.normal <$> Reading.text given

/-- The settings in the members of an object. -/
def ofFields (fields : Fields) : Reading Settings :=
  Settings.mk
    <$> (only "host").withDefault "127.0.0.1" .text fields
    <*> (only "port").withDefault 9000 .integer fields
    <*> (only "token_file").withDefault "tokens.json" fileName fields
    <*> (only "client_secret_file").withDefault "client_secret.json" fileName fields
    <*> (only "log_level").withDefault "INFO" .text fields
    <*> (only "gemini_api_key").withDefault "" .text fields
    <*> (only "gemini_model").withDefault "gemini-2.5-flash" .text fields
    <*> (only "default_locale").withDefault "en" .text fields

/-- Variables under their names in lower case; the last of several with one name counts. -/
def lowered (entries : Fields) : Fields :=
  entries.foldl (fun lower entry => lower.set (Text.lowerCase entry.1) entry.2) []

/-- The settings among some variables. -/
def among (entries : Fields) : Fields :=
  entries.filter fun entry => names.contains entry.1 && entry.2 != .null

/-- The variables that are no settings and have a value that is not empty. -/
def unknown (entries : Fields) : Fields :=
  entries.filter fun entry => !names.contains entry.1 && entry.2.truthy

/-- The settings that an environment and the text of a file of variables give.  The environment takes precedence. -/
def load (environment : Environment) (file : Option String) : Reading Settings :=
  let own := lowered (environment.map fun (word, given) => (word, .str given))
  let filed := lowered (EnvFile.read environment (file.getD ""))
  let extra := unknown filed
  match ofFields (among own ++ among filed),
      extra.map fun entry => Issue.mk [.key entry.1] .unexpected entry.2 with
  | .done settings, [] => .done settings
  | .done _, issues => .failed issues
  | .failed issues, more => .failed (issues ++ more)

/-- The settings as JSON. -/
def document (settings : Settings) : Json :=
  .obj [
    ("host", .str settings.host),
    ("port", .int settings.portNumber),
    ("token_file", .str settings.tokenFile),
    ("client_secret_file", .str settings.clientSecretFile),
    ("log_level", .str settings.logLevel),
    ("gemini_api_key", .str settings.geminiApiKey),
    ("gemini_model", .str settings.geminiModel),
    ("default_locale", .str settings.defaultLocale)]

end Settings
end Formwork
