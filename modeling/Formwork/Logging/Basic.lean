/-!
# Log records

A log record has a level, a logger and a message.
-/
namespace Formwork

/-- The log levels. -/
inductive LogLevel
  | notSet
  | debug
  | info
  | warning
  | error
  | critical
deriving DecidableEq, Inhabited

namespace LogLevel

/-- The name of a level. -/
def name : LogLevel → String
  | notSet => "NOTSET"
  | debug => "DEBUG"
  | info => "INFO"
  | warning => "WARNING"
  | error => "ERROR"
  | critical => "CRITICAL"

/-- The level with a name; two levels have an alias. -/
def ofName? : String → Option LogLevel
  | "NOTSET" => some notSet
  | "DEBUG" => some debug
  | "INFO" => some info
  | "WARN" | "WARNING" => some warning
  | "ERROR" => some error
  | "FATAL" | "CRITICAL" => some critical
  | _ => none

/-- The upper case of a character, as far as the name of a level can have it: besides the ASCII letters two
characters have an upper case among them. -/
def capital (c : Char) : Char :=
  if c = 'ı' then 'I' else if c = 'ſ' then 'S' else c.toUpper

/-- The level with a name in any case. -/
def ofWord? (word : String) : Option LogLevel :=
  ofName? (String.ofList (word.toList.map capital))

end LogLevel

/-- A log record. -/
structure LogRecord where
  /-- The level. -/
  level : LogLevel
  /-- The name of the logger. -/
  logger : String
  /-- The message. -/
  message : String
deriving DecidableEq, Inhabited

namespace LogRecord

/-- The logger of validation. -/
def validation : String := "formforge.services.form_validation"

/-- The logger of remote forms. -/
def forms : String := "formforge.services.forms"

/-- The logger of generation. -/
def generation : String := "formforge.services.gemini"

end LogRecord
end Formwork
