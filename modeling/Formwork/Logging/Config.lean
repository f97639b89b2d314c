import Formwork.Failure
import Formwork.Logging.Basic
/-!
# Logging configuration

`configure_logging` installs one console handler on the root logger, which the loggers of the web server share.  It
does nothing if the root logger already has a handler.  A level of no known name leaves the loggers as they are.
-/
namespace Formwork
namespace LoggingConfig

/-- The format of a line. -/
def lineFormat : String := "%(asctime)s %(levelname)s:%(name)s:%(message)s"

/-- The loggers of the web server. -/
def serverLoggers : List String := ["uvicorn", "uvicorn.error", "uvicorn.access"]

/-- The configuration for a level, as JSON (`_dict_config`). -/
def document (level : Json) : Json :=
  .obj [
    ("version", .int 1),
    ("disable_existing_loggers", .bool false),
    ("formatters", .obj [("default", .obj [("format", .str lineFormat)])]),
    ("handlers", .obj [("console", .obj [
      ("class", .str "logging.StreamHandler"),
      ("level", level),
      ("formatter", .str "default"),
      ("stream", .str "ext://sys.stdout")])]),
    ("root", .obj [("level", level), ("handlers", .texts ["console"])]),
    ("loggers", .obj (serverLoggers.map fun name =>
      (name, .obj [
        ("level", level),
        ("handlers", .texts ["console"]),
        ("propagate", .bool false)])))]

end LoggingConfig

/-- The state of a logger. -/
structure LoggerState where
  /-- The name; the root logger has none. -/
  name : String
  /-- The level of the logger. -/
  level : LogLevel
  /-- Whether records propagate to the root logger. -/
  propagate : Bool
  /-- The levels of the handlers. -/
  handlers : List LogLevel
deriving DecidableEq, Inhabited

namespace LoggingConfig

/-- The loggers before any configuration. -/
def initial : List LoggerState :=
  ⟨"", .warning, true, []⟩ :: serverLoggers.map fun name => ⟨name, .notSet, true, []⟩

/-- The loggers after a configuration with this level. -/
def installed (level : LogLevel) : List LoggerState :=
  ⟨"", level, true, [level]⟩ :: serverLoggers.map fun name => ⟨name, level, false, [level]⟩

/-- Whether the root logger has a handler. -/
def isInstalled (loggers : List LoggerState) : Bool :=
  loggers.any fun logger => logger.name = "" && !logger.handlers.isEmpty

/-- A configuration with the level of this name, unless there has been one (`configure_logging`). -/
def configure (level : Json) (loggers : List LoggerState) : Except Problem (List LoggerState) :=
  if isInstalled loggers then .ok loggers
  else
    match level with
    | .str word =>
      match LogLevel.ofWord? word with
      | some level => .ok (installed level)
      | none => .error (.badValue "Unable to configure handler 'console'")
    | other => .error (.noAttribute other.typeName "upper")

/-- One configuration after the other. -/
def configureAll : List Json → List LoggerState → Except Problem (List LoggerState)
  | [], loggers => .ok loggers
  | level :: rest, loggers => configure level loggers >>= configureAll rest

end LoggingConfig
end Formwork
