import Formwork.Logging.Config
import Formwork.World.Basic
/-!
# Starting the server

`run` reads the settings, sets up logging, and starts the web server.  A log level of no known name keeps the server
from starting.
-/
namespace Formwork

/-- The arguments of the web server. -/
structure Launch where
  /-- The application. -/
  app : String := "formforge.main:app"
  /-- The host. -/
  host : String
  /-- The port. -/
  portNumber : Int
  /-- The log level of the web server. -/
  logLevel : String
deriving DecidableEq, Inhabited

namespace Launch

/-- The arguments that some settings give. -/
def ofSettings (settings : Settings) : Launch where
  host := settings.host
  portNumber := settings.portNumber
  logLevel := Text.lowerCase settings.logLevel

/-- The arguments of the web server, and the loggers once logging is set up. -/
def prepare (loggers : List LoggerState) : Act World (Launch × List LoggerState) := do
  let settings ← World.currentSettings
  let loggers ← .ofProblem (LoggingConfig.configure (.str settings.logLevel) loggers)
  return (ofSettings settings, loggers)

/-- The arguments as JSON. -/
def document (launch : Launch) : Json :=
  .obj [
    ("app", .str launch.app),
    ("host", .str launch.host),
    ("port", .int launch.portNumber),
    ("log_level", .str launch.logLevel)]

end Launch
end Formwork
