import Formwork.Service.Launch
/-!
# The program

The program reads the settings and prints the arguments of the web server as one line of JSON.  If the settings
cannot be read or logging cannot be set up, it ends with a message and status 1.
-/
namespace Formwork
namespace Program

/-- The environment variables of the settings. -/
def environment : IO Environment := do
  let names := Settings.names ++ Settings.names.map String.toUpper
  let entries ← names.mapM fun name => do
    let value ← IO.getEnv name
    return value.map (name, ·)
  return entries.filterMap id

/-- The file of variables, if it exists. -/
def files : IO Files := do
  try
    let text ← IO.FS.readFile World.envFile
    return [(World.envFile, text)]
  catch _ =>
    return []

/-- The line with the arguments of the web server, or the error message. -/
def line (world : World) : Except String String :=
  match ((Launch.prepare LoggingConfig.initial).run world).1 with
  | .ok (launch, _) => .ok (launch.document.write .compact)
  | .error failure => .error failure.message

end Program
end Formwork

/-- The program. -/
def main : IO UInt32 := do
  let files ← Formwork.Program.files
  let environment ← Formwork.Program.environment
  match Formwork.Program.line { files, environment, now := Formwork.Moment.epoch } with
  | .ok line =>
    IO.println line
    return 0
  | .error message =>
    IO.eprintln message
    return 1
