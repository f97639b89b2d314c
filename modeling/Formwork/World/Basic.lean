import Formwork.Account.Credentials
import Formwork.Act
import Formwork.Generation.Reply
import Formwork.Script.Compile
import Formwork.Settings.Basic
/-!
# The world

The environment of the program: files, environment variables, the clock, and the services that it calls.  What each
service will answer is part of the world, as a script for each kind of call.  The world also records the calls that
were made and the log records, both in order.
-/
namespace Formwork

/-- A call to a service. -/
inductive Call
  /-- A Forms API client is built with this token. -/
  | connect (token : Json)
  /-- A form is created with this body. -/
  | createForm (body : Json)
  /-- A batchUpdate of a form. -/
  | fillForm (formId : String) (body : Json)
  /-- A call to the model. -/
  | askModel (key model contents : String) (instructions : Option String)
  /-- A refresh of an access token. -/
  | refreshToken (refreshToken : Json)
  /-- An exchange of an authorization code. -/
  | exchangeCode (code : String)
deriving DecidableEq, Inhabited

/-- The outcome of a call. -/
abbrev Outcome (α : Type) := Except Problem α

/-- The script of a service: these outcomes first, one for each call, and then always the usual answer. -/
structure Replies (α : Type) where
  /-- The outcomes of the next calls. -/
  next : List (Outcome α) := []
  /-- The answer to every later call. -/
  usual : α
deriving Inhabited

/-- The outcome of one call, and the script after it. -/
def Replies.take {α : Type} (replies : Replies α) : Outcome α × Replies α :=
  match replies.next with
  | [] => (.ok replies.usual, replies)
  | answer :: rest => (answer, { replies with next := rest })

/-- The scripts of the services. -/
structure Answers where
  /-- Calls that create a form. -/
  createForm : Replies Json := { usual := .null }
  /-- Batch updates. -/
  fillForm : Replies Json := { usual := .null }
  /-- Refreshes. -/
  refreshToken : Replies Grant := { usual := default }
  /-- Exchanges of authorization codes. -/
  exchangeCode : Replies Json := { usual := .null }
  /-- Calls to the model. -/
  askModel : Replies ModelReply := { usual := {} }
deriving Inhabited

/-- The world. -/
structure World where
  /-- The files. -/
  files : Files := []
  /-- The environment variables. -/
  environment : Environment := []
  /-- The settings, once they have been read (`get_settings` caches them). -/
  settings : Option Settings := none
  /-- The scripts of the services. -/
  answers : Answers := {}
  /-- The number of item names given out. -/
  itemNames : Nat := 0
  /-- The limits within which JSON is read in this run. -/
  limits : Json.Limits := default
  /-- The clock. -/
  now : Moment
  /-- The calls so far. -/
  calls : List Call := []
  /-- The log records so far. -/
  records : List LogRecord := []
deriving Inhabited

namespace World

/-- The world after a call. -/
def called (call : Call) (world : World) : World := { world with calls := world.calls ++ [call] }

/-- The world after some log records. -/
def logged (records : List LogRecord) (world : World) : World :=
  { world with records := world.records ++ records }

/-- Logs some records. -/
def log (records : List LogRecord) : Act World Unit := .change (logged records)

/-! ## Calls -/

/-- A call, with the script that its outcome is taken from and the place to keep the rest of it. -/
def request {α : Type} (call : Call) (replies : Answers → Replies α)
    (keep : Replies α → Answers → Answers) : Act World α := do
  .change (called call)
  let world ← .state
  let (answer, rest) := (replies world.answers).take
  .change fun world => { world with answers := keep rest world.answers }
  .ofProblem answer

/-- Creates a form. -/
def createForm (body : Json) : Act World Json :=
  request (.createForm body) Answers.createForm
    fun rest answers => { answers with createForm := rest }

/-- Sends a batchUpdate. -/
def fillForm (formId : String) (body : Json) : Act World Json :=
  request (.fillForm formId body) Answers.fillForm
    fun rest answers => { answers with fillForm := rest }

/-- Refreshes an access token. -/
def refreshToken (token : Json) : Act World Grant :=
  request (.refreshToken token) Answers.refreshToken
    fun rest answers => { answers with refreshToken := rest }

/-- Exchanges an authorization code. -/
def exchangeCode (code : String) : Act World Json :=
  request (.exchangeCode code) Answers.exchangeCode
    fun rest answers => { answers with exchangeCode := rest }

/-- Calls the model. -/
def askModel (key model contents : String) (instructions : Option String) :
    Act World ModelReply :=
  request (.askModel key model contents instructions) Answers.askModel
    fun rest answers => { answers with askModel := rest }

/-! ## Files and settings -/

/-- The file of environment variables. -/
def envFile : String := ".env"

/-- The settings (`get_settings`): as they were read before, or else read now and kept. -/
def currentSettings : Act World Settings := do
  let world ← .state
  match world.settings with
  | some settings => pure settings
  | none =>
    let file := (world.files.read envFile).toOption
    let settings ← .ofReading "Settings" (Settings.load world.environment file)
    .change fun world => { world with settings := some settings }
    pure settings

/-- The settings are read again the next time. -/
def forgetSettings (world : World) : World := { world with settings := none }

/-- The world with an environment variable set or removed. -/
def setVariable (name : String) (value : Option String) (world : World) : World :=
  { world with
    environment :=
      match value with
      | some text => world.environment.set name text
      | none => world.environment.unset name }

/-- Whether a file or a directory of this name exists. -/
def isThere (name : String) : Act World Bool := do
  let world ← .state
  .ofProblem (world.files.isThere name)

/-- The text of a file. -/
def fileText (name : String) : Act World String := do
  let world ← .state
  .ofProblem (world.files.read name)

/-- Writes a text to a file. -/
def saveText (name text : String) : Act World Unit := do
  let world ← .state
  let files ← .ofProblem (world.files.save name text)
  .change fun world => { world with files }

/-- Fresh item names, this many of them. -/
def takeItemNames (count : Nat) : Act World (Nat → ItemName) := do
  let world ← .state
  .change fun world => { world with itemNames := world.itemNames + count }
  pure fun index => .numbered (world.itemNames + index + 1)

end World
end Formwork
