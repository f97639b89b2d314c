import Formwork.Proofs.Script.Syntax

/-!
# Running a script

An abstract machine for the platform, as far as the emitted scripts use it: forms with their items, spreadsheets, URL
fetches and the log.  A statement succeeds or fails with a message and keeps its effects in either case; `catch` runs
from the state in which the body stopped.

The machine is strict where the platform is.  Only answerable items can be required or have points, only choice items
have choices, the choices must not be empty, and a variable must be declared.  It is more liberal in one point: every
item takes an image.  Which fetches fail is a parameter (`Platform`).
-/
namespace Formwork
namespace FormApp

/-- The item types. -/
inductive ItemKind
  | text
  | paragraph
  | multipleChoice
  | checkbox
  | image
  | pageBreak
deriving DecidableEq

namespace ItemKind

/-- The item types. -/
def all : List ItemKind := [text, paragraph, multipleChoice, checkbox, image, pageBreak]

/-- The method of a form that adds an item of this type. -/
def maker : ItemKind → String
  | text => "addTextItem"
  | paragraph => "addParagraphTextItem"
  | multipleChoice => "addMultipleChoiceItem"
  | checkbox => "addCheckboxItem"
  | image => "addImageItem"
  | pageBreak => "addPageBreakItem"

/-- An item that is answered. -/
def isAnswered : ItemKind → Bool
  | image | pageBreak => false
  | _ => true

/-- An item with choices. -/
def hasChoices : ItemKind → Bool
  | multipleChoice | checkbox => true
  | _ => false

end ItemKind

/-- A choice. -/
structure Choice where
  /-- The text of the choice. -/
  text : String
  /-- Whether it is marked as correct. -/
  correct : Bool
deriving DecidableEq

/-- An item of a form. -/
structure Item where
  kind : ItemKind
  title : String := ""
  helpText : Option String := none
  required : Bool := false
  points : Option Nat := none
  choices : List Choice := []
  /-- The address of the image. -/
  image : Option String := none
deriving DecidableEq

/-- A form. -/
structure Form where
  title : String
  description : Option String := none
  isQuiz : Bool := false
  items : List Item := []
  /-- The spreadsheet for the responses. -/
  destination : Option Nat := none
deriving DecidableEq

/-- The result of a run. -/
structure Account where
  forms : List Form := []
  /-- The titles of the spreadsheets. -/
  sheets : List String := []
  /-- The number of fetches so far. -/
  fetches : Nat := 0
  log : List String := []
deriving DecidableEq

/-- The environment of a script. -/
structure Platform where
  /-- The message with which a fetch fails, by the number of fetches before it. -/
  outage : Nat → String → Option String
  /-- The edit URL of a form. -/
  editUrl : Nat → String
  /-- The published URL of a form. -/
  publishedUrl : Nat → String
  /-- The URL of a spreadsheet. -/
  sheetUrl : Nat → String

/-- The platform on which no fetch fails. -/
def Platform.reliable (P : Platform) : Platform := { P with outage := fun _ _ => none }

/-- The global services. -/
inductive Service
  | formApp
  | spreadsheetApp
  | urlFetchApp
  | logger
deriving DecidableEq

namespace Service

/-- The services. -/
def all : List Service := [formApp, spreadsheetApp, urlFetchApp, logger]

/-- The name of a service. -/
def name : Service → String
  | formApp => "FormApp"
  | spreadsheetApp => "SpreadsheetApp"
  | urlFetchApp => "UrlFetchApp"
  | logger => "Logger"

end Service

/-- A value of an expression. -/
inductive Value
  | text (value : String)
  | number (value : Nat)
  | truth (value : Bool)
  | choice (value : Choice)
  | array (items : List Value)
  | service (value : Service)
  | form (index : Nat)
  | item (form index : Nat)
  /-- The destination types for responses. -/
  | destinations
  | spreadsheet
  | sheet (index : Nat)
  | sheetId (index : Nat)
  /-- The response of a fetch. -/
  | response (url : String)
  | blob (url : String)
  | error (message : String)

/-- The methods. -/
inductive Method
  | create
  | setDescription
  | setIsQuiz
  | add (kind : ItemKind)
  | setDestination
  | getEditUrl
  | getPublishedUrl
  | setTitle
  | setHelpText
  | setRequired
  | setPoints
  | createChoice
  | setChoices
  | setImage
  | fetch
  | getBlob
  | getId
  | getUrl
  | log
deriving DecidableEq

namespace Method

/-- The methods. -/
def all : List Method :=
  [create, setDescription, setIsQuiz, setDestination, getEditUrl, getPublishedUrl, setTitle,
    setHelpText, setRequired, setPoints, createChoice, setChoices, setImage, fetch, getBlob, getId,
    getUrl, log] ++ ItemKind.all.map add

/-- The name of a method. -/
def name : Method → String
  | create => "create"
  | setDescription => "setDescription"
  | setIsQuiz => "setIsQuiz"
  | add kind => kind.maker
  | setDestination => "setDestination"
  | getEditUrl => "getEditUrl"
  | getPublishedUrl => "getPublishedUrl"
  | setTitle => "setTitle"
  | setHelpText => "setHelpText"
  | setRequired => "setRequired"
  | setPoints => "setPoints"
  | createChoice => "createChoice"
  | setChoices => "setChoices"
  | setImage => "setImage"
  | fetch => "fetch"
  | getBlob => "getBlob"
  | getId => "getId"
  | getUrl => "getUrl"
  | log => "log"

/-- The method with this name. -/
def ofName? (word : String) : Option Method := all.find? fun m => m.name == word

@[simp] theorem ofName?_name (m : Method) : ofName? m.name = some m := by
  cases m with
  | add kind => cases kind <;> decide
  | _ => decide

end Method

/-! ### Methods -/

/-- The choices in an array. -/
def choices? : List Value → Option (List Choice)
  | [] => some []
  | .choice c :: rest => (choices? rest).map (c :: ·)
  | _ => none

/-- An item after a call that changes it. -/
def Item.after (item : Item) : Method → List Value → Option Item
  | .setTitle, [.text title] => some { item with title := title }
  | .setHelpText, [.text text] => some { item with helpText := some text }
  | .setRequired, [.truth required] =>
    if item.kind.isAnswered then some { item with required := required } else none
  | .setPoints, [.number points] =>
    if item.kind.isAnswered then some { item with points := some points } else none
  | .setChoices, [.array values] =>
    if item.kind.hasChoices && !values.isEmpty then
      (choices? values).map fun choices => { item with choices := choices }
    else none
  | .setImage, [.blob url] => some { item with image := some url }
  | _, _ => none

/-- A form after a call that changes it, but not its items. -/
def Form.after (form : Form) : Method → List Value → Option Form
  | .setDescription, [.text text] => some { form with description := some text }
  | .setIsQuiz, [.truth isQuiz] => some { form with isQuiz := isQuiz }
  | .setDestination, [.spreadsheet, .sheetId index] => some { form with destination := some index }
  | _, _ => none

/-- The outcome of a call, and the result of the run so far. -/
abbrev Reply : Type := Except String Value × Account

namespace Account

variable (P : Platform) (account : Account)

/-- There is no such method for these arguments. -/
def refuse : Reply := (.error "TypeError", account)

/-- The form with this number is replaced. -/
def putForm (index : Nat) (form : Form) : Account :=
  { account with forms := account.forms.set index form }

/-- A method call on a service. -/
def callService : Service → Method → List Value → Reply
  | .formApp, .create, [.text title] =>
    (.ok (.form account.forms.length),
      { account with forms := account.forms ++ [{ title := title }] })
  | .spreadsheetApp, .create, [.text title] =>
    (.ok (.sheet account.sheets.length), { account with sheets := account.sheets ++ [title] })
  | .urlFetchApp, .fetch, [.text url] =>
    let after := { account with fetches := account.fetches + 1 }
    match P.outage account.fetches url with
    | none => (.ok (.response url), after)
    | some message => (.error message, after)
  | .logger, .log, [.text message] =>
    (.ok (.service .logger), { account with log := account.log ++ [message] })
  | _, _, _ => account.refuse

/-- A method call on a form. -/
def callForm (index : Nat) (form : Form) : Method → List Value → Reply
  | .add kind, [] =>
    (.ok (.item index form.items.length),
      account.putForm index { form with items := form.items ++ [{ kind := kind }] })
  | .getEditUrl, [] => (.ok (.text (P.editUrl index)), account)
  | .getPublishedUrl, [] => (.ok (.text (P.publishedUrl index)), account)
  | m, arguments =>
    match form.after m arguments with
    | some form => (.ok (.form index), account.putForm index form)
    | none => account.refuse

/-- A method call on an item. -/
def callItem (index : Nat) (form : Form) (place : Nat) (item : Item) : Method → List Value → Reply
  | .createChoice, [.text text, .truth correct] =>
    if item.kind.hasChoices then (.ok (.choice ⟨text, correct⟩), account) else account.refuse
  | m, arguments =>
    match item.after m arguments with
    | some item =>
      (.ok (.item index place),
        account.putForm index { form with items := form.items.set place item })
    | none => account.refuse

/-- A method call. -/
def call : Value → Method → List Value → Reply
  | .service s, m, arguments => account.callService P s m arguments
  | .form index, m, arguments =>
    match account.forms[index]? with
    | some form => account.callForm P index form m arguments
    | none => account.refuse
  | .item index place, m, arguments =>
    match account.forms[index]? with
    | some form =>
      match form.items[place]? with
      | some item => account.callItem index form place item m arguments
      | none => account.refuse
    | none => account.refuse
  | .response url, .getBlob, [] => (.ok (.blob url), account)
  | .sheet index, .getId, [] => (.ok (.sheetId index), account)
  | .sheet index, .getUrl, [] => (.ok (.text (P.sheetUrl index)), account)
  | _, _, _ => account.refuse

end Account

/-- The value of a property. -/
def Value.member? : Value → String → Option Value
  | .service .formApp, word => if word = "DestinationType" then some .destinations else none
  | .destinations, word => if word = "SPREADSHEET" then some .spreadsheet else none
  | .error message, word => if word = "message" then some (.text message) else none
  | _, _ => none

/-- The state of a running script. -/
structure State where
  bindings : String → Option Value
  account : Account

/-- The initial state, in which the services are declared. -/
def State.start : State where
  bindings word := (Service.all.find? fun s => s.name == word).map .service
  account := {}

/-- The state with a variable assigned, or removed. -/
def State.put (s : State) (word : String) (value : Option Value) : State :=
  { s with bindings := fun w => if w = word then value else s.bindings w }

/-- A value or a failure, and the state after it. -/
abbrev Outcome (α : Type) : Type := Except String α × State

/-- The continuation of a success. -/
def Outcome.andThen {α β : Type} : Outcome α → (α → State → Outcome β) → Outcome β
  | (.ok value, s), next => next value s
  | (.error message, s), _ => (.error message, s)

@[simp] theorem Outcome.andThen_ok {α β : Type} (value : α) (s : State)
    (next : α → State → Outcome β) :
    Outcome.andThen (.ok value, s) next = next value s := rfl

@[simp] theorem Outcome.andThen_error {α β : Type} (message : String) (s : State)
    (next : α → State → Outcome β) :
    Outcome.andThen (.error message, s) next = (.error message, s) := rfl

/-- A method call, by the name of the method. -/
def State.call (P : Platform) (s : State) (object : Value) (word : String)
    (arguments : List Value) : Outcome Value :=
  match Method.ofName? word with
  | none => (.error "TypeError", s)
  | some m =>
    let reply := s.account.call P object m arguments
    (reply.1, { s with account := reply.2 })

end FormApp

namespace Script
open FormApp

variable (P : Platform)

mutual
/-- The value of an expression. -/
def Expr.eval : Expr → State → Outcome Value
  | .literal text, s => (.ok (.text text), s)
  | .colon, s => (.ok (.text ": "), s)
  | .number value, s => (.ok (.number value), s)
  | .truth value, s => (.ok (.truth value), s)
  | .name word, s =>
    match s.bindings word with
    | some value => (.ok value, s)
    | none => (.error "ReferenceError", s)
  | .member object word, s => (object.eval s).andThen fun value s =>
    match value.member? word with
    | some value => (.ok value, s)
    | none => (.error "TypeError", s)
  | .call (.member object word) arguments, s => (object.eval s).andThen fun value s =>
    (Expr.evalAll arguments s).andThen fun values s => s.call P value word values
  | .call _ _, s => (.error "TypeError", s)
  | .array items, s => (Expr.evalAll items s).andThen fun values s => (.ok (.array values), s)
  | .join first second, s => (first.eval s).andThen fun a s => (second.eval s).andThen fun b s =>
    match a, b with
    | .text a, .text b => (.ok (.text (a ++ b)), s)
    | _, _ => (.error "TypeError", s)

/-- The values of expressions, from left to right. -/
def Expr.evalAll : List Expr → State → Outcome (List Value)
  | [], s => (.ok [], s)
  | e :: rest, s => (e.eval s).andThen fun value s =>
    (Expr.evalAll rest s).andThen fun values s => (.ok (value :: values), s)
end

mutual
/-- The effect of a statement.  The message is bound in the handler only. -/
def Stmt.exec : Stmt → State → Outcome Unit
  | .declare word value, s => (value.eval P s).andThen fun v s => (.ok (), s.put word (some v))
  | .perform value, s => (value.eval P s).andThen fun _ s => (.ok (), s)
  | .attempt body handler, s =>
    match Stmt.execAll body s with
    | (.ok (), t) => (.ok (), t)
    | (.error message, t) =>
      let after := Stmt.execAll handler (t.put "e" (some (.error message)))
      (after.1, after.2.put "e" (t.bindings "e"))

/-- The effect of statements in sequence. -/
def Stmt.execAll : List Stmt → State → Outcome Unit
  | [], s => (.ok (), s)
  | statement :: rest, s => (statement.exec s).andThen fun _ s => Stmt.execAll rest s
end

/-- The run of this function of a text; none if the text has no such function. -/
def execute (entry : String) (text : String) : Option (Outcome Unit) :=
  match parse text with
  | some program =>
    if program.entry = entry then some (Stmt.execAll P program.body State.start) else none
  | none => none

end Script
end Formwork
