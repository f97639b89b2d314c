import Formwork.Definition.Basic
import Formwork.Failure
import Formwork.Script.Code
import Formwork.Script.Wording
import Formwork.Text.Blank
import Formwork.Text.Lines
/-!
# Compiling scripts

`Definition.script` models `compile_script`: the script creates the form, goes through the sections and their
questions in order, with a page break between sections, and ends by logging the addresses of the form.

Every item of a question is held in a variable, and the names of the variables are supplied from outside.  An image
is fetched in a `try`, so that an address that cannot be fetched costs that image and nothing else.
-/
namespace Formwork

/-- The name of the variable of an item: a number of seven hexadecimal digits (`_item_var`). -/
structure ItemName where
  /-- The number in the name. -/
  number : Fin 0x10000000
deriving DecidableEq

namespace ItemName

/-- The name with this number. -/
def numbered (n : Nat) : ItemName := ⟨n % 0x10000000, Nat.mod_lt n (by decide)⟩

instance : Inhabited ItemName := ⟨numbered 0⟩

/-- A number in hexadecimal digits, as many as asked for. -/
def hexDigits (n : Nat) : Nat → List Char
  | 0 => []
  | width + 1 => hexDigits (n / 16) width ++ [Nat.digitChar (n % 16)]

/-- The name as text. -/
def text (name : ItemName) : String := "item" ++ String.ofList (hexDigits name.number 7)

end ItemName

namespace Script

/-- The options of a script beside the form. -/
structure Options where
  /-- Whether the script also creates a spreadsheet of responses. -/
  resultsSheet : Bool := false
  /-- The locale of comments and messages. -/
  locale : Locale := .en
deriving DecidableEq, Inhabited

/-- The locale of a JSON value, or the error for an unsupported one. -/
def requestedLocale (value : Json) : Except Failure Locale :=
  match Locale.ofJson value with
  | .ok locale => .ok locale
  | .error problem =>
    .error (.because (.compilation s!"Unsupported script locale: {value.display}") problem)

/-- The method that adds the item of a question (`ITEM_CONSTRUCTORS`); an unknown kind is a short answer. -/
def constructor : Kind → String
  | .known .shortAnswer => "addTextItem"
  | .known .paragraph => "addParagraphTextItem"
  | .known .multipleChoice => "addMultipleChoiceItem"
  | .known .checkboxes => "addCheckboxItem"
  | .known .imageDisplay => "addImageItem"
  | .other .. => "addTextItem"

/-- The variable of the form. -/
def form : Expr := .name "form"

/-- The statement that calls a method. -/
def invoke (object : Expr) (word : String) (arguments : List Expr) : Piece :=
  .statement (.perform (object.method word arguments))

/-- The statement that declares a variable. -/
def declare (word : String) (value : Expr) : Piece := .statement (.declare word value)

/-- The statement that logs a message. -/
def log (message : Expr) : Stmt := .perform ((Expr.name "Logger").method "log" [message])

variable (w : Wording)

/-- The comments on quiz settings, which no script can set (`_emit_quiz`). -/
def quizNotes (settings : QuizSettings) : List Piece :=
  let time := if settings.releaseImmediately then w.immediately else w.later
  w.quizNotes.map .note ++ [
    .note s!"  - {w.release}{time}",
    .note s!"  - {w.correct}{w.truth settings.showCorrectAnswers}",
    .note s!"  - {w.points}{w.truth settings.showPointValues}"]

/-- The choices of a choice item, each with whether it is correct. -/
def choices (item : Expr) (q : Question) : Expr :=
  .array (q.options.map fun option =>
    item.method "createChoice" [.literal option, .truth (q.correctAnswers.contains option)])

/-- The statements that fetch the image of a question. -/
def image (item : Expr) (q : Question) (url : String) : Stmt :=
  .attempt
    [.declare "imageUrl" (.literal url),
      .declare "imageBlob"
        (((Expr.name "UrlFetchApp").method "fetch" [.name "imageUrl"]).method "getBlob" []),
      .perform (item.method "setImage" [.name "imageBlob"])]
    (log (.join (.join (.join (.literal w.imageFailed) (.literal q.title)) .colon)
        (.member (.name "e") "message"))
      :: if q.kind.isImage then []
        else [.perform
          (item.method "setHelpText" [.join (.literal w.imageHelp) (.name "imageUrl")])])

/-- The code of a question (`_emit_question`). -/
def question (isQuiz : Bool) (name : ItemName) (q : Question) : List Piece :=
  let item := Expr.name name.text
  [.blank,
    .note s!"Question: {Text.onOneLine q.title}",
    declare name.text (form.method (constructor q.kind) []),
    invoke item "setTitle" [.literal q.title]]
  ++ (if q.required && !q.kind.isImage then [invoke item "setRequired" [.truth true]] else [])
  ++ (match q.points with
    | some (n + 1) =>
      if isQuiz && !q.kind.isImage then [invoke item "setPoints" [.number (n + 1)]] else []
    | _ => [])
  ++ (if q.kind.isChoice && !q.options.isEmpty then
        [invoke item "setChoices" [choices item q]]
      else [])
  ++ (match Text.nonempty? q.imageUrl with
    | some url => [.statement (image w item q url)]
    | none => [])

/-- The code of the questions of a section, the first of which has this number in the form. -/
def questions (isQuiz : Bool) (names : Nat → ItemName) (first : Nat) : List Question → List Piece
  | [] => []
  | q :: rest => question w isQuiz (names first) q ++ questions isQuiz names (first + 1) rest

/-- The code of the page break in front of a section, behind the section with this number. -/
def pageBreak (index : Nat) (next : FormSection) : List Piece :=
  let word := s!"pageBreak{index}"
  [.blank,
    declare word (form.method "addPageBreakItem" []),
    invoke (.name word) "setTitle" [.literal next.title]]
  ++ match Text.nonempty? next.description with
    | some text => [invoke (.name word) "setHelpText" [.literal text]]
    | none => []

/-- The code of the sections, of which the first has this number and its first question that one. -/
def sections (isQuiz : Bool) (names : Nat → ItemName) (index first : Nat) :
    List FormSection → List Piece
  | [] => []
  | s :: rest =>
    .blank :: .note s!"--- Section: {Text.onOneLine s.title} ---"
      :: questions w isQuiz names first s.questions
      ++ (match rest with
        | next :: _ => pageBreak index next
        | [] => [])
      ++ sections isQuiz names (index + 1) (first + s.questions.length) rest

/-- The code that creates a spreadsheet of responses. -/
def sheet (title : String) : List Piece :=
  [.blank,
    declare "resultsSheet"
      ((Expr.name "SpreadsheetApp").method "create" [.literal (title ++ w.responses)]),
    invoke form "setDestination" [
      .member (.member (.name "FormApp") "DestinationType") "SPREADSHEET",
      (Expr.name "resultsSheet").method "getId" []]]

/-- The log messages at the end. -/
def farewell (resultsSheet : Bool) : List Piece :=
  [.blank,
    .statement (log (.literal w.done)),
    .statement (log (.join (.literal w.editUrl) (form.method "getEditUrl" []))),
    .statement (log (.join (.literal w.shareUrl) (form.method "getPublishedUrl" [])))]
  ++ if resultsSheet then
      [.statement (log (.join (.literal w.sheetUrl)
        ((Expr.name "resultsSheet").method "getUrl" [])))]
    else []

/-- The code that creates the form itself. -/
def opening (d : Definition) : List Piece :=
  declare "form" ((Expr.name "FormApp").method "create" [.literal d.title])
    :: (match Text.nonempty? d.description with
      | some text => [invoke form "setDescription" [.literal text]]
      | none => [])
    ++ (if d.isQuiz then
        invoke form "setIsQuiz" [.truth true] :: (match d.quizSettings with
          | some settings => quizNotes w settings
          | none => [])
      else [])

end Script

/-- The script of a definition, with these names for its items in order (`compile_script`). -/
def Definition.script (d : Definition) (options : Script.Options) (names : Nat → ItemName) : Script :=
  let w := Script.Wording.ofLocale options.locale
  { banner := w.banner
    entry := Script.entryFunction
    body :=
      Script.opening w d ++ Script.sections w d.isQuiz names 0 0 d.sections
        ++ (if options.resultsSheet then Script.sheet w d.title else [])
        ++ Script.farewell w options.resultsSheet }

end Formwork
