import Formwork.Json.Basic
/-!
# Form definitions

The model of a form definition: a title, sections of questions, and optionally quiz settings (`FormDefinition` with
`FormSection`, `Question` and `QuizSettings`).  The kind of a question is one of the five of `QuestionKind`, or a
string that is none of their names; `Kind.ofName` reads both, so that every kind has one representation.
-/
namespace Formwork

/-- The question kinds that the compilers know (`QuestionKind`). -/
inductive KnownKind
  | shortAnswer
  | paragraph
  | multipleChoice
  | checkboxes
  | imageDisplay
deriving DecidableEq, Inhabited

namespace KnownKind

/-- The kinds, in the order in which error messages list them. -/
def all : List KnownKind := [shortAnswer, paragraph, multipleChoice, checkboxes, imageDisplay]

/-- The value of a kind in JSON. -/
def name : KnownKind → String
  | shortAnswer => "SHORT_ANSWER"
  | paragraph => "PARAGRAPH"
  | multipleChoice => "MULTIPLE_CHOICE"
  | checkboxes => "CHECKBOXES"
  | imageDisplay => "IMAGE_DISPLAY"

/-- The kind with a name. -/
def ofName? (word : String) : Option KnownKind := all.find? fun kind => kind.name == word

@[simp] theorem ofName?_name (kind : KnownKind) : ofName? kind.name = some kind := by
  cases kind <;> decide

end KnownKind

/-- The kind of a question: a known one, or a string that is the name of none. -/
inductive Kind
  | known (kind : KnownKind)
  | other (word : String) (unknown : KnownKind.ofName? word = none)
deriving DecidableEq

namespace Kind

/-- The kind that a string denotes. -/
def ofName (word : String) : Kind :=
  match h : KnownKind.ofName? word with
  | some kind => known kind
  | none => other word h

/-- The string of a kind. -/
def name : Kind → String
  | known kind => kind.name
  | other word _ => word

/-- Whether the kind is a known one. -/
def isKnown : Kind → Bool
  | known _ => true
  | other .. => false

/-- Whether the question has options to choose from (`is_choice_kind`). -/
def isChoice : Kind → Bool
  | known .multipleChoice | known .checkboxes => true
  | _ => false

/-- Whether the item only displays an image. -/
def isImage (kind : Kind) : Bool := kind == known .imageDisplay

instance : Inhabited Kind := ⟨known .shortAnswer⟩

@[simp] theorem name_known (kind : KnownKind) : (known kind).name = kind.name := rfl

@[simp] theorem ofName_name (kind : Kind) : ofName kind.name = kind := by
  unfold ofName
  cases kind with
  | known kind =>
    split
    · rename_i found h; exact congrArg known (Option.some.inj (h.symm.trans (KnownKind.ofName?_name kind)))
    · rename_i h; exact absurd (h.symm.trans (KnownKind.ofName?_name kind)) (by simp)
  | other word unknown =>
    split
    · rename_i found h; exact absurd (h.symm.trans unknown) (by simp)
    · rfl

end Kind

/-- A question. -/
structure Question where
  /-- The text of the question. -/
  title : String
  /-- The kind of the item. -/
  kind : Kind
  /-- The options of a choice question. -/
  options : List String := []
  /-- The address of an image beside the question, or of the image that is the item. -/
  imageUrl : Option String := none
  /-- Whether an answer is required. -/
  required : Bool := false
  /-- The points for a correct answer. -/
  points : Option Nat := none
  /-- The correct answers. -/
  correctAnswers : List String := []
deriving DecidableEq, Inhabited

/-- A section of a form.  Each section is a page. -/
structure FormSection where
  /-- The title of the page. -/
  title : String
  /-- The text below the title. -/
  description : Option String := none
  /-- The questions, in order. -/
  questions : List Question := []
deriving DecidableEq, Inhabited

/-- The quiz options that a form can release to respondents. -/
structure QuizSettings where
  /-- Grades are released at once rather than after a review. -/
  releaseImmediately : Bool := false
  /-- Correct answers are shown. -/
  showCorrectAnswers : Bool := false
  /-- The point values are shown. -/
  showPointValues : Bool := false
deriving DecidableEq, Inhabited

/-- A form definition. -/
structure Definition where
  /-- The title of the form. -/
  title : String
  /-- The text below the title. -/
  description : Option String := none
  /-- The sections, in order. -/
  sections : List FormSection := []
  /-- Whether the form is a quiz. -/
  isQuiz : Bool := false
  /-- The settings of the quiz, if any are given. -/
  quizSettings : Option QuizSettings := none
deriving DecidableEq, Inhabited

namespace Definition

/-- All questions, section by section. -/
def questions (d : Definition) : List Question := d.sections.flatMap FormSection.questions

/-- The number of questions (`question_count`). -/
def questionCount (d : Definition) : Nat :=
  d.sections.foldl (fun count s => count + s.questions.length) 0

end Definition

end Formwork
