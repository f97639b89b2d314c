import Formwork.Json.Basic
/-!
# Mutation plans

The typed operations of a batchUpdate (`MutationOp`): at most one `UpdateSettings`, and a `CreateItem` for each item
at its insertion index.
-/
namespace Formwork

/-- An image (`ItemImage`). -/
structure ItemImage where
  /-- The address of the image. -/
  sourceUri : Option String := none
  /-- The alignment of the image. -/
  alignment : String := "CENTER"
deriving DecidableEq, Inhabited

/-- The grading of an answer (`Grading`). -/
structure Grading where
  /-- The points of a correct answer. -/
  pointValue : Int
  /-- The correct answers. -/
  correctAnswers : List String := []
deriving DecidableEq, Inhabited

/-- Radio buttons or checkboxes (`ChoiceType`). -/
inductive ChoiceType
  | radio
  | checkbox
deriving DecidableEq, Inhabited

/-- A `TextQuestion` or a `ChoiceQuestion`. -/
inductive QuestionBody
  | text (paragraph : Bool)
  | choice (type : ChoiceType) (options : List String)
deriving DecidableEq, Inhabited

/-- The question of an item, without its title (`QuestionItem`). -/
structure QuestionItem where
  /-- Whether an answer is required. -/
  required : Bool := false
  /-- The body of the question. -/
  question : QuestionBody
  /-- The grading, if the question is graded. -/
  grading : Option Grading := none
  /-- An image beside the question. -/
  image : Option ItemImage := none
deriving DecidableEq, Inhabited

/-- An item of a form: a question, an image or a page break (`FormItem`). -/
inductive Item
  | question (title : String) (item : QuestionItem)
  | image (title : String) (image : ItemImage)
  | pageBreak (title : String) (description : Option String)
deriving DecidableEq, Inhabited

/-- The quiz options released to respondents (`GradePolicy`). -/
structure GradePolicy where
  /-- Scores are released at once. -/
  scoreReleased : Bool
  /-- Correct answers are shown. -/
  correctAnswersShown : Bool
  /-- Point values are shown. -/
  pointsShown : Bool
deriving DecidableEq, Inhabited

/-- An update of the quiz settings (`QuizSettingsUpdate`). -/
structure QuizUpdate where
  /-- Whether the form is a quiz. -/
  isQuiz : Bool := true
  /-- The grade policy, if it is updated too. -/
  grade : Option GradePolicy := none
deriving DecidableEq, Inhabited

/-- An operation of a batchUpdate (`CreateItem` or `UpdateSettings`). -/
inductive Operation
  | createItem (item : Item) (index : Int)
  | updateSettings (quiz : QuizUpdate)
deriving DecidableEq, Inhabited

/-- Operations in the order of the batch. -/
abbrev Plan := List Operation

end Formwork
