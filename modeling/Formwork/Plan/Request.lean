import Formwork.Plan.Basic
import Formwork.Text.Blank
/-!
# Requests of operations

The batchUpdate request of each operation (`to_request`).  Absent parts are left out, and so are an empty image
address and an empty page-break description.
-/
namespace Formwork

/-- Answers, one object for each. -/
def answerValues (answers : List String) : Json :=
  .arr (answers.map fun answer => .obj [("value", .str answer)])

/-- The request body of an image. -/
def ItemImage.request (image : ItemImage) : Json :=
  .obj (("properties", .obj [("alignment", .str image.alignment)])
    :: match Text.nonempty? image.sourceUri with
      | some uri => [("sourceUri", .str uri)]
      | none => [])

/-- The request body of a grading. -/
def Grading.request (grading : Grading) : Json :=
  .obj [
    ("pointValue", .int grading.pointValue),
    ("correctAnswers", .obj [("answers", answerValues grading.correctAnswers)])]

/-- The value of a choice type. -/
def ChoiceType.name : ChoiceType → String
  | radio => "RADIO"
  | checkbox => "CHECKBOX"

/-- The member of a question that carries its body. -/
def QuestionBody.request : QuestionBody → String × Json
  | text paragraph => ("textQuestion", .obj [("paragraph", .bool paragraph)])
  | choice type options =>
    ("choiceQuestion", .obj [("type", .str type.name), ("options", answerValues options)])

/-- The request body of a question item. -/
def QuestionItem.request (item : QuestionItem) : Json :=
  let grading :=
    match item.grading with
    | some grading => [("grading", grading.request)]
    | none => []
  let image :=
    match item.image with
    | some image => [("image", image.request)]
    | none => []
  .obj (("question", .obj (("required", .bool item.required) :: item.question.request :: grading))
    :: image)

/-- The request body of an item. -/
def Item.request : Item → Json
  | question title item => .obj [("title", .str title), ("questionItem", item.request)]
  | image title picture =>
    .obj [("title", .str title), ("imageItem", .obj [("image", picture.request)])]
  | pageBreak title description =>
    .obj (("title", .str title) :: ("pageBreakItem", .obj [])
      :: match Text.nonempty? description with
        | some text => [("description", .str text)]
        | none => [])

/-- The request body of a grade policy. -/
def GradePolicy.request (grade : GradePolicy) : Json :=
  .obj [
    ("score", .str (if grade.scoreReleased then "RELEASED" else "NOT_RELEASED")),
    ("correctAnswersShown", .bool grade.correctAnswersShown),
    ("pointsShown", .bool grade.pointsShown)]

/-- The `updateMask` of a quiz settings update (`update_mask`). -/
def QuizUpdate.mask (update : QuizUpdate) : String :=
  String.intercalate "," ("quizSettings.isQuiz"
    :: if update.grade.isSome then ["quizSettings.grade"] else [])

/-- The request body of a quiz settings update. -/
def QuizUpdate.request (update : QuizUpdate) : Json :=
  .obj (("isQuiz", .bool update.isQuiz)
    :: match update.grade with
      | some grade => [("grade", grade.request)]
      | none => [])

/-- The request of an operation. -/
def Operation.request : Operation → Json
  | createItem item index =>
    .obj [("createItem",
      .obj [("item", item.request), ("location", .obj [("index", .int index)])])]
  | updateSettings quiz =>
    .obj [("updateSettings",
      .obj [("settings", .obj [("quizSettings", quiz.request)]), ("updateMask", .str quiz.mask)])]

/-- The requests of a plan (`to_batch_requests`). -/
def Plan.requests (plan : Plan) : List Json := plan.map Operation.request

end Formwork
