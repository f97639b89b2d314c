import Formwork.Plan.Request
import Formwork.Schema.Scalar
/-!
# Operations as JSON

The dump of an operation and its reader.  Unions are tagged: by `op` for operations, and by `kind` for items and
question bodies.
-/
namespace Formwork

/-- A value, or `null`. -/
def Json.ofOption {α : Type} (toJson : α → Json) : Option α → Json
  | some value => toJson value
  | none => .null

/-! ## Reading -/

section
open FieldName (only)

/-- The image of a JSON value. -/
def ItemImage.read : Json → Reading ItemImage :=
  Reading.object .value "ItemImage" fun fields =>
    ItemImage.mk
      <$> (only "source_uri").withDefault none (.optional .text) fields
      <*> (only "alignment").withDefault "CENTER" .text fields

/-- The grading of a JSON value. -/
def Grading.read : Json → Reading Grading :=
  Reading.object .value "Grading" fun fields =>
    Grading.mk
      <$> (only "point_value").required .integer fields
      <*> (only "correct_answers").withDefault [] (.list .text) fields

/-- The choice types, in the order in which error messages list them. -/
def ChoiceType.all : List ChoiceType := [radio, checkbox]

/-- The choice type with a name. -/
def ChoiceType.ofName? (word : String) : Option ChoiceType := all.find? fun type => type.name == word

/-- The choice type of a JSON value. -/
def ChoiceType.read : Json → Reading ChoiceType := .member ofName? (all.map name)

/-- The text question of a JSON value. -/
def QuestionBody.readText : Json → Reading QuestionBody :=
  Reading.object .value "TextQuestion" fun fields =>
    (fun _ paragraph => .text paragraph)
      <$> (only "kind").withDefault () (.word "text") fields
      <*> (only "paragraph").withDefault false .truth fields

/-- The choice question of a JSON value. -/
def QuestionBody.readChoice : Json → Reading QuestionBody :=
  Reading.object .value "ChoiceQuestion" fun fields =>
    (fun _ type options => .choice type options)
      <$> (only "kind").withDefault () (.word "choice") fields
      <*> (only "type").required ChoiceType.read fields
      <*> (only "options").required (.list .text) fields

/-- The question body of a JSON value. -/
def QuestionBody.read : Json → Reading QuestionBody :=
  .tagged "kind" [("text", readText), ("choice", readChoice)]

/-- The question item of a JSON value. -/
def QuestionItem.read : Json → Reading QuestionItem :=
  Reading.object .value "QuestionItem" fun fields =>
    QuestionItem.mk
      <$> (only "required").withDefault false .truth fields
      <*> (only "question").required QuestionBody.read fields
      <*> (only "grading").withDefault none (.optional Grading.read) fields
      <*> (only "image").withDefault none (.optional ItemImage.read) fields

/-- The question item with its title. -/
def Item.readQuestion : Json → Reading Item :=
  Reading.object .value "QuestionFormItem" fun fields =>
    (fun _ title item => .question title item)
      <$> (only "kind").withDefault () (.word "question") fields
      <*> (only "title").required .text fields
      <*> (only "question_item").required QuestionItem.read fields

/-- The image item of a JSON value. -/
def Item.readImage : Json → Reading Item :=
  Reading.object .value "ImageFormItem" fun fields =>
    (fun _ title image => .image title image)
      <$> (only "kind").withDefault () (.word "image") fields
      <*> (only "title").required .text fields
      <*> (only "image").required ItemImage.read fields

/-- The page break of a JSON value. -/
def Item.readPageBreak : Json → Reading Item :=
  Reading.object .value "PageBreakFormItem" fun fields =>
    (fun _ title description => .pageBreak title description)
      <$> (only "kind").withDefault () (.word "page_break") fields
      <*> (only "title").required .text fields
      <*> (only "description").withDefault none (.optional .text) fields

/-- The item of a JSON value. -/
def Item.read : Json → Reading Item :=
  .tagged "kind"
    [("question", readQuestion), ("image", readImage), ("page_break", readPageBreak)]

/-- The grade policy of a JSON value. -/
def GradePolicy.read : Json → Reading GradePolicy :=
  Reading.object .value "GradePolicy" fun fields =>
    GradePolicy.mk
      <$> (only "score_released").required .truth fields
      <*> (only "correct_answers_shown").required .truth fields
      <*> (only "points_shown").required .truth fields

/-- The quiz settings update of a JSON value. -/
def QuizUpdate.read : Json → Reading QuizUpdate :=
  Reading.object .value "QuizSettingsUpdate" fun fields =>
    QuizUpdate.mk
      <$> (only "is_quiz").withDefault true .truth fields
      <*> (only "grade").withDefault none (.optional GradePolicy.read) fields

/-- The `create_item` operation of a JSON value. -/
def Operation.readCreateItem : Json → Reading Operation :=
  Reading.object .value "CreateItem" fun fields =>
    (fun _ item index => .createItem item index)
      <$> (only "op").withDefault () (.word "create_item") fields
      <*> (only "item").required Item.read fields
      <*> (only "insert_at_index").required .integer fields

/-- The `update_settings` operation of a JSON value. -/
def Operation.readUpdateSettings : Json → Reading Operation :=
  Reading.object .value "UpdateSettings" fun fields =>
    (fun _ quiz => .updateSettings quiz)
      <$> (only "op").withDefault () (.word "update_settings") fields
      <*> (only "quiz_settings").required QuizUpdate.read fields

/-- The operation of a JSON value. -/
def Operation.read : Json → Reading Operation :=
  .tagged "op" [("create_item", readCreateItem), ("update_settings", readUpdateSettings)]

end

/-! ## Writing -/

/-- The dump of an image. -/
def ItemImage.document (image : ItemImage) : Json :=
  .obj [("source_uri", .ofText? image.sourceUri), ("alignment", .str image.alignment)]

/-- The dump of a grading. -/
def Grading.document (grading : Grading) : Json :=
  .obj [("point_value", .int grading.pointValue), ("correct_answers", .texts grading.correctAnswers)]

/-- The dump of a question body. -/
def QuestionBody.document : QuestionBody → Json
  | text paragraph => .obj [("kind", .str "text"), ("paragraph", .bool paragraph)]
  | choice type options =>
    .obj [("kind", .str "choice"), ("type", .str type.name), ("options", .texts options)]

/-- The dump of a question item. -/
def QuestionItem.document (item : QuestionItem) : Json :=
  .obj [
    ("required", .bool item.required),
    ("question", item.question.document),
    ("grading", .ofOption Grading.document item.grading),
    ("image", .ofOption ItemImage.document item.image)]

/-- The dump of an item. -/
def Item.document : Item → Json
  | question title item =>
    .obj [("kind", .str "question"), ("title", .str title), ("question_item", item.document)]
  | image title picture =>
    .obj [("kind", .str "image"), ("title", .str title), ("image", picture.document)]
  | pageBreak title description =>
    .obj [("kind", .str "page_break"), ("title", .str title),
      ("description", .ofText? description)]

/-- The dump of a grade policy. -/
def GradePolicy.document (grade : GradePolicy) : Json :=
  .obj [
    ("score_released", .bool grade.scoreReleased),
    ("correct_answers_shown", .bool grade.correctAnswersShown),
    ("points_shown", .bool grade.pointsShown)]

/-- The dump of a quiz settings update. -/
def QuizUpdate.document (update : QuizUpdate) : Json :=
  .obj [
    ("is_quiz", .bool update.isQuiz),
    ("grade", .ofOption GradePolicy.document update.grade)]

/-- The dump of an operation. -/
def Operation.document : Operation → Json
  | createItem item index =>
    .obj [("op", .str "create_item"), ("item", item.document), ("insert_at_index", .int index)]
  | updateSettings quiz =>
    .obj [("op", .str "update_settings"), ("quiz_settings", quiz.document)]

end Formwork
