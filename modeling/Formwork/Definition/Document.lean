import Formwork.Definition.Basic
import Formwork.Schema.Scalar
/-!
# Definitions as JSON

Reading a definition from a JSON value, and dumping it as one.  Every member has a camelCase alias and a snake_case
name.  The reader accepts both, the alias first; the writer uses whichever is asked for, and writes every member,
absent ones as `null`.
-/
namespace Formwork

namespace FieldName

/-- The members of the models of a definition. -/
def title : FieldName := only "title"
@[inherit_doc title] def description : FieldName := only "description"
@[inherit_doc title] def sections : FieldName := only "sections"
@[inherit_doc title] def questions : FieldName := only "questions"
@[inherit_doc title] def isQuiz : FieldName := ⟨"isQuiz", "is_quiz"⟩
@[inherit_doc title] def quizSettings : FieldName := ⟨"quizSettings", "quiz_settings"⟩
@[inherit_doc title] def releaseImmediately : FieldName :=
  ⟨"releaseImmediately", "release_immediately"⟩
@[inherit_doc title] def showCorrectAnswers : FieldName :=
  ⟨"showCorrectAnswers", "show_correct_answers"⟩
@[inherit_doc title] def showPointValues : FieldName := ⟨"showPointValues", "show_point_values"⟩
@[inherit_doc title] def kind : FieldName := ⟨"type", "kind"⟩
@[inherit_doc title] def options : FieldName := only "options"
@[inherit_doc title] def imageUrl : FieldName := ⟨"imageUrl", "image_url"⟩
@[inherit_doc title] def mandatory : FieldName := only "required"
@[inherit_doc title] def points : FieldName := only "points"
@[inherit_doc title] def correctAnswers : FieldName := ⟨"correctAnswers", "correct_answers"⟩

end FieldName

/-- A kind, tried as one of the known kinds and then as a string: a value that is no string has an issue for each. -/
def Kind.read (given : Json) : Reading Kind :=
  match given with
  | .str word => .done (.ofName word)
  | _ =>
    .failed [
      ⟨[.key "str-enum[QuestionKind]"], .noMember (KnownKind.all.map KnownKind.name), given⟩,
      ⟨[.key "str"], .noText, given⟩]

variable (source : Source)

/-- The question of a JSON value. -/
def Question.read : Json → Reading Question :=
  Reading.object source "Question" fun fields =>
    Question.mk
      <$> FieldName.title.required .text fields
      <*> FieldName.kind.required Kind.read fields
      <*> FieldName.options.withDefault [] (.list .text) fields
      <*> FieldName.imageUrl.withDefault none (.optional .text) fields
      <*> FieldName.mandatory.withDefault false .truth fields
      <*> FieldName.points.withDefault none (.optional .count) fields
      <*> FieldName.correctAnswers.withDefault [] (.list .text) fields

/-- The section of a JSON value. -/
def FormSection.read : Json → Reading FormSection :=
  Reading.object source "FormSection" fun fields =>
    FormSection.mk
      <$> FieldName.title.required .text fields
      <*> FieldName.description.withDefault none (.optional .text) fields
      <*> FieldName.questions.withDefault [] (.list (Question.read source)) fields

/-- The quiz settings of a JSON value. -/
def QuizSettings.read : Json → Reading QuizSettings :=
  Reading.object source "QuizSettings" fun fields =>
    QuizSettings.mk
      <$> FieldName.releaseImmediately.withDefault false .truth fields
      <*> FieldName.showCorrectAnswers.withDefault false .truth fields
      <*> FieldName.showPointValues.withDefault false .truth fields

/-- The definition of a JSON value. -/
def Definition.read : Json → Reading Definition :=
  Reading.object source "FormDefinition" fun fields =>
    Definition.mk
      <$> FieldName.title.required .text fields
      <*> FieldName.description.withDefault none (.optional .text) fields
      <*> FieldName.sections.withDefault [] (.list (FormSection.read source)) fields
      <*> FieldName.isQuiz.withDefault false .truth fields
      <*> FieldName.quizSettings.withDefault none (.optional (QuizSettings.read source)) fields

/-! ## Writing -/

/-- Points, or `null`. -/
def pointsJson : Option Nat → Json
  | some points => .int points
  | none => .null

variable (name : FieldName → String)

/-- A question under the chosen member names. -/
def Question.toJson (q : Question) : Json :=
  .obj [
    (name .title, .str q.title),
    (name .kind, .str q.kind.name),
    (name .options, .texts q.options),
    (name .imageUrl, .ofText? q.imageUrl),
    (name .mandatory, .bool q.required),
    (name .points, pointsJson q.points),
    (name .correctAnswers, .texts q.correctAnswers)]

/-- A section under the chosen member names. -/
def FormSection.toJson (s : FormSection) : Json :=
  .obj [
    (name .title, .str s.title),
    (name .description, .ofText? s.description),
    (name .questions, .arr (s.questions.map (Question.toJson name)))]

/-- Quiz settings under the chosen member names. -/
def QuizSettings.toJson (settings : QuizSettings) : Json :=
  .obj [
    (name .releaseImmediately, .bool settings.releaseImmediately),
    (name .showCorrectAnswers, .bool settings.showCorrectAnswers),
    (name .showPointValues, .bool settings.showPointValues)]

/-- A definition under the chosen member names. -/
def Definition.toJson (d : Definition) : Json :=
  .obj [
    (name .title, .str d.title),
    (name .description, .ofText? d.description),
    (name .sections, .arr (d.sections.map (FormSection.toJson name))),
    (name .isQuiz, .bool d.isQuiz),
    (name .quizSettings,
      match d.quizSettings with
      | some settings => settings.toJson name
      | none => .null)]

/-- The dump of a definition by alias, as the endpoints and tools answer it. -/
def Definition.document (d : Definition) : Json := d.toJson FieldName.wire

end Formwork
