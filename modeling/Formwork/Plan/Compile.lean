import Formwork.Definition.Basic
import Formwork.Plan.Basic
import Formwork.Text.Blank
/-!
# Compiling mutation plans

`Definition.plan` models `compile_mutations`: quiz settings first, then the items section by section, with a page
break that carries the title of the next section between sections.  Every item takes the next insertion index.
-/
namespace Formwork

/-- The body of a question (`_question_body`); an unknown kind is a short answer. -/
def Question.planBody (q : Question) : QuestionBody :=
  match q.kind with
  | .known .shortAnswer => .text false
  | .known .paragraph => .text true
  | .known .multipleChoice => .choice .radio q.options
  | .known .checkboxes => .choice .checkbox q.options
  | _ => .text false

/-- The grading of a question that has points. -/
def Question.planGrading (q : Question) : Option Grading :=
  match q.points with
  | some (n + 1) => some ⟨(n + 1 : Nat), q.correctAnswers⟩
  | _ => none

/-- The image beside a question. -/
def Question.planImage (q : Question) : Option ItemImage :=
  (Text.nonempty? q.imageUrl).map fun url => { sourceUri := some url }

/-- The item of a question (`map_question`). -/
def Question.planItem (q : Question) : Item :=
  if q.kind.isImage then .image q.title { sourceUri := q.imageUrl }
  else .question q.title ⟨q.required, q.planBody, q.planGrading, q.planImage⟩

/-- The grade policy of quiz settings. -/
def QuizSettings.planGrade (settings : QuizSettings) : GradePolicy :=
  ⟨settings.releaseImmediately, settings.showCorrectAnswers, settings.showPointValues⟩

/-- The page break in front of a section. -/
def FormSection.planPageBreak (s : FormSection) : Item := .pageBreak s.title s.description

namespace Plan

/-- The operations that insert items from an index on. -/
def insertions (index : Nat) : List Item → Plan
  | [] => []
  | item :: rest => .createItem item index :: insertions (index + 1) rest

/-- The operations of the sections, the first item of which goes to this index. -/
def sections (index : Nat) : List FormSection → Plan
  | [] => []
  | s :: rest =>
    let next := index + s.questions.length
    insertions index (s.questions.map Question.planItem)
      ++ match rest with
        | [] => []
        | following :: _ => .createItem following.planPageBreak next :: sections (next + 1) rest

end Plan

/-- The operations that build the form (`compile_mutations`). -/
def Definition.plan (d : Definition) : Plan :=
  (if d.isQuiz then [.updateSettings ⟨true, d.quizSettings.map QuizSettings.planGrade⟩] else [])
    ++ Plan.sections 0 d.sections

end Formwork
