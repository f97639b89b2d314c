import Formwork.Definition.Basic
import Formwork.Text.Blank
import Formwork.Text.Display
/-!
# Validation

`Definition.validate` models `validate_definition`.  The checks run in order: the title is not blank, there is a
section, every section has a question, every choice question has an option; `Definition.defect?` is the first one
that fails.  A definition that passes is normalized: blank descriptions and image addresses become absent, quiz
settings are kept for quizzes only, and correct answers are kept for choice questions only, once each and only where
they are options.  Dropped answers are reported.
-/
namespace Formwork

/-- The first check that fails.  Sections and questions are counted from zero. -/
inductive Defect
  | blankTitle
  | noSections
  /-- A section with this title and no questions. -/
  | noQuestions (sectionIndex : Nat) (title : String)
  /-- A choice question with this title and no options. -/
  | noOptions (sectionIndex questionIndex : Nat) (title : String)
deriving DecidableEq, Inhabited

namespace Defect

/-- The path of a question in messages. -/
def questionPath (sectionIndex questionIndex : Nat) : String :=
  s!"sections[{sectionIndex}].questions[{questionIndex}]"

/-- The `field` of the error. -/
def field : Defect → String
  | blankTitle => "title"
  | noSections => "sections"
  | noQuestions i _ => s!"sections[{i}].questions"
  | noOptions i j _ => questionPath i j ++ ".options"

/-- The `reason` of the error. -/
def reason : Defect → String
  | blankTitle => "Form title must not be empty"
  | noSections => "Form must have at least one section"
  | noQuestions _ title => s!"Section {Text.display title} has no questions"
  | noOptions _ _ title => s!"Choice question {Text.display title} needs at least one option"

end Defect

/-- A correct answer that is none of the options of its question. -/
structure DroppedAnswer where
  /-- The section of the question. -/
  sectionIndex : Nat
  /-- The question within the section. -/
  questionIndex : Nat
  /-- The answer. -/
  answer : String
deriving DecidableEq, Inhabited

/-- The warning about a dropped answer. -/
def DroppedAnswer.message (dropped : DroppedAnswer) : String :=
  s!"{Defect.questionPath dropped.sectionIndex dropped.questionIndex}: dropping correct answer "
    ++ s!"{Text.display dropped.answer} not among options"

namespace Question

/-- Whether the question is a choice question without options. -/
def lacksOptions (q : Question) : Bool := q.kind.isChoice && q.options.isEmpty

/-- The answers that are kept after `kept`: options only, each once. -/
def keepAnswers (options : List String) (kept : List String) : List String → List String
  | [] => kept
  | answer :: rest =>
    if options.contains answer && !kept.contains answer then
      keepAnswers options (kept ++ [answer]) rest
    else
      keepAnswers options kept rest

/-- The correct answers that are options, each once. -/
def validAnswers (q : Question) : List String :=
  if q.kind.isChoice then keepAnswers q.options [] q.correctAnswers else []

/-- The correct answers that are no options, with repetitions. -/
def strayAnswers (q : Question) : List String :=
  if q.kind.isChoice then q.correctAnswers.filter fun answer => !q.options.contains answer else []

/-- The normal form of a question (`_normalize_question`). -/
def normalize (q : Question) : Question :=
  { q with imageUrl := Text.present? q.imageUrl, correctAnswers := q.validAnswers }

end Question

/-- The normal form of a section. -/
def FormSection.normalize (s : FormSection) : FormSection :=
  { s with
    description := Text.present? s.description
    questions := s.questions.map Question.normalize }

namespace Definition

/-- The first section without questions. -/
def emptySection? (d : Definition) : Option Defect :=
  d.sections.zipIdx.findSome? fun (s, i) =>
    if s.questions.isEmpty then some (.noQuestions i s.title) else none

/-- The first choice question without options. -/
def optionless? (d : Definition) : Option Defect :=
  d.sections.zipIdx.findSome? fun (s, i) =>
    s.questions.zipIdx.findSome? fun (q, j) =>
      if q.lacksOptions then some (.noOptions i j q.title) else none

/-- The first check that the definition fails. -/
def defect? (d : Definition) : Option Defect :=
  if Text.isBlankText d.title then some .blankTitle
  else if d.sections.isEmpty then some .noSections
  else d.emptySection?.or d.optionless?

/-- The normal form of a definition. -/
def normalize (d : Definition) : Definition :=
  { d with
    description := Text.present? d.description
    sections := d.sections.map FormSection.normalize
    quizSettings := if d.isQuiz then d.quizSettings else none }

/-- The answers that normalizing drops, in order. -/
def droppedAnswers (d : Definition) : List DroppedAnswer :=
  d.sections.zipIdx.flatMap fun (s, i) =>
    s.questions.zipIdx.flatMap fun (q, j) => q.strayAnswers.map (DroppedAnswer.mk i j)

/-- The normal form of a definition that passes every check (`validate_definition`). -/
def validate (d : Definition) : Except Defect Definition :=
  match d.defect? with
  | some defect => .error defect
  | none => .ok d.normalize

end Definition
end Formwork
