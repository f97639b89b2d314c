import Formwork.Plan.Request
import Formwork.Proofs.Json.Same

/-!
# What a request determines of its operation

`to_request` leaves out what is `None`, and an empty image source and an empty page-break description as well;
`Operation.clean` makes those `None` in the operation.  The request determines the rest: operations with the same
request, in any order of its members, are equal after cleaning (`Operation.clean_eq_of_same`).  Conversely cleaning
does not change the request, so requests are the same exactly if the clean operations are equal
(`Operation.same_request_iff`).

There is one lemma for every part of an operation.  A part is looked up in the request of the whole under its key.
-/
namespace Formwork
open Json (Same)

/-! ### Clean operations -/

/-- The image with a source that is `None` or not empty. -/
def ItemImage.clean (image : ItemImage) : ItemImage :=
  { image with sourceUri := Text.nonempty? image.sourceUri }

/-- The question item with a clean image. -/
def QuestionItem.clean (item : QuestionItem) : QuestionItem :=
  { item with image := item.image.map ItemImage.clean }

/-- The item without empty sources and descriptions. -/
def Item.clean : Item → Item
  | question title item => .question title item.clean
  | image title picture => .image title picture.clean
  | pageBreak title description => .pageBreak title (Text.nonempty? description)

/-- The operation without empty sources and descriptions. -/
def Operation.clean : Operation → Operation
  | createItem item index => .createItem item.clean index
  | updateSettings quiz => .updateSettings quiz

/-! ### Requests of clean operations -/

theorem nonempty?_nonempty? (text : Option String) :
    Text.nonempty? (Text.nonempty? text) = Text.nonempty? text := by
  cases text with
  | none => rfl
  | some text => by_cases h : text = "" <;> simp [Text.nonempty?, h]

theorem ItemImage.request_clean (image : ItemImage) : image.clean.request = image.request := by
  simp only [request, clean, nonempty?_nonempty?]

theorem QuestionItem.request_clean (item : QuestionItem) : item.clean.request = item.request := by
  unfold request clean
  cases item.image with
  | none => rfl
  | some image => simp only [Option.map_some, ItemImage.request_clean]

theorem Item.request_clean (item : Item) : item.clean.request = item.request := by
  cases item with
  | question title item => rw [clean, request, request, QuestionItem.request_clean]
  | image title picture => rw [clean, request, request, ItemImage.request_clean]
  | pageBreak title description => simp only [clean, request, nonempty?_nonempty?]

/-! ### Parts of questions -/

/-- An optional text is determined by its member, up to an empty text. -/
theorem nonempty?_eq_of_rel {a b : Option String} {name : String}
    (h : Option.Rel Same
      (Fields.get? name (match Text.nonempty? a with | some text => [(name, .str text)] | none => []))
      (Fields.get? name (match Text.nonempty? b with | some text => [(name, .str text)] | none => []))) :
    Text.nonempty? a = Text.nonempty? b := by
  revert h
  rcases Text.nonempty? a with _ | s <;> rcases Text.nonempty? b with _ | t <;>
    simp [Fields.get?]

theorem ItemImage.clean_eq_of_same {a b : ItemImage} (h : Same a.request b.request) :
    a.clean = b.clean := by
  have hsource : Text.nonempty? a.sourceUri = Text.nonempty? b.sourceUri :=
    nonempty?_eq_of_rel (h.at "sourceUri")
  have hproperties : Same (.obj [("alignment", .str a.alignment)])
      (.obj [("alignment", .str b.alignment)]) := by
    simpa [Fields.get?] using h.at "properties"
  have hplace : a.alignment = b.alignment := by
    simpa [Fields.get?] using hproperties.at "alignment"
  unfold clean
  rw [hsource, hplace]

theorem eq_of_same_answerValues {answers more : List String}
    (h : Same (answerValues answers) (answerValues more)) : answers = more := by
  rw [answerValues, answerValues, Json.same_arr, List.forall₂_map_left_iff,
    List.forall₂_map_right_iff] at h
  rw [← List.forall₂_eq_eq_eq]
  refine h.imp fun answer other hvalue => ?_
  simpa [Fields.get?] using hvalue.at "value"

theorem Grading.eq_of_same {a b : Grading} (h : Same a.request b.request) : a = b := by
  have hpoints : a.pointValue = b.pointValue := by
    simpa [Fields.get?] using h.at "pointValue"
  have hcorrect : Same (.obj [("answers", answerValues a.correctAnswers)])
      (.obj [("answers", answerValues b.correctAnswers)]) := by
    simpa [Fields.get?] using h.at "correctAnswers"
  have hanswers : a.correctAnswers = b.correctAnswers :=
    eq_of_same_answerValues (by simpa [Fields.get?] using hcorrect.at "answers")
  show (⟨a.pointValue, a.correctAnswers⟩ : Grading) = ⟨b.pointValue, b.correctAnswers⟩
  rw [hpoints, hanswers]

theorem ChoiceType.eq_of_name {a b : ChoiceType} (h : a.name = b.name) : a = b := by
  cases a <;> cases b <;> first | rfl | exact absurd h (by decide)

/-- The body of a question is determined by the one member with its key, whatever other members follow. -/
theorem QuestionBody.eq_of_rel {a b : QuestionBody} {fields more : Fields}
    (hnoText : Fields.get? "textQuestion" fields = none)
    (hnoOther : Fields.get? "textQuestion" more = none)
    (htext : Option.Rel Same (Fields.get? "textQuestion" (a.request :: fields))
      (Fields.get? "textQuestion" (b.request :: more)))
    (hchoice : Option.Rel Same (Fields.get? "choiceQuestion" (a.request :: fields))
      (Fields.get? "choiceQuestion" (b.request :: more))) : a = b := by
  cases a with
  | text paragraph =>
    cases b with
    | text other =>
      have hobject : Same (.obj [("paragraph", .bool paragraph)])
          (.obj [("paragraph", .bool other)]) := by
        simpa [request, Fields.get?] using htext
      have hparagraph : paragraph = other := by
        simpa [Fields.get?] using hobject.at "paragraph"
      rw [hparagraph]
    | choice type options => simp [request, Fields.get?, hnoOther] at htext
  | choice type options =>
    cases b with
    | text other => simp [request, Fields.get?, hnoText] at htext
    | choice otherType more =>
      have hobject : Same
          (.obj [("type", .str type.name), ("options", answerValues options)])
          (.obj [("type", .str otherType.name), ("options", answerValues more)]) := by
        simpa [request, Fields.get?] using hchoice
      have htype : type = otherType :=
        ChoiceType.eq_of_name (by simpa [Fields.get?] using hobject.at "type")
      have hoptions : options = more :=
        eq_of_same_answerValues (by simpa [Fields.get?] using hobject.at "options")
      rw [htype, hoptions]

/-- The member of a grading. -/
def gradingFields : Option Grading → Fields
  | some grading => [("grading", grading.request)]
  | none => []

/-- The member of an image. -/
def imageFields : Option ItemImage → Fields
  | some image => [("image", image.request)]
  | none => []

theorem QuestionItem.request_eq (item : QuestionItem) :
    item.request = .obj (("question", .obj (("required", .bool item.required)
      :: item.question.request :: gradingFields item.grading)) :: imageFields item.image) := by
  unfold request gradingFields imageFields
  rcases item.grading with _ | grading <;> rcases item.image with _ | image <;> rfl

theorem eq_of_rel_gradingFields {a b : Option Grading}
    (h : Option.Rel Same (Fields.get? "grading" (gradingFields a))
      (Fields.get? "grading" (gradingFields b))) : a = b := by
  rcases a with _ | a <;> rcases b with _ | b
  · rfl
  · simp [gradingFields, Fields.get?] at h
  · simp [gradingFields, Fields.get?] at h
  · have hsame : Same a.request b.request := by simpa [gradingFields, Fields.get?] using h
    rw [Grading.eq_of_same hsame]

theorem clean_eq_of_rel_imageFields {a b : Option ItemImage}
    (h : Option.Rel Same (Fields.get? "image" (imageFields a))
      (Fields.get? "image" (imageFields b))) :
    a.map ItemImage.clean = b.map ItemImage.clean := by
  rcases a with _ | a <;> rcases b with _ | b
  · rfl
  · simp [imageFields, Fields.get?] at h
  · simp [imageFields, Fields.get?] at h
  · have hsame : Same a.request b.request := by simpa [imageFields, Fields.get?] using h
    rw [Option.map_some, Option.map_some, ItemImage.clean_eq_of_same hsame]

/-- The key of a grading is not the key of a body, and conversely. -/
theorem get?_textQuestion_gradingFields (grading : Option Grading) :
    Fields.get? "textQuestion" (gradingFields grading) = none := by
  cases grading <;> rfl

theorem get?_grading_cons (body : QuestionBody) (fields : Fields) :
    Fields.get? "grading" (body.request :: fields) = Fields.get? "grading" fields := by
  cases body <;> rfl

theorem QuestionItem.clean_eq_of_same {a b : QuestionItem} (h : Same a.request b.request) :
    a.clean = b.clean := by
  rw [request_eq, request_eq] at h
  have hquestion : Same
      (.obj (("required", .bool a.required) :: a.question.request :: gradingFields a.grading))
      (.obj (("required", .bool b.required) :: b.question.request :: gradingFields b.grading)) := by
    simpa [Fields.get?] using h.at "question"
  have hrequired : a.required = b.required := by
    simpa [Fields.get?] using hquestion.at "required"
  have hbody : a.question = b.question :=
    QuestionBody.eq_of_rel (get?_textQuestion_gradingFields a.grading)
      (get?_textQuestion_gradingFields b.grading) (hquestion.at "textQuestion")
      (hquestion.at "choiceQuestion")
  have hgrading : a.grading = b.grading := by
    refine eq_of_rel_gradingFields ?_
    rw [← get?_grading_cons a.question (gradingFields a.grading),
      ← get?_grading_cons b.question (gradingFields b.grading)]
    exact hquestion.at "grading"
  have himage : a.image.map ItemImage.clean = b.image.map ItemImage.clean :=
    clean_eq_of_rel_imageFields (h.at "image")
  unfold clean
  rw [hrequired, hbody, hgrading, himage]

/-! ### Items -/

theorem Item.title_eq_of_same {fields more : Fields} {title other : String}
    (h : Same (.obj (("title", .str title) :: fields)) (.obj (("title", .str other) :: more))) :
    title = other := by
  simpa [Fields.get?] using h.at "title"

/-- The items of different classes have different keys. -/
theorem Item.clean_eq_of_same {a b : Item} (h : Same a.request b.request) : a.clean = b.clean := by
  cases a with
  | question title item =>
    cases b with
    | question other more =>
      have hitem : Same item.request more.request := by
        simpa [Fields.get?] using h.at "questionItem"
      rw [clean, clean, title_eq_of_same h, QuestionItem.clean_eq_of_same hitem]
    | image other picture => simpa [Fields.get?] using h.at "imageItem"
    | pageBreak other description => simpa [Fields.get?] using h.at "pageBreakItem"
  | image title picture =>
    cases b with
    | question other more => simpa [Fields.get?] using h.at "questionItem"
    | image other more =>
      have hobject : Same (.obj [("image", picture.request)]) (.obj [("image", more.request)]) := by
        simpa [Fields.get?] using h.at "imageItem"
      have hpicture : Same picture.request more.request := by
        simpa [Fields.get?] using hobject.at "image"
      rw [clean, clean, title_eq_of_same h, ItemImage.clean_eq_of_same hpicture]
    | pageBreak other description => simpa [Fields.get?] using h.at "pageBreakItem"
  | pageBreak title description =>
    cases b with
    | question other more => simpa [Fields.get?] using h.at "pageBreakItem"
    | image other picture => simpa [Fields.get?] using h.at "pageBreakItem"
    | pageBreak other more =>
      rw [clean, clean, title_eq_of_same h, nonempty?_eq_of_rel (h.at "description")]

/-! ### Settings -/

theorem GradePolicy.eq_of_same {a b : GradePolicy} (h : Same a.request b.request) : a = b := by
  have hscore : (if a.scoreReleased then "RELEASED" else "NOT_RELEASED") =
      if b.scoreReleased then "RELEASED" else "NOT_RELEASED" := by
    simpa [Fields.get?] using h.at "score"
  have hreleased : a.scoreReleased = b.scoreReleased := by
    revert hscore
    cases a.scoreReleased <;> cases b.scoreReleased <;> decide
  have hcorrect : a.correctAnswersShown = b.correctAnswersShown := by
    simpa [Fields.get?] using h.at "correctAnswersShown"
  have hpoints : a.pointsShown = b.pointsShown := by
    simpa [Fields.get?] using h.at "pointsShown"
  show (⟨a.scoreReleased, a.correctAnswersShown, a.pointsShown⟩ : GradePolicy) =
    ⟨b.scoreReleased, b.correctAnswersShown, b.pointsShown⟩
  rw [hreleased, hcorrect, hpoints]

theorem QuizUpdate.eq_of_same {a b : QuizUpdate} (h : Same a.request b.request) : a = b := by
  have hquiz : a.isQuiz = b.isQuiz := by
    simpa [Fields.get?] using h.at "isQuiz"
  have hgrade : a.grade = b.grade := by
    have hmember := h.at "grade"
    generalize a.grade = grade, b.grade = other at hmember ⊢
    rcases grade with _ | grade <;> rcases other with _ | other
    · rfl
    · simp [Fields.get?] at hmember
    · simp [Fields.get?] at hmember
    · have hsame : Same grade.request other.request := by simpa [Fields.get?] using hmember
      rw [GradePolicy.eq_of_same hsame]
  show (⟨a.isQuiz, a.grade⟩ : QuizUpdate) = ⟨b.isQuiz, b.grade⟩
  rw [hquiz, hgrade]

/-! ### Operations -/

/-- **Operations with the same request are equal after cleaning.** -/
theorem Operation.clean_eq_of_same {a b : Operation} (h : Same a.request b.request) :
    a.clean = b.clean := by
  cases a with
  | createItem item index =>
    cases b with
    | createItem other place =>
      have hobject : Same
          (.obj [("item", item.request), ("location", .obj [("index", .int index)])])
          (.obj [("item", other.request), ("location", .obj [("index", .int place)])]) := by
        simpa [Fields.get?] using h.at "createItem"
      have hitem : Same item.request other.request := by
        simpa [Fields.get?] using hobject.at "item"
      have hlocation : Same (.obj [("index", .int index)]) (.obj [("index", .int place)]) := by
        simpa [Fields.get?] using hobject.at "location"
      have hindex : index = place := by
        simpa [Fields.get?] using hlocation.at "index"
      rw [clean, clean, Item.clean_eq_of_same hitem, hindex]
    | updateSettings quiz => simpa [Fields.get?] using h.at "createItem"
  | updateSettings quiz =>
    cases b with
    | createItem item index => simpa [Fields.get?] using h.at "createItem"
    | updateSettings other =>
      have hobject : Same
          (.obj [("settings", .obj [("quizSettings", quiz.request)]),
            ("updateMask", .str quiz.mask)])
          (.obj [("settings", .obj [("quizSettings", other.request)]),
            ("updateMask", .str other.mask)]) := by
        simpa [Fields.get?] using h.at "updateSettings"
      have hsettings : Same (.obj [("quizSettings", quiz.request)])
          (.obj [("quizSettings", other.request)]) := by
        simpa [Fields.get?] using hobject.at "settings"
      have hquiz : Same quiz.request other.request := by
        simpa [Fields.get?] using hsettings.at "quizSettings"
      rw [QuizUpdate.eq_of_same hquiz]

/-- Empty texts are left out of a request like absent ones. -/
theorem Operation.request_clean (op : Operation) : op.clean.request = op.request := by
  cases op with
  | createItem item index => rw [clean, request, request, Item.request_clean]
  | updateSettings quiz => rfl

/-- **A request determines its operation up to empty texts.**  Two operations have the same request, in any order
of its members, exactly if they are equal after cleaning; and then the order of the members is the same, too. -/
theorem Operation.same_request_iff (a b : Operation) :
    (Same a.request b.request ↔ a.clean = b.clean) ∧ (a.request = b.request ↔ a.clean = b.clean) := by
  have hequal : a.clean = b.clean → a.request = b.request := by
    intro h
    rw [← a.request_clean, h, b.request_clean]
  constructor
  · exact ⟨clean_eq_of_same, fun h => Json.same_of_eq (hequal h)⟩
  · exact ⟨fun h => clean_eq_of_same (Json.same_of_eq h), hequal⟩

theorem Plan.clean_eq_of_same {plan other : Plan}
    (h : Same (.arr plan.requests) (.arr other.requests)) :
    plan.map Operation.clean = other.map Operation.clean := by
  rw [requests, requests, Json.same_arr, List.forall₂_map_left_iff,
    List.forall₂_map_right_iff] at h
  rw [← List.forall₂_eq_eq_eq, List.forall₂_map_left_iff, List.forall₂_map_right_iff]
  exact h.imp fun a b hab => Operation.clean_eq_of_same hab

end Formwork
