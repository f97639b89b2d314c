import Formwork.Proofs.Definition.Normalizing
import Formwork.Proofs.Plan.Content

/-!
# Consistent plans

A batchUpdate is atomic, so one invalid item rejects the whole form.  `Operation.Consistent` states what an operation
must satisfy: choice questions have options, a grading has points and fits its question, and texts that are sent are
not blank.  Image items and page breaks have no question, and no member about answers anywhere in their requests
(`Json.Lacks`).

For a validated definition this follows from normalization: its answers are options, once each, and none of its texts
are blank.  The plan takes them over question by question (`Question.consistent_planItem`).
-/
namespace Formwork

/-- No object in the value has a member with this key. -/
inductive Json.Lacks (name : String) : Json → Prop
  | null : Lacks name .null
  | bool (value : Bool) : Lacks name (.bool value)
  | int (value : Int) : Lacks name (.int value)
  | float (value : Binary64) : Lacks name (.float value)
  | str (value : String) : Lacks name (.str value)
  | arr {items : List Json} (h : ∀ item ∈ items, Lacks name item) : Lacks name (.arr items)
  | obj {fields : Fields} (absent : name ∉ fields.names) (h : ∀ field ∈ fields, Lacks name field.2) :
      Lacks name (.obj fields)

/-! ### Conditions on an operation -/

/-- A grading that fits the body of the question. -/
structure Grading.Fits (grading : Grading) (body : QuestionBody) : Prop where
  worth : 1 ≤ grading.pointValue
  distinct : grading.correctAnswers.Nodup
  /-- A text question has no correct answers. -/
  text : ∀ paragraph, body = .text paragraph → grading.correctAnswers = []
  choice : ∀ type options, body = .choice type options → ∀ answer ∈ grading.correctAnswers, answer ∈ options

/-- A question item with a valid body, a grading that fits and an image with a source. -/
structure QuestionItem.Consistent (item : QuestionItem) : Prop where
  options : ∀ type options, item.question = .choice type options → options ≠ []
  grading : ∀ grading, item.grading = some grading → grading.Fits item.question
  image : ∀ image, item.image = some image →
    ∃ uri, image.request.get? "sourceUri" = some (.str uri) ∧ Text.strip uri ≠ ""

/-- An item without a question: its request has neither `required` nor `grading`. -/
def Item.Unanswered (item : Item) : Prop :=
  item.request.Lacks "required" ∧ item.request.Lacks "grading"

/-- A valid item. -/
inductive Item.Consistent : Item → Prop
  | question (title : String) {item : QuestionItem} (h : item.Consistent) : Consistent (.question title item)
  | image {title : String} {image : ItemImage} (unanswered : Unanswered (.image title image)) :
      Consistent (.image title image)
  | pageBreak {title : String} {description : Option String}
      (unanswered : Unanswered (.pageBreak title description))
      (present : ∀ text, (Item.pageBreak title description).request.get? "description" = some (.str text) →
        Text.strip text ≠ "") : Consistent (.pageBreak title description)

/-- A valid operation. -/
def Operation.Consistent : Operation → Prop
  | createItem item _ => item.Consistent
  | updateSettings _ => True

/-! ### Texts -/

namespace Text

variable {text? : Option String} {text : String}

theorem strip_ne_of_present? (h : present? text? = some text) : strip text ≠ "" := by
  cases text? with
  | none => cases h
  | some found =>
    rw [present?] at h
    split at h
    · cases h
    · rename_i hblank
      cases h
      exact mt (isBlankText_iff text).mpr hblank

theorem nonempty?_eq_some (h : nonempty? text? = some text) : text? = some text ∧ text ≠ "" := by
  cases text? with
  | none => cases h
  | some found =>
    rw [nonempty?] at h
    split at h
    · cases h
    · rename_i hempty
      cases h
      exact ⟨rfl, hempty⟩

end Text

/-! ### Questions -/

namespace Question

variable {q : Question}

theorem present?_imageUrl (h : q.normalize = q) : Text.present? q.imageUrl = q.imageUrl :=
  congrArg imageUrl h

theorem validAnswers_of_normal (h : q.normalize = q) : q.validAnswers = q.correctAnswers :=
  congrArg correctAnswers h

theorem nodup_validAnswers (q : Question) : q.validAnswers.Nodup := by
  by_cases hchoice : q.kind.isChoice = true
  · rw [validAnswers_eq q hchoice]
    exact nodup_eraseDups _
  · rw [validAnswers, if_neg hchoice]
    exact List.nodup_nil

/-- A choice body has the options of the question, and a text body belongs to no choice question. -/
theorem planBody_cases (q : Question) :
    (∃ type, q.planBody = .choice type q.options ∧ q.kind.isChoice = true) ∨
      ∃ paragraph, q.planBody = .text paragraph ∧ q.kind.isChoice = false := by
  unfold planBody
  rcases q.kind with kind | word
  · cases kind with
    | multipleChoice => exact Or.inl ⟨_, rfl, rfl⟩
    | checkboxes => exact Or.inl ⟨_, rfl, rfl⟩
    | _ => exact Or.inr ⟨_, rfl, rfl⟩
  · exact Or.inr ⟨_, rfl, rfl⟩

/-- **The grading of a normalized question has its correct answers**, and they fit. -/
theorem fits_planGrading (hnormal : q.normalize = q) {grading : Grading}
    (h : q.planGrading = some grading) : grading.Fits q.planBody := by
  obtain ⟨hworth, hgrading⟩ := planGrading_eq_some_iff.mp h
  have hanswers : grading.correctAnswers = q.correctAnswers := congrArg Grading.correctAnswers hgrading
  have hkept : ∀ answer ∈ grading.correctAnswers, answer ∈ q.options ∧ q.kind.isChoice = true := by
    rw [hanswers, ← validAnswers_of_normal hnormal]
    exact q.normal_normalize.answers
  refine ⟨?_, ?_, fun paragraph hbody => ?_, fun type options hbody answer hanswer => ?_⟩
  · rw [hgrading]
    exact Int.ofNat_le.mpr hworth
  · rw [hanswers, ← validAnswers_of_normal hnormal]
    exact q.nodup_validAnswers
  · rcases q.planBody_cases with ⟨type, hchoice, -⟩ | ⟨_, -, hwords⟩
    · rw [hchoice] at hbody
      cases hbody
    · refine List.eq_nil_iff_forall_not_mem.mpr fun answer hanswer => ?_
      rw [(hkept answer hanswer).2] at hwords
      cases hwords
  · rcases q.planBody_cases with ⟨_, hchoice, -⟩ | ⟨paragraph, hwords, -⟩
    · rw [hchoice] at hbody
      cases hbody
      exact (hkept answer hanswer).1
    · rw [hwords] at hbody
      cases hbody

theorem sourceUri_planImage (hnormal : q.normalize = q) {image : ItemImage}
    (h : q.planImage = some image) :
    ∃ uri, image.request.get? "sourceUri" = some (.str uri) ∧ Text.strip uri ≠ "" := by
  obtain ⟨uri, huri, rfl⟩ := Option.map_eq_some_iff.mp h
  obtain ⟨hurl, hempty⟩ := Text.nonempty?_eq_some huri
  have hpresent : Text.present? q.imageUrl = some uri := (present?_imageUrl hnormal).trans hurl
  refine ⟨uri, ?_, Text.strip_ne_of_present? hpresent⟩
  simp [ItemImage.request, Text.nonempty?, hempty, Json.get?, Json.fields?, Fields.get?]

end Question

/-! ### Items -/

theorem ItemImage.lacks_request {name : String} (h : name ∉ ["properties", "alignment", "sourceUri"])
    (image : ItemImage) : image.request.Lacks name := by
  simp only [List.mem_cons, List.not_mem_nil, or_false, not_or] at h
  have hproperties : (Json.obj [("alignment", .str image.alignment)]).Lacks name :=
    .obj (by simpa [Fields.names] using h.2.1) (List.forall_mem_singleton.mpr (.str _))
  unfold ItemImage.request
  split
  · exact .obj (by simp [Fields.names, h])
      (List.forall_mem_cons.mpr ⟨hproperties, List.forall_mem_singleton.mpr (.str _)⟩)
  · exact .obj (by simp [Fields.names, h]) (List.forall_mem_singleton.mpr hproperties)

namespace Item

theorem unanswered_image (title : String) (image : ItemImage) : Unanswered (.image title image) := by
  have hlacks : ∀ name, name ∉ ["title", "imageItem", "image", "properties", "alignment", "sourceUri"] →
      (Item.image title image).request.Lacks name := by
    intro name h
    simp only [List.mem_cons, List.not_mem_nil, or_false, not_or] at h
    have hpicture : (Json.obj [("image", image.request)]).Lacks name :=
      .obj (by simpa [Fields.names] using h.2.2.1)
        (List.forall_mem_singleton.mpr (ItemImage.lacks_request (by simp [h]) image))
    exact .obj (by simp [Fields.names, h])
      (List.forall_mem_cons.mpr ⟨.str _, List.forall_mem_singleton.mpr hpicture⟩)
  exact ⟨hlacks _ (by decide), hlacks _ (by decide)⟩

theorem request_pageBreak (title : String) (description : Option String) :
    (Item.pageBreak title description).request =
      .obj (("title", .str title) :: ("pageBreakItem", .obj []) ::
        (Text.nonempty? description).toList.map fun text => ("description", .str text)) := by
  simp only [request]
  cases Text.nonempty? description with
  | some text => rfl
  | none => rfl

theorem unanswered_pageBreak (title : String) (description : Option String) :
    Unanswered (.pageBreak title description) := by
  have hlacks : ∀ name, name ∉ ["title", "pageBreakItem", "description"] →
      (Item.pageBreak title description).request.Lacks name := by
    intro name h
    simp only [List.mem_cons, List.not_mem_nil, or_false, not_or] at h
    have hbreak : (Json.obj []).Lacks name := .obj List.not_mem_nil (List.forall_mem_nil _)
    rw [request_pageBreak]
    cases Text.nonempty? description with
    | some text =>
      exact .obj (by simp [Fields.names, h]) (List.forall_mem_cons.mpr ⟨.str _,
        List.forall_mem_cons.mpr ⟨hbreak, List.forall_mem_singleton.mpr (.str _)⟩⟩)
    | none =>
      exact .obj (by simp [Fields.names, h])
        (List.forall_mem_cons.mpr ⟨.str _, List.forall_mem_singleton.mpr hbreak⟩)
  exact ⟨hlacks _ (by decide), hlacks _ (by decide)⟩

end Item

/-- **The item of a normalized question is consistent**, if a choice question has options. -/
theorem Question.consistent_planItem {q : Question} (hnormal : q.normalize = q)
    (hoptions : ¬ q.IsOptionless) : q.planItem.Consistent := by
  cases himage : q.kind.isImage with
  | true =>
    rw [planItem_of_isImage himage]
    exact .image (Item.unanswered_image _ _)
  | false =>
    rw [planItem_of_not_isImage himage]
    refine .question q.title ⟨fun type options hbody hnone => ?_, fun grading hgrading => ?_,
      fun image hpicture => ?_⟩
    · rcases q.planBody_cases with ⟨_, hchoice, hkind⟩ | ⟨paragraph, hwords, -⟩
      · replace hbody : q.planBody = .choice type options := hbody
        rw [hchoice] at hbody
        cases hbody
        exact hoptions ⟨q.kind.isChoice_iff.mp hkind, hnone⟩
      · replace hbody : q.planBody = .choice type options := hbody
        rw [hwords] at hbody
        cases hbody
    · exact fits_planGrading hnormal hgrading
    · exact sourceUri_planImage hnormal hpicture

/-- The page break of a normalized section has no description, or one that is not blank. -/
theorem FormSection.consistent_planPageBreak {s : FormSection} (hnormal : s.normalize = s) :
    s.planPageBreak.Consistent := by
  refine .pageBreak (Item.unanswered_pageBreak _ _) fun text h => ?_
  have hpresent : Text.present? s.description = s.description := congrArg FormSection.description hnormal
  have hshown : Text.nonempty? s.description = some text := by
    rw [Item.request_pageBreak] at h
    cases hshown : Text.nonempty? s.description with
    | some shown => simpa [hshown, Json.get?, Json.fields?, Fields.get?] using h
    | none => simp [hshown, Json.get?, Json.fields?, Fields.get?] at h
  exact Text.strip_ne_of_present? (hpresent.trans (Text.nonempty?_eq_some hshown).1)

namespace Definition

variable {d e : Definition}

/-- The items of a form are those of its questions and the page breaks of its sections. -/
theorem mem_planItems {item : Item} (h : item ∈ d.planItems) :
    ∃ s ∈ d.sections, item = s.planPageBreak ∨ ∃ q ∈ s.questions, item = q.planItem := by
  have hsection : ∀ s : FormSection, item ∈ s.planItems → ∃ q ∈ s.questions, item = q.planItem := by
    intro s hitem
    obtain ⟨q, hq, rfl⟩ := List.mem_map.mp hitem
    exact ⟨q, hq, rfl⟩
  unfold planItems at h
  split at h
  · cases h
  · rename_i first rest hsections
    rw [hsections]
    rcases List.mem_append.mp h with hfirst | hrest
    · exact ⟨first, List.mem_cons_self, Or.inr (hsection first hfirst)⟩
    · obtain ⟨s, hs, hitem⟩ := List.mem_flatMap.mp hrest
      refine ⟨s, List.mem_cons_of_mem _ hs, ?_⟩
      exact (List.mem_cons.mp hitem).imp_right (hsection s)

/-- The parts of a normalized definition are normalized. -/
theorem normal_parts (h : e.normalize = e) :
    ∀ s ∈ e.sections, s.normalize = s ∧ ∀ q ∈ s.questions, q.normalize = q := by
  have hsections : e.sections.map FormSection.normalize = e.sections.map id :=
    (congrArg sections h).trans (List.map_id _).symm
  intro s hs
  have hsection : s.normalize = s := List.map_inj_left.mp hsections s hs
  have hquestions : s.questions.map Question.normalize = s.questions.map id :=
    (congrArg FormSection.questions hsection).trans (List.map_id _).symm
  exact ⟨hsection, List.map_inj_left.mp hquestions⟩

/-- **The plan of a validated definition is consistent**, operation by operation. -/
theorem plan_consistent (h : d.validate = .ok e) : ∀ operation ∈ e.plan, operation.Consistent := by
  obtain ⟨hdefect, hnormal⟩ := validate_eq_ok_iff.mp (validate_normal h).1
  have hfaultless := defect?_eq_none_iff.mp hdefect
  intro operation hoperation
  rw [plan_eq_settings_append, List.mem_append, List.mem_map, List.mem_mapIdx] at hoperation
  rcases hoperation with ⟨update, -, rfl⟩ | ⟨i, hi, rfl⟩
  · exact trivial
  obtain ⟨s, hs, hitem⟩ := mem_planItems (List.getElem_mem hi)
  obtain ⟨hsection, hquestions⟩ := normal_parts hnormal s hs
  rcases hitem with hbreak | ⟨q, hq, hquestion⟩
  · show Item.Consistent _
    rw [hbreak]
    exact FormSection.consistent_planPageBreak hsection
  · show Item.Consistent _
    rw [hquestion]
    refine Question.consistent_planItem (hquestions q hq) fun hoptionless => hfaultless ?_
    exact Or.inr (Or.inr (Or.inr ⟨s, hs, q, hq, hoptionless⟩))

/-- A quiz with stray and repeated answers, an unknown kind with a correct answer, blank texts, and an image
question with `required` and points. -/
theorem plan_consistent_tea :
    let which : Question := ⟨"Which?", .known .checkboxes, ["Assam", "Ceylon"], some " ", true, some 2,
      ["Ceylon", "Oolong", "Ceylon", "Assam"]⟩
    let since : Question := ⟨"Since when?", Kind.ofName "DATE", [], some "https://i/1", false, some 1, ["1823"]⟩
    let look : Question := ⟨"Look", .known .imageDisplay, [], none, true, some 3, ["leaf"]⟩
    let d : Definition := { title := "Tea", isQuiz := true, sections := [⟨"Black", none, [which, since]⟩,
      ⟨"Green", some " ", [look]⟩] }
    let e := d.normalize
    d.validate = .ok e ∧
      e.plan = [.updateSettings {},
        .createItem (.question "Which?"
          ⟨true, .choice .checkbox ["Assam", "Ceylon"], some ⟨2, ["Ceylon", "Assam"]⟩, none⟩) 0,
        .createItem (.question "Since when?"
          ⟨false, .text false, some ⟨1, []⟩, some { sourceUri := some "https://i/1" }⟩) 1,
        .createItem (.pageBreak "Green" none) 2, .createItem (.image "Look" {}) 3] ∧
      ∀ operation ∈ e.plan, operation.Consistent := by
  intro which since look d e
  have hvalid : d.validate = .ok e := by decide
  exact ⟨hvalid, by decide, plan_consistent hvalid⟩

end Definition
end Formwork
