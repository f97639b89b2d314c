import Formwork.Proofs.Definition.Normal
import Formwork.Proofs.Plan.Layout
import Formwork.Proofs.Script.Execution
import Mathlib.Data.List.Forall2

/-!
# Parity of script and plan

`compile_script` and `compile_mutations` do not share code for their items.  For a validated definition they build
the same items in the same order, where `Corresponds` states sameness of one item.  Points are compared for quizzes
only: the plan grades every question with points, and the service ignores that on a form that is no quiz.

Both compilers fill the slots of the definition in order, so the items are compared slot by slot.
-/
namespace Formwork
open FormApp

/-- The item type of a question body on the platform. -/
def QuestionBody.itemKind : QuestionBody → ItemKind
  | .text false => .text
  | .text true => .paragraph
  | .choice .radio _ => .multipleChoice
  | .choice .checkbox _ => .checkbox

/-- The options of a question body. -/
def QuestionBody.options : QuestionBody → List String
  | .text _ => []
  | .choice _ options => options

/-- The choices of an item and the answers of a grading mark the same options. -/
structure SameAnswers (choices : List Choice) (answers : List String) : Prop where
  marked : ∀ choice ∈ choices, choice.correct = true ↔ choice.text ∈ answers
  listed : ∀ answer ∈ answers, ⟨answer, true⟩ ∈ choices

/-- An item of a script's form and a question of a plan are the same question. -/
structure SameQuestion (isQuiz : Bool) (made : FormApp.Item) (title : String)
    (item : QuestionItem) : Prop where
  kind : made.kind = item.question.itemKind
  title : made.title = title
  required : made.required = item.required
  options : made.choices.map Choice.text = item.question.options
  image : item.image = made.image.map fun url => { sourceUri := some url }
  /-- In a quiz, points are set exactly where the plan grades, and they are equal. -/
  points : isQuiz = true → ∀ p : Int,
    (∃ n : Nat, made.points = some n ∧ p = n) ↔ ∃ g, item.grading = some g ∧ g.pointValue = p
  answers : isQuiz = true → ∀ g, item.grading = some g → made.kind.hasChoices = true →
    SameAnswers made.choices g.correctAnswers

/-- An item of a script's form and an item of a plan are the same item. -/
def Corresponds (isQuiz : Bool) (made : FormApp.Item) : Item → Prop
  | .question title item => SameQuestion isQuiz made title item
  | .image title picture =>
    made.kind = .image ∧ made.title = title ∧ made.image = picture.sourceUri ∧
      made.required = false ∧ made.points = none
  | .pageBreak title description =>
    made.kind = .pageBreak ∧ made.title = title ∧ made.helpText = description ∧
      made.required = false ∧ made.points = none

/-! ### Questions -/

variable {q : Question}

theorem itemKind_planBody (h : q.kind.isImage = false) :
    q.kind.itemKind = q.planBody.itemKind := by
  unfold Question.planBody
  generalize q.kind = kind at h ⊢
  rcases kind with kind | _
  · cases kind with
    | imageDisplay => exact absurd h (by decide)
    | _ => rfl
  · rfl

theorem options_planBody (q : Question) :
    q.planBody.options = if q.kind.isChoice then q.options else [] := by
  unfold Question.planBody
  rcases q.kind with kind | _
  · cases kind <;> rfl
  · rfl

theorem text_choices (isQuiz : Bool) (q : Question) :
    (q.formItem isQuiz).choices.map Choice.text = q.planBody.options := by
  rw [options_planBody]
  show (if q.kind.isChoice then _ else []).map Choice.text = _
  cases q.kind.isChoice with
  | false => rfl
  | true =>
    show (q.options.map _).map Choice.text = q.options
    rw [List.map_map]
    exact List.map_id q.options

/-- A quiz sets the points that a plan grades with. -/
theorem points_planGrading (himage : q.kind.isImage = false) (p : Int) :
    (∃ n : Nat, (q.formItem true).points = some n ∧ p = n) ↔
      ∃ g, q.planGrading = some g ∧ g.pointValue = p := by
  show (∃ n : Nat,
    q.points.filter (fun n => true && !q.kind.isImage && decide (0 < n)) = some n ∧ _) ↔ _
  unfold Question.planGrading
  rw [himage]
  -- zero points are no points for either of them
  rcases q.points with _ | _ | n
  · simp
  · simp
  · constructor
    · rintro ⟨m, hm, rfl⟩
      have hmn : n + 1 = m ∧ 0 < m := by simpa using hm
      exact ⟨_, rfl, by rw [hmn.1]⟩
    · rintro ⟨g, hg, rfl⟩
      cases hg
      exact ⟨n + 1, by simp, rfl⟩

theorem correctAnswers_planGrading {g : Grading} (h : q.planGrading = some g) :
    g.correctAnswers = q.correctAnswers :=
  congrArg Grading.correctAnswers (Question.planGrading_eq_some_iff.mp h).2

theorem choices_formItem (h : q.kind.isChoice = true) (isQuiz : Bool) :
    (q.formItem isQuiz).choices =
      q.options.map fun option => ⟨option, q.correctAnswers.contains option⟩ := if_pos h

theorem sameAnswers_formItem (hq : q.Normal) (hchoice : q.kind.isChoice = true) (isQuiz : Bool) :
    SameAnswers (q.formItem isQuiz).choices q.correctAnswers := by
  rw [choices_formItem hchoice]
  constructor
  · intro choice hmem
    obtain ⟨option, -, rfl⟩ := List.mem_map.mp hmem
    exact List.contains_iff_mem
  · intro answer hanswer
    obtain ⟨hoption, -⟩ := hq.answers answer hanswer
    refine List.mem_map.mpr ⟨answer, hoption, ?_⟩
    rw [List.contains_iff_mem.mpr hanswer]

theorem sameQuestion_formItem (hq : q.Normal) (himage : q.kind.isImage = false) (isQuiz : Bool) :
    SameQuestion isQuiz (q.formItem isQuiz) q.title
      ⟨q.required, q.planBody, q.planGrading, q.planImage⟩ where
  kind := itemKind_planBody himage
  title := rfl
  required := by
    show (q.required && !q.kind.isImage) = q.required
    rw [himage]
    exact Bool.and_true _
  options := text_choices isQuiz q
  image := rfl
  points hquiz := by
    subst hquiz
    exact points_planGrading himage
  answers _ g hg hchoice := by
    have hkind : q.kind.isChoice = true := by
      rw [← Script.hasChoices_itemKind]
      exact hchoice
    rw [correctAnswers_planGrading hg]
    exact sameAnswers_formItem hq hkind isQuiz

theorem corresponds_image (hq : q.Normal) (himage : q.kind.isImage = true) (isQuiz : Bool) :
    Corresponds isQuiz (q.formItem isQuiz) (.image q.title { sourceUri := q.imageUrl }) := by
  have hkind : q.kind = .known .imageDisplay := eq_of_beq himage
  refine ⟨?_, rfl, hq.image, ?_, ?_⟩
  · show q.kind.itemKind = .image
    rw [hkind]
    rfl
  · show (q.required && !q.kind.isImage) = false
    rw [himage]
    exact Bool.and_false _
  · show q.points.filter (fun n => isQuiz && !q.kind.isImage && decide (0 < n)) = none
    rw [himage]
    simp

/-! ### Slots -/

/-- The two compilers fill every slot with the same item. -/
theorem Slot.corresponds (isQuiz : Bool) {slot : Slot} (h : slot.Normal) :
    Corresponds isQuiz (slot.item isQuiz) slot.planItem := by
  cases slot with
  | pageBreak s => exact ⟨rfl, rfl, h, rfl, rfl⟩
  | question q =>
    show Corresponds isQuiz (q.formItem isQuiz) q.planItem
    cases himage : q.kind.isImage with
    | true =>
      rw [Question.planItem_of_isImage himage]
      exact corresponds_image h himage isQuiz
    | false =>
      rw [Question.planItem_of_not_isImage himage]
      exact sameQuestion_formItem h himage isQuiz

/-- An operation that inserts an item. -/
def Operation.isCreation : Operation → Bool
  | .createItem .. => true
  | .updateSettings _ => false

theorem Plan.filter_insertions (items : List Item) (index : Nat) :
    (insertions index items).filter Operation.isCreation = insertions index items := by
  induction items generalizing index with
  | nil => rfl
  | cons item items ih =>
    rw [insertions, List.filter_cons_of_pos rfl, ih]

theorem Definition.creations_plan (d : Definition) :
    d.plan.filter Operation.isCreation = Plan.insertions 0 (d.slots.map Slot.planItem) := by
  rw [Definition.plan_eq, List.filter_append, Plan.filter_insertions]
  cases d.isQuiz
  · rfl
  · rfl

/-- **Script and plan build the same items.**  For any validated definition, the script builds one form, the plan
inserts its items at the positions from 0 on, and at each position the two items are the same. -/
theorem script_and_plan_correspond (P : Platform) {raw d : Definition} (h : raw.validate = .ok d)
    (options : Script.Options) (names : Nat → ItemName) :
    ∃ s form items,
      Script.execute P.reliable Script.entryFunction (d.script options names).text =
        some (.ok (), s) ∧
      s.account.forms = [form] ∧
      d.plan.filter Operation.isCreation = Plan.insertions 0 items ∧
      List.Forall₂ (Corresponds d.isQuiz) form.items items := by
  obtain ⟨s, hrun, haccount⟩ := Script.execute_script P.reliable d options names
  have hforms : s.account.forms = [d.form options.resultsSheet] := by
    rw [haccount, Definition.built_reliable]
  refine ⟨s, _, _, hrun, hforms, d.creations_plan, ?_⟩
  show List.Forall₂ _ (d.slots.map (Slot.item d.isQuiz)) (d.slots.map Slot.planItem)
  -- both lists are images of the places, so one place is enough
  rw [List.forall₂_map_left_iff, List.forall₂_map_right_iff, List.forall₂_same]
  intro slot hslot
  exact slot.corresponds d.isQuiz (Definition.normal_of_validate h slot hslot)

/-- A quiz with an image and a question with two options, on two pages. -/
theorem script_and_plan_correspond_quiz :
    let platform : Platform :=
      ⟨fun _ _ => none, fun _ => "edit", fun _ => "answer", fun _ => "sheet"⟩
    let raw : Definition :=
      { title := "Capitals"
        sections := [
          ⟨"Map", none,
            [⟨"Europe", .known .imageDisplay, [], some "https://x/map.png", true, none, []⟩]⟩,
          ⟨"Quiz", some " ", [⟨"France?", .known .multipleChoice, ["Paris", "Rome"], some "", true,
            some 2, ["Paris", "Oslo"]⟩]⟩]
        isQuiz := true }
    raw.validate = .ok raw.normalize ∧
      ∃ s form items,
        Script.execute platform.reliable Script.entryFunction
          (raw.normalize.script {} ItemName.numbered).text = some (.ok (), s) ∧
        s.account.forms = [form] ∧
        raw.normalize.plan.filter Operation.isCreation = Plan.insertions 0 items ∧
        List.Forall₂ (Corresponds raw.normalize.isQuiz) form.items items := by
  intro platform raw
  have hdefect : raw.defect? = none := by decide
  have hvalid : raw.validate = .ok raw.normalize := by
    unfold Definition.validate
    rw [hdefect]
  exact ⟨hvalid, script_and_plan_correspond platform hvalid {} ItemName.numbered⟩

end Formwork
