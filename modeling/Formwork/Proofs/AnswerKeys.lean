import Formwork.Proofs.Parity
import Formwork.Proofs.Plan.Replay

/-!
# Answer keys

Both compilers emit the answer key of a choice question: the script with `createChoice(option, isCorrect)`, the
mutation plan with `grading.correct_answers`.  The script marks the choices in any case.  The plan has a grading only
for a question with points, so it keeps the key of exactly those questions (`answer_keys_kept`).
-/
namespace Formwork
open FormApp

/-- The options that an item of a script's form marks as correct, in order. -/
def FormApp.Item.marked (made : FormApp.Item) : List String :=
  (made.choices.filter Choice.correct).map Choice.text

/-- The options that the grading of a question item lists as correct, in order. -/
def QuestionItem.marked (item : QuestionItem) : List String :=
  match item.grading with
  | some grading => item.question.options.filter grading.correctAnswers.contains
  | none => []

/-- The question at these indices of section and question. -/
def Definition.question? (d : Definition) (i j : Nat) : Option Question :=
  d.sections[i]?.bind fun s => s.questions[j]?

theorem Definition.getElem?_position {d : Definition} {i j : Nat} {q : Question}
    (h : d.question? i j = some q) : d.slots[d.position i j]? = some (.question q) := by
  obtain ⟨s, hs, hq⟩ := Option.bind_eq_some_iff.mp h
  exact Slot.getElem?_position hs hq

/-! ### Choices on every platform -/

/-- The title and the choices of an item of a script's form. -/
def FormApp.Item.asks (made : FormApp.Item) : String × List Choice := (made.title, made.choices)

/-- An image that cannot be fetched changes no title and no choices. -/
theorem Slot.asks_shown (P : Platform) (w : Script.Wording) (isQuiz : Bool) (before : Nat)
    (slot : Slot) : (slot.shown P w isQuiz before).asks = (slot.item isQuiz).asks := by
  unfold Slot.shown
  split
  · rfl
  · rfl

/-- A script builds one form, and on every platform its items have the titles and choices of the definition. -/
theorem Definition.exists_form_built (P : Platform) (w : Script.Wording) (resultsSheet : Bool)
    (d : Definition) :
    ∃ form, (d.built P w resultsSheet).forms = [form] ∧
      form.items.map Item.asks = d.slots.map fun slot => (slot.item d.isQuiz).asks := by
  rw [built_eq]
  exact ⟨_, rfl, Slot.map_allShown P w d.isQuiz Item.asks
    (fun slot before => slot.asks_shown P w d.isQuiz before) 0 d.slots⟩

/-! ### Questions -/

theorem Kind.isImage_of_isChoice {kind : Kind} (h : kind.isChoice = true) : kind.isImage = false := by
  rcases kind with kind | _
  · cases kind <;> first | rfl | cases h
  · rfl

namespace Question

variable {q : Question} {made : FormApp.Item}

/-- The options among the correct answers, in order. -/
def marked (q : Question) : List String := q.options.filter q.correctAnswers.contains

/-- In a normalized question, these options are the correct answers. -/
theorem mem_marked (h : q.Normal) {answer : String} : answer ∈ q.marked ↔ answer ∈ q.correctAnswers := by
  rw [marked, List.mem_filter, List.contains_iff_mem]
  exact ⟨And.right, fun hanswer => ⟨(h.answers answer hanswer).1, hanswer⟩⟩

/-- A script marks the correct options. -/
theorem marked_of_asks {isQuiz : Bool} (hchoice : q.kind.isChoice = true)
    (h : made.asks = (q.formItem isQuiz).asks) : made.marked = q.marked := by
  have hmade : made.choices = (q.formItem isQuiz).choices := congrArg Prod.snd h
  rw [FormApp.Item.marked, hmade, choices_formItem hchoice, List.filter_map, List.map_map]
  exact List.map_id _

/-- A plan lists them for a question with points. -/
theorem marked_planItem (hchoice : q.kind.isChoice = true) (hworth : 0 < q.points.getD 0) :
    QuestionItem.marked ⟨q.required, q.planBody, q.planGrading, q.planImage⟩ = q.marked := by
  have hgrading : q.planGrading = some ⟨(q.points.getD 0 : Nat), q.correctAnswers⟩ :=
    planGrading_eq_some_iff.mpr ⟨hworth, rfl⟩
  rw [QuestionItem.marked, hgrading, options_planBody, if_pos hchoice]
  rfl

end Question

/-! ### Keys -/

section Places

variable {d : Definition} {i j : Nat} {q : Question}

/-- The item that a script makes for a question. -/
theorem Definition.exists_made {form : Form} (h : d.question? i j = some q)
    (hasks : form.items.map Item.asks = d.slots.map fun slot => (slot.item d.isQuiz).asks) :
    ∃ made, form.items[d.position i j]? = some made ∧ made.asks = (q.formItem d.isQuiz).asks := by
  have hplace := congrArg (·[d.position i j]?) hasks
  simp only [List.getElem?_map, getElem?_position h, Option.map_some] at hplace
  exact Option.map_eq_some_iff.mp hplace

/-- The operation that creates the item of a question. -/
theorem Definition.createItem_mem_plan (h : d.question? i j = some q) :
    d.planItems[d.position i j]? = some q.planItem ∧
      .createItem q.planItem (d.position i j) ∈ d.plan := by
  have hitem : d.planItems[d.position i j]? = some q.planItem := by
    rw [← map_planItem_slots, List.getElem?_map, getElem?_position h]
    rfl
  refine ⟨hitem, ?_⟩
  rw [plan_eq_settings_append, List.mem_append]
  refine .inr (List.mem_of_getElem? (i := d.position i j) ?_)
  rw [List.getElem?_mapIdx, hitem]
  rfl

end Places

/-- **A plan keeps the answer key of every question with points.**  Take any validated definition.  On every
platform its script builds one form, and its plan can be carried out.  For every choice question, the item of the
script at its position marks exactly the correct answers; the item of the plan lists all of them in its grading,
and so marks the same options, if the question has points, and has no grading otherwise. -/
theorem answer_keys_kept (P : Platform) {raw d : Definition} (h : raw.validate = .ok d)
    (options : Script.Options) (names : Nat → ItemName) :
    ∃ s form items,
      Script.execute P Script.entryFunction (d.script options names).text = some (.ok (), s) ∧
      s.account.forms = [form] ∧
      d.plan.replay? [] = some items ∧
      ∀ i j q, d.question? i j = some q → q.kind.isChoice = true →
        ∃ made item,
          form.items[d.position i j]? = some made ∧ made.title = q.title ∧
          items[d.position i j]? = some (.question q.title item) ∧
          .createItem (.question q.title item) (d.position i j) ∈ d.plan ∧
          (∀ answer, answer ∈ made.marked ↔ answer ∈ q.correctAnswers) ∧
          (0 < q.points.getD 0 →
            item.grading = some ⟨(q.points.getD 0 : Nat), q.correctAnswers⟩ ∧
              item.marked = made.marked) ∧
          (q.points.getD 0 = 0 → item.grading = none) := by
  obtain ⟨s, hrun, haccount⟩ := Script.execute_script P d options names
  obtain ⟨form, hforms, hasks⟩ :=
    d.exists_form_built P (Script.Wording.ofLocale options.locale) options.resultsSheet
  refine ⟨s, form, d.planItems, hrun, by rw [haccount, hforms], d.replay?_plan, fun i j q hq hchoice => ?_⟩
  have hslot : .question q ∈ d.slots := List.mem_of_getElem? (Definition.getElem?_position hq)
  have hnormal : q.Normal := Definition.normal_of_validate h (.question q) hslot
  obtain ⟨hitem, hplan⟩ := Definition.createItem_mem_plan hq
  rw [Question.planItem_of_not_isImage (Kind.isImage_of_isChoice hchoice)] at hitem hplan
  obtain ⟨made, hmade, hmadeAsks⟩ := Definition.exists_made hq hasks
  have hmarked : made.marked = q.marked := Question.marked_of_asks hchoice hmadeAsks
  refine ⟨made, _, hmade, congrArg Prod.fst hmadeAsks, hitem, hplan, ?_, ?_, ?_⟩
  · intro answer
    rw [hmarked]
    exact Question.mem_marked hnormal
  · intro hworth
    rw [hmarked]
    exact ⟨Question.planGrading_eq_some_iff.mpr ⟨hworth, rfl⟩, Question.marked_planItem hchoice hworth⟩
  · intro hworthless
    show q.planGrading = none
    rw [Question.planGrading_eq, hworthless]
    rfl

/-- A question with two points, on the second page of a quiz. -/
theorem answer_keys_kept_two_points :
    let platform : Platform :=
      ⟨fun _ _ => some "not found", fun _ => "edit", fun _ => "answer", fun _ => "sheet"⟩
    let raw : Definition :=
      { title := "Capitals"
        sections := [
          ⟨"Map", none,
            [⟨"Europe", .known .imageDisplay, [], some "https://x/map.png", true, none, []⟩]⟩,
          ⟨"Quiz", none, [⟨"France?", .known .multipleChoice, ["Rome", "Paris"], none, true,
            some 2, ["Paris", "Oslo"]⟩]⟩]
        isQuiz := true }
    raw.validate = .ok raw.normalize ∧
      ∃ s form items made item,
        Script.execute platform Script.entryFunction
          (raw.normalize.script {} ItemName.numbered).text = some (.ok (), s) ∧
        s.account.forms = [form] ∧ form.items[2]? = some made ∧
        raw.normalize.plan.replay? [] = some items ∧
        items[2]? = some (.question "France?" item) ∧
        item.grading = some ⟨2, ["Paris"]⟩ ∧ item.marked = made.marked ∧
        ∀ answer, answer ∈ made.marked ↔ answer = "Paris" := by
  intro platform raw
  have hdefect : raw.defect? = none := by decide
  have hvalid : raw.validate = .ok raw.normalize := by
    unfold Definition.validate
    rw [hdefect]
  obtain ⟨s, form, items, hrun, hforms, hreplay, hkeys⟩ :=
    answer_keys_kept platform hvalid {} ItemName.numbered
  have hquestion : raw.normalize.question? 1 0 =
      some ⟨"France?", .known .multipleChoice, ["Rome", "Paris"], none, true, some 2, ["Paris"]⟩ := by
    decide
  obtain ⟨made, item, hmade, -, hitem, -, hmarked, hpoints, -⟩ := hkeys 1 0 _ hquestion rfl
  obtain ⟨hgrading, hsame⟩ := hpoints (by decide)
  refine ⟨hvalid, s, form, items, made, item, hrun, hforms, hmade, hreplay, hitem, hgrading, hsame, ?_⟩
  intro answer
  rw [hmarked, List.mem_singleton]

/-- A question of a quiz with zero points: the script marks Paris, and the plan nothing. -/
theorem answer_key_without_points :
    let platform : Platform :=
      ⟨fun _ _ => none, fun _ => "edit", fun _ => "answer", fun _ => "sheet"⟩
    let d : Definition :=
      { title := "Capitals"
        sections := [⟨"Quiz", none, [⟨"France?", .known .multipleChoice, ["Rome", "Paris"], none,
          false, some 0, ["Paris"]⟩]⟩]
        isQuiz := true }
    d.validate = .ok d ∧
      d.plan = [
        .updateSettings { isQuiz := true },
        .createItem (.question "France?"
          { question := .choice .radio ["Rome", "Paris"], grading := none }) 0] ∧
      ∃ s form, Script.execute platform Script.entryFunction (d.script {} ItemName.numbered).text =
          some (.ok (), s) ∧
        s.account.forms = [form] ∧ form.items.map Item.marked = [["Paris"]] := by
  intro platform d
  obtain ⟨s, hrun, haccount⟩ := Script.execute_script platform d {} ItemName.numbered
  have hforms : s.account.forms = [d.form false] := by
    rw [haccount]
    exact d.built_reliable platform (Script.Wording.ofLocale .en) false
  refine ⟨by decide, by decide, s, d.form false, hrun, hforms, by decide⟩

end Formwork
