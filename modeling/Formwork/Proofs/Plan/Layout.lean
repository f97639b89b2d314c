import Formwork.Plan.Compile
import Formwork.Proofs.Definition.Slots

/-!
# The layout of a plan

`compile_mutations` emits the quiz settings first, for a quiz, and then one `CreateItemOp` for every slot of the form,
at the indices 0, 1, 2 and so on.
-/
namespace Formwork

/-- The item of a slot in a plan. -/
def Slot.planItem : Slot → Item
  | .question q => q.planItem
  | .pageBreak s => s.planPageBreak

namespace Question

variable {q : Question}

theorem planItem_of_isImage (h : q.kind.isImage = true) :
    q.planItem = .image q.title { sourceUri := q.imageUrl } := if_pos h

theorem planItem_of_not_isImage (h : q.kind.isImage = false) :
    q.planItem = .question q.title ⟨q.required, q.planBody, q.planGrading, q.planImage⟩ :=
  if_neg (by rw [h]; exact Bool.false_ne_true)

/-- A plan grades the questions with more than zero points. -/
theorem planGrading_eq (q : Question) :
    q.planGrading =
      if 0 < q.points.getD 0 then some ⟨(q.points.getD 0 : Nat), q.correctAnswers⟩ else none := by
  unfold planGrading
  rcases q.points with _ | _ | n <;> rfl

theorem planGrading_eq_some_iff {grading : Grading} :
    q.planGrading = some grading ↔
      0 < q.points.getD 0 ∧ grading = ⟨(q.points.getD 0 : Nat), q.correctAnswers⟩ := by
  rw [planGrading_eq]
  split
  · rename_i hworth
    exact ⟨fun h => ⟨hworth, (Option.some.inj h).symm⟩, fun h => congrArg some h.2.symm⟩
  · rename_i hworth
    exact ⟨nofun, fun h => absurd h.1 hworth⟩

end Question

namespace Plan

theorem insertions_append (index : Nat) (items more : List Item) :
    insertions index (items ++ more) =
      insertions index items ++ insertions (index + items.length) more := by
  induction items generalizing index with
  | nil => rfl
  | cons item items ih =>
    have hnext : index + (item :: items).length = index + 1 + items.length := by
      rw [List.length_cons]
      omega
    rw [List.cons_append, insertions, ih, insertions, List.cons_append, hnext]

theorem sections_eq (ss : List FormSection) (index : Nat) :
    sections index ss = insertions index ((Slot.ofSections ss).map Slot.planItem) := by
  induction ss generalizing index with
  | nil => rfl
  | cons s rest ih =>
    have hquestions : s.slots.map Slot.planItem = s.questions.map Question.planItem := by
      rw [FormSection.slots, List.map_map]
      rfl
    -- the page break of the next section comes behind the questions of this one
    cases rest with
    | nil =>
      rw [Slot.ofSections, List.flatMap_nil, List.append_nil s.slots, hquestions]
      exact List.append_nil _
    | cons next more =>
      rw [sections, Slot.ofSections_cons_cons, List.map_append, hquestions, insertions_append,
        List.length_map, ih]
      rfl

end Plan

/-- **A plan inserts the items of the slots in order.** -/
theorem Definition.plan_eq (d : Definition) :
    d.plan =
      (if d.isQuiz then [.updateSettings ⟨true, d.quizSettings.map QuizSettings.planGrade⟩] else [])
        ++ Plan.insertions 0 (d.slots.map Slot.planItem) := by
  rw [Definition.plan, Plan.sections_eq, Definition.slots]

/-- The plan of a form with slots is not empty. -/
theorem Definition.plan_ne_nil {d : Definition} (h : d.slots ≠ []) : d.plan ≠ [] := by
  intro hplan
  rw [plan_eq, List.append_eq_nil_iff] at hplan
  obtain ⟨slot, rest, hslots⟩ := List.exists_cons_of_ne_nil h
  rw [hslots] at hplan
  cases hplan.2

end Formwork
