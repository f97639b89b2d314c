import Formwork.Proofs.Plan.Layout
import Mathlib.Data.List.InsertIdx

/-!
# Carrying out a plan

The operations of a plan are carried out one by one on a form without items.  An item can be inserted at any index up
to the number of items, and not beyond; otherwise `Plan.replay?` fails.

In the plan of a definition every item is inserted at the end, because the running index equals the number of items
(`replay?_insertions`, by induction on the items).  So the replay does not fail, and leaves the items in their order.
-/
namespace Formwork

/-- The items of a form after an operation, if it can be carried out. -/
def Operation.perform? (items : List Item) : Operation → Option (List Item)
  | createItem item index =>
    if 0 ≤ index ∧ index ≤ items.length then some (items.insertIdx index.toNat item) else none
  | updateSettings _ => some items

/-- The items of a form after a plan, if all its operations can be carried out. -/
def Plan.replay? (plan : Plan) (items : List Item) : Option (List Item) :=
  plan.foldlM Operation.perform? items

/-- The items of a section. -/
def FormSection.planItems (s : FormSection) : List Item := s.questions.map Question.planItem

/-- The items of a form: those of its sections in order, with a page break in front of every section but the
first. -/
def Definition.planItems (d : Definition) : List Item :=
  match d.sections with
  | [] => []
  | first :: rest => first.planItems ++ rest.flatMap fun s => s.planPageBreak :: s.planItems

/-- The settings updates of a definition: one for a quiz, and none otherwise. -/
def Definition.planSettings (d : Definition) : List QuizUpdate :=
  if d.isQuiz then [⟨true, d.quizSettings.map QuizSettings.planGrade⟩] else []

namespace Plan

theorem insertions_eq_mapIdx (index : Nat) (items : List Item) :
    insertions index items = items.mapIdx fun i item => .createItem item (index + i : Nat) := by
  induction items generalizing index with
  | nil => rfl
  | cons item items ih =>
    rw [insertions, ih, List.mapIdx_cons]
    have hnext : (fun i item => Operation.createItem item (index + 1 + i : Nat)) =
        fun i item => Operation.createItem item (index + (i + 1) : Nat) := by
      funext i item
      rw [Nat.add_assoc, Nat.add_comm 1 i]
    rw [hnext]
    rfl

/-- An item inserted at the end comes behind all others. -/
theorem perform?_createItem_length (items : List Item) (item : Item) :
    Operation.perform? items (.createItem item items.length) = some (items ++ [item]) := by
  have hend : (0 : Int) ≤ items.length ∧ (items.length : Int) ≤ items.length := by omega
  rw [Operation.perform?, if_pos hend, Int.toNat_natCast, List.insertIdx_length_self]

/-- The running index is the number of items. -/
theorem replay?_insertions (items more : List Item) :
    replay? (insertions items.length more) items = some (items ++ more) := by
  induction more generalizing items with
  | nil =>
    rw [List.append_nil]
    rfl
  | cons item more ih =>
    have hlength : (items ++ [item]).length = items.length + 1 := List.length_append ..
    have hnext := ih (items ++ [item])
    rw [hlength, List.append_assoc, List.singleton_append] at hnext
    rw [insertions, replay?, List.foldlM_cons, perform?_createItem_length]
    exact hnext

theorem replay?_settings (updates : List QuizUpdate) (plan : Plan) (items : List Item) :
    replay? (updates.map .updateSettings ++ plan) items = replay? plan items := by
  induction updates with
  | nil => rfl
  | cons update updates ih => exact ih

end Plan

namespace Definition

theorem map_planItem_slots (d : Definition) : d.slots.map Slot.planItem = d.planItems := by
  unfold slots planItems
  have hsection : ∀ s : FormSection, s.slots.map Slot.planItem = s.planItems := by
    intro s
    rw [FormSection.slots, List.map_map]
    rfl
  cases d.sections with
  | nil => rfl
  | cons first rest =>
    rw [Slot.ofSections, List.map_append, List.map_flatMap, hsection]
    simp only [List.map_cons, hsection]
    rfl

theorem plan_eq_settings_append (d : Definition) :
    d.plan = d.planSettings.map .updateSettings ++
      d.planItems.mapIdx fun i item => .createItem item i := by
  have hsettings : d.planSettings.map Operation.updateSettings = if d.isQuiz then
      [.updateSettings ⟨true, d.quizSettings.map QuizSettings.planGrade⟩] else [] := by
    unfold planSettings
    cases d.isQuiz
    · rfl
    · rfl
  rw [plan_eq, map_planItem_slots, Plan.insertions_eq_mapIdx, hsettings]
  simp only [Nat.zero_add]

theorem foldl_questions (ss : List FormSection) (count : Nat) :
    ss.foldl (fun count s => count + s.questions.length) count =
      count + (ss.flatMap FormSection.questions).length := by
  induction ss generalizing count with
  | nil => rfl
  | cons s ss ih =>
    rw [List.foldl_cons, ih, List.flatMap_cons, List.length_append, Nat.add_assoc]

/-- The question count is the sum over the sections. -/
theorem questionCount_eq (d : Definition) :
    d.questionCount = (d.sections.flatMap FormSection.questions).length := by
  rw [questionCount, foldl_questions, Nat.zero_add]

/-- Every section but the first has one item more than it has questions. -/
theorem length_laterItems (rest : List FormSection) :
    (rest.flatMap fun s => s.planPageBreak :: s.planItems).length =
      rest.length + (rest.flatMap FormSection.questions).length := by
  induction rest with
  | nil => rfl
  | cons s rest ih =>
    have hitems : s.planItems.length = s.questions.length := List.length_map ..
    rw [List.flatMap_cons, List.length_append, ih, List.length_cons, hitems, List.flatMap_cons,
      List.length_append, List.length_cons]
    omega

theorem length_planItems (d : Definition) :
    d.planItems.length = d.questionCount + (d.sections.length - 1) := by
  rw [questionCount_eq]
  unfold planItems
  cases d.sections with
  | nil => rfl
  | cons first rest =>
    have hitems : first.planItems.length = first.questions.length := List.length_map ..
    rw [List.length_append, length_laterItems, hitems, List.flatMap_cons, List.length_append,
      List.length_cons]
    omega

/-- The settings change no items, and the replay starts without items. -/
theorem replay?_plan (d : Definition) : d.plan.replay? [] = some d.planItems := by
  have hinsertions := Plan.replay?_insertions [] d.planItems
  rw [List.length_nil, List.nil_append] at hinsertions
  rw [plan_eq_settings_append, Plan.replay?_settings, ← hinsertions, Plan.insertions_eq_mapIdx]
  simp only [Nat.zero_add]

/-- **A plan can be carried out and builds the form.**  For every definition the plan has one settings update if
it is a quiz, and then inserts the items of the form at the indices 0, 1, 2 and so on; its replay on a form
without items does not fail, and yields exactly these items in this order. -/
theorem plan_carried_out (d : Definition) :
    d.plan = d.planSettings.map .updateSettings ++
        d.planItems.mapIdx (fun i item => .createItem item i) ∧
      d.plan.replay? [] = some d.planItems ∧
      d.plan.length =
        d.questionCount + (d.sections.length - 1) + if d.isQuiz then 1 else 0 := by
  have hplan := d.plan_eq_settings_append
  have hsettings : d.planSettings.length = if d.isQuiz then 1 else 0 := by
    unfold planSettings
    cases d.isQuiz
    · rfl
    · rfl
  refine ⟨hplan, d.replay?_plan, ?_⟩
  rw [hplan, List.length_append, List.length_map, List.length_mapIdx, hsettings, length_planItems,
    Nat.add_comm]

end Definition
end Formwork
