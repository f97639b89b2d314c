import Formwork.Definition.Validity
import Formwork.Proofs.Definition.Slots

/-!
# Normalized definitions

What holds of a definition that `validate_definition` returned: optional texts are absent or not blank, correct
answers are options, and only choice questions have them.  The facts are stated for questions and sections and lifted
to the slots of the form, where both compilers use them.
-/
namespace Formwork

namespace Text

/-- A text that is there and not blank is not empty. -/
theorem nonempty?_present? (text : Option String) : nonempty? (present? text) = present? text := by
  have hempty : isBlankText "" = true := by decide
  cases text with
  | none => rfl
  | some text =>
    by_cases hblank : isBlankText text = true
    · simp [present?, hblank, nonempty?]
    · have hne : text ≠ "" := by
        rintro rfl
        exact hblank hempty
      simp [present?, hblank, nonempty?, hne]

end Text

namespace Question

theorem mem_keepAnswers {options kept answers : List String} {answer : String}
    (h : answer ∈ keepAnswers options kept answers) : answer ∈ kept ∨ answer ∈ options := by
  induction answers generalizing kept with
  | nil => exact Or.inl h
  | cons first rest ih =>
    rw [keepAnswers] at h
    split at h
    -- an answer is kept behind those that were kept before it
    · rename_i hkeep
      have hoption : first ∈ options := by
        simpa using (Bool.and_eq_true_iff.mp hkeep).1
      rcases ih h with hmem | hmem
      · rw [List.mem_append, List.mem_singleton] at hmem
        rcases hmem with hmem | rfl
        · exact Or.inl hmem
        · exact Or.inr hoption
      · exact Or.inr hmem
    · exact ih h

/-- A normalized question. -/
structure Normal (q : Question) : Prop where
  image : Text.nonempty? q.imageUrl = q.imageUrl
  answers : ∀ answer ∈ q.correctAnswers, answer ∈ q.options ∧ q.kind.isChoice = true

theorem normal_normalize (q : Question) : q.normalize.Normal where
  image := Text.nonempty?_present? q.imageUrl
  answers answer h := by
    have hvalid : answer ∈ q.validAnswers := h
    show answer ∈ q.options ∧ q.kind.isChoice = true
    by_cases hchoice : q.kind.isChoice = true
    · rw [validAnswers, if_pos hchoice] at hvalid
      rcases mem_keepAnswers hvalid with hmem | hmem
      · cases hmem
      · exact ⟨hmem, hchoice⟩
    · rw [validAnswers, if_neg hchoice] at hvalid
      cases hvalid

end Question

/-- A normalized slot. -/
def Slot.Normal : Slot → Prop
  | .question q => q.Normal
  | .pageBreak s => Text.nonempty? s.description = s.description

theorem FormSection.normal_slots (s : FormSection) : ∀ slot ∈ s.normalize.slots, slot.Normal := by
  intro slot hslot
  simp only [FormSection.slots, FormSection.normalize, List.map_map, List.mem_map] at hslot
  obtain ⟨q, -, rfl⟩ := hslot
  exact q.normal_normalize

theorem Slot.normal_ofSections (ss : List FormSection) :
    ∀ slot ∈ Slot.ofSections (ss.map FormSection.normalize), slot.Normal := by
  intro slot hslot
  cases ss with
  | nil => cases hslot
  | cons first rest =>
    rw [List.map_cons, Slot.ofSections, List.mem_append, List.mem_flatMap] at hslot
    rcases hslot with hslot | ⟨s, hs, hslot⟩
    · exact first.normal_slots slot hslot
    · obtain ⟨raw, -, rfl⟩ := List.mem_map.mp hs
      rcases List.mem_cons.mp hslot with rfl | hslot
      · exact Text.nonempty?_present? raw.description
      · exact raw.normal_slots slot hslot

/-- **Every slot of a validated definition is normalized.** -/
theorem Definition.normal_of_validate {d e : Definition} (h : d.validate = .ok e) :
    ∀ slot ∈ e.slots, slot.Normal := by
  unfold validate at h
  split at h
  · cases h
  · cases h
    exact Slot.normal_ofSections d.sections

/-- **A validated definition has a section.** -/
theorem Definition.sections_ne_nil_of_validate {d e : Definition} (h : d.validate = .ok e) :
    e.sections ≠ [] := by
  unfold validate at h
  split at h
  · cases h
  · rename_i hdefect
    cases h
    intro hnil
    have hsections : d.sections = [] := List.map_eq_nil_iff.mp hnil
    rw [defect?, hsections] at hdefect
    split at hdefect
    · cases hdefect
    · cases hdefect

/-- **Every section of a validated definition has a question.** -/
theorem Definition.questions_ne_nil_of_validate {d e : Definition} (h : d.validate = .ok e) :
    ∀ s ∈ e.sections, s.questions ≠ [] := by
  unfold validate at h
  split at h
  · cases h
  · rename_i hdefect
    cases h
    have hempty : d.emptySection? = none := by
      unfold defect? at hdefect
      split at hdefect
      · cases hdefect
      · split at hdefect
        · cases hdefect
        · exact (Option.or_eq_none_iff.mp hdefect).1
    intro s hs hnil
    obtain ⟨raw, hraw, rfl⟩ := List.mem_map.mp hs
    obtain ⟨i, hi, hget⟩ := List.getElem_of_mem hraw
    have hplace : (raw, i) ∈ d.sections.zipIdx :=
      List.mem_zipIdx_iff_getElem?.mpr (by rw [← hget]; exact List.getElem?_eq_getElem hi)
    have hsection : (if raw.questions.isEmpty then some (Defect.noQuestions i raw.title) else none) =
        none := List.findSome?_eq_none_iff.mp hempty (raw, i) hplace
    have hquestions : raw.questions = [] := List.map_eq_nil_iff.mp hnil
    rw [hquestions] at hsection
    cases hsection

/-- **A validated definition has a slot.** -/
theorem Definition.slots_ne_nil_of_validate {d e : Definition} (h : d.validate = .ok e) :
    e.slots ≠ [] := by
  obtain ⟨s, hs⟩ := List.exists_mem_of_ne_nil _ (sections_ne_nil_of_validate h)
  obtain ⟨q, hq⟩ := List.exists_mem_of_ne_nil _ (questions_ne_nil_of_validate h s hs)
  exact List.ne_nil_of_mem (Slot.mem_ofSections hs hq)

end Formwork
