import Formwork.Definition.Basic

/-!
# The slots of a form

Both compilers emit the same slots in the same order: the questions of the first section, then for every later section
its page break and its questions.  `Definition.slots` is that list, without the indices and variable names that each
compiler carries along, and statements about the order of a form are made about it.
-/
namespace Formwork

/-- A slot of a form. -/
inductive Slot
  | question (q : Question)
  /-- The page break in front of a section. -/
  | pageBreak (next : FormSection)

/-- The slots of the questions of a section. -/
def FormSection.slots (s : FormSection) : List Slot := s.questions.map .question

/-- The slots of the sections of a form, in order. -/
def Slot.ofSections : List FormSection → List Slot
  | [] => []
  | first :: rest => first.slots ++ rest.flatMap fun s => .pageBreak s :: s.slots

/-- The slots of a form, in order. -/
def Definition.slots (d : Definition) : List Slot := Slot.ofSections d.sections

/-- The page break of the second section follows the questions of the first. -/
theorem Slot.ofSections_cons_cons (s next : FormSection) (rest : List FormSection) :
    Slot.ofSections (s :: next :: rest) =
      s.slots ++ .pageBreak next :: Slot.ofSections (next :: rest) := by
  simp [Slot.ofSections]

/-- The index of the slot of a question, by the indices of section and question: every section before has one slot
more than it has questions, for the page break behind it. -/
def Slot.position : List FormSection → Nat → Nat → Nat
  | s :: rest, i + 1, j => s.questions.length + 1 + position rest i j
  | _, _, j => j

/-- The index of the slot of a question in a form. -/
def Definition.position (d : Definition) (i j : Nat) : Nat := Slot.position d.sections i j

/-- The slot at that index is the question. -/
theorem Slot.getElem?_position {ss : List FormSection} {s : FormSection} {q : Question} {i j : Nat}
    (hs : ss[i]? = some s) (hq : s.questions[j]? = some q) :
    (Slot.ofSections ss)[position ss i j]? = some (.question q) := by
  induction ss generalizing i with
  | nil => cases hs
  | cons first rest ih =>
    cases i with
    | zero =>
      obtain rfl : first = s := Option.some.inj hs
      have hslot : first.slots[j]? = some (.question q) := by
        rw [FormSection.slots, List.getElem?_map, hq]
        rfl
      have hlt : j < first.slots.length := (List.getElem?_eq_some_iff.mp hslot).1
      show (first.slots ++ _)[j]? = _
      rw [List.getElem?_append_left hlt, hslot]
    | succ i =>
      rw [List.getElem?_cons_succ] at hs
      -- there is a section behind the first, or else the question would not be there
      obtain ⟨next, more, rfl⟩ : ∃ next more, rest = next :: more := by
        cases rest with
        | nil => cases hs
        | cons next more => exact ⟨next, more, rfl⟩
      have hlength : first.slots.length = first.questions.length := List.length_map ..
      rw [ofSections_cons_cons, position, List.getElem?_append_right (by omega), hlength,
        Nat.add_assoc, Nat.add_sub_cancel_left, Nat.add_comm 1, List.getElem?_cons_succ]
      exact ih hs

/-- Every question has a slot. -/
theorem Slot.mem_ofSections {ss : List FormSection} {s : FormSection} {q : Question} (hs : s ∈ ss)
    (hq : q ∈ s.questions) : .question q ∈ Slot.ofSections ss := by
  have hslot : Slot.question q ∈ s.slots := List.mem_map_of_mem hq
  cases ss with
  | nil => cases hs
  | cons first rest =>
    rw [ofSections, List.mem_append, List.mem_flatMap]
    rcases List.mem_cons.mp hs with rfl | hs
    · exact Or.inl hslot
    · exact Or.inr ⟨s, hs, List.mem_cons_of_mem _ hslot⟩

end Formwork
