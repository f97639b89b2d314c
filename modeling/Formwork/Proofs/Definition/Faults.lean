import Formwork.Service.Job
import Mathlib.Data.List.TakeWhile

/-!
# The fault that is reported

`validate_definition` raises one `FormValidationError`, though a definition may break several rules.  The rules are
checked over the whole definition one after the other, so a section without questions comes before every question
without options, also before one in an earlier section.  `Definition.FirstFault` states which fault is the first and
how it is reported, independently of the search; `validate_refuses` states that exactly this one is raised, before
anything is logged.
-/
namespace Formwork

namespace Text

/-- Nothing is left of a text exactly when all of it is dropped. -/
theorem stripChars_eq_nil_iff (drop : Char → Bool) (s : List Char) :
    stripChars drop s = [] ↔ ∀ c ∈ s, drop c = true := by
  simp only [stripChars, List.reverse_eq_nil_iff, List.dropWhile_eq_nil_iff, List.mem_reverse]
  constructor
  · intro hrest
    rw [← @List.takeWhile_append_dropWhile _ drop s]
    exact List.forall_mem_append.mpr ⟨fun c hc => List.mem_takeWhile_imp hc, hrest⟩
  · exact fun h c hc => h c ((List.dropWhile_sublist drop).subset hc)

/-- A text is blank exactly when stripping leaves nothing. -/
theorem isBlankText_iff (text : String) : isBlankText text = true ↔ strip text = "" := by
  rw [strip, String.ofList_eq_empty_iff, stripChars_eq_nil_iff, isBlankText, List.all_eq_true]

end Text

/-! ### Searching a numbered list -/

section Numbered

variable {α β : Type} {f : α × Nat → Option β} {items : List α}

/-- A search of a list numbered from `n` on finds the first item with a result. -/
theorem findSome?_zipIdx_from {found : β} (n : Nat) :
    (items.zipIdx n).findSome? f = some found ↔
      ∃ i a, items[i]? = some a ∧ f (a, n + i) = some found ∧
        ∀ k < i, ∀ b, items[k]? = some b → f (b, n + k) = none := by
  induction items generalizing n with
  | nil => simp
  | cons first rest ih =>
    rw [List.zipIdx_cons, List.findSome?_cons]
    cases hfirst : f (first, n) with
    | some value =>
      constructor
      · intro h
        exact ⟨0, first, rfl, hfirst.trans h, nofun⟩
      · rintro ⟨i, a, hitem, hfound, hnone⟩
        cases i with
        | zero =>
          cases hitem
          exact hfirst.symm.trans hfound
        | succ i => exact absurd (hfirst.symm.trans (hnone 0 i.succ_pos first rfl)) nofun
    | none =>
      -- the items behind the first one are numbered from the next number on
      have hshift : ∀ k, n + 1 + k = n + (k + 1) := fun k => by omega
      simp only [ih, hshift]
      constructor
      · rintro ⟨i, a, hitem, hfound, hnone⟩
        refine ⟨i + 1, a, hitem, hfound, fun k hk b hb => ?_⟩
        cases k with
        | zero =>
          cases hb
          exact hfirst
        | succ k => exact hnone k (Nat.lt_of_succ_lt_succ hk) b hb
      · rintro ⟨i, a, hitem, hfound, hnone⟩
        cases i with
        | zero =>
          cases hitem
          exact absurd (hfirst.symm.trans hfound) nofun
        | succ i =>
          exact ⟨i, a, hitem, hfound, fun k hk b hb => hnone (k + 1) (Nat.succ_lt_succ hk) b hb⟩

theorem findSome?_zipIdx_eq_some_iff {found : β} :
    items.zipIdx.findSome? f = some found ↔
      ∃ i a, items[i]? = some a ∧ f (a, i) = some found ∧
        ∀ k < i, ∀ b, items[k]? = some b → f (b, k) = none := by
  simpa only [Nat.zero_add] using findSome?_zipIdx_from 0

/-- A search of a numbered list finds nothing exactly when no item has a result. -/
theorem findSome?_zipIdx_eq_none_iff :
    items.zipIdx.findSome? f = none ↔ ∀ i a, items[i]? = some a → f (a, i) = none := by
  rw [List.findSome?_eq_none_iff]
  constructor
  · intro h i a hitem
    exact h (a, i) (List.mem_zipIdx_iff_getElem?.mpr hitem)
  · rintro h ⟨a, i⟩ hmem
    exact h i a (List.mem_zipIdx_iff_getElem?.mp hmem)

end Numbered

/-! ### Faults -/

/-- A choice question without options. -/
def Question.IsOptionless (q : Question) : Prop :=
  (q.kind = .known .multipleChoice ∨ q.kind = .known .checkboxes) ∧ q.options = []

namespace Definition

/-- A definition that breaks a rule. -/
def IsFaulty (d : Definition) : Prop :=
  Text.strip d.title = "" ∨ d.sections = [] ∨ (∃ s ∈ d.sections, s.questions = []) ∨
    ∃ s ∈ d.sections, ∃ q ∈ s.questions, q.IsOptionless

/-- The first fault of a definition, with the field and the reason that are reported.  Sections without questions
come before questions without options, wherever these are. -/
inductive FirstFault (d : Definition) : String → String → Prop
  | blankTitle (blank : Text.strip d.title = "") :
      FirstFault d "title" "Form title must not be empty"
  | noSections (titled : Text.strip d.title ≠ "") (empty : d.sections = []) :
      FirstFault d "sections" "Form must have at least one section"
  | noQuestions {i : Nat} {s : FormSection} (titled : Text.strip d.title ≠ "")
      (here : d.sections[i]? = some s) (empty : s.questions = [])
      (first : ∀ k < i, ∀ t, d.sections[k]? = some t → t.questions ≠ []) :
      FirstFault d s!"sections[{i}].questions" s!"Section {Text.display s.title} has no questions"
  | noOptions {i j : Nat} {s : FormSection} {q : Question} (titled : Text.strip d.title ≠ "")
      (filled : ∀ t ∈ d.sections, t.questions ≠ []) (here : d.sections[i]? = some s)
      (asked : s.questions[j]? = some q) (optionless : q.IsOptionless)
      (first : ∀ k t l r, d.sections[k]? = some t → t.questions[l]? = some r →
        k < i ∨ k = i ∧ l < j → ¬ r.IsOptionless) :
      FirstFault d s!"sections[{i}].questions[{j}].options"
        s!"Choice question {Text.display q.title} needs at least one option"

end Definition

/-! ### The search for faults -/

theorem Kind.isChoice_iff (kind : Kind) :
    kind.isChoice = true ↔ kind = .known .multipleChoice ∨ kind = .known .checkboxes := by
  rcases kind with kind | word
  · cases kind <;> simp [isChoice]
  · simp [isChoice]

theorem Question.lacksOptions_iff (q : Question) : q.lacksOptions = true ↔ q.IsOptionless := by
  rw [lacksOptions, Bool.and_eq_true, Kind.isChoice_iff, List.isEmpty_iff, IsOptionless]

namespace Defect

variable (i j : Nat) (title : String)

theorem field_noQuestions : (noQuestions i title).field = s!"sections[{i}].questions" := rfl

theorem reason_noQuestions :
    (noQuestions i title).reason = s!"Section {Text.display title} has no questions" := rfl

theorem field_noOptions :
    (noOptions i j title).field = s!"sections[{i}].questions[{j}].options" := by
  have hend : "]" ++ ".options" = "].options" := by decide
  rw [field, questionPath, String.append_assoc]
  exact congrArg _ hend

theorem reason_noOptions : (noOptions i j title).reason =
    s!"Choice question {Text.display title} needs at least one option" := rfl

end Defect

namespace Definition

variable {d : Definition} {defect : Defect}

theorem emptySection?_eq_some_iff :
    d.emptySection? = some defect ↔ ∃ i s, d.sections[i]? = some s ∧ s.questions = [] ∧
      defect = .noQuestions i s.title ∧
        ∀ k < i, ∀ t, d.sections[k]? = some t → t.questions ≠ [] := by
  rw [emptySection?, findSome?_zipIdx_eq_some_iff]
  simp [and_assoc, eq_comm (b := defect)]

theorem emptySection?_eq_none_iff :
    d.emptySection? = none ↔ ∀ s ∈ d.sections, s.questions ≠ [] := by
  rw [emptySection?, findSome?_zipIdx_eq_none_iff]
  constructor
  · intro h s hs
    obtain ⟨i, hi⟩ := List.mem_iff_getElem?.mp hs
    simpa using h i s hi
  · intro h i s hi
    simpa using h s (List.mem_of_getElem? hi)

theorem optionless?_eq_none_iff :
    d.optionless? = none ↔ ∀ s ∈ d.sections, ∀ q ∈ s.questions, ¬ q.IsOptionless := by
  rw [optionless?, findSome?_zipIdx_eq_none_iff]
  simp only [findSome?_zipIdx_eq_none_iff, ite_eq_right_iff, reduceCtorEq, imp_false,
    Question.lacksOptions_iff]
  constructor
  · intro h s hs q hq
    obtain ⟨i, hi⟩ := List.mem_iff_getElem?.mp hs
    obtain ⟨j, hj⟩ := List.mem_iff_getElem?.mp hq
    exact h i s hi j q hj
  · intro h i s hi j q hj
    exact h s (List.mem_of_getElem? hi) q (List.mem_of_getElem? hj)

/-- The question that is found is the first in the order of the form: no earlier section has such a question, and
its own section has none before it. -/
theorem optionless?_eq_some_iff :
    d.optionless? = some defect ↔ ∃ i s j q, d.sections[i]? = some s ∧ s.questions[j]? = some q ∧
      q.IsOptionless ∧ defect = .noOptions i j q.title ∧
        ∀ k t l r, d.sections[k]? = some t → t.questions[l]? = some r →
          k < i ∨ k = i ∧ l < j → ¬ r.IsOptionless := by
  rw [optionless?, findSome?_zipIdx_eq_some_iff]
  simp only [findSome?_zipIdx_eq_some_iff, findSome?_zipIdx_eq_none_iff, ite_eq_right_iff,
    reduceCtorEq, imp_false, Question.lacksOptions_iff, Option.ite_none_right_eq_some,
    Option.some.injEq]
  constructor
  · rintro ⟨i, s, hi, ⟨j, q, hj, ⟨hq, hdefect⟩, hwithin⟩, hbefore⟩
    refine ⟨i, s, j, q, hi, hj, hq, hdefect.symm, fun k t l r hk hl horder => ?_⟩
    rcases horder with hlt | ⟨rfl, hlt⟩
    · exact hbefore k hlt t hk l r hl
    · rw [hi] at hk
      cases hk
      exact hwithin l hlt r hl
  · rintro ⟨i, s, j, q, hi, hj, hq, hdefect, hfirst⟩
    exact ⟨i, s, hi,
      ⟨j, q, hj, ⟨hq, hdefect.symm⟩, fun l hl r hr => hfirst i s l r hi hr (Or.inr ⟨rfl, hl⟩)⟩,
      fun k hk t ht l r hr => hfirst k t l r ht hr (Or.inl hk)⟩

/-- The defect that is found is the first fault. -/
theorem firstFault_of_defect? (h : d.defect? = some defect) :
    d.FirstFault defect.field defect.reason := by
  unfold defect? at h
  split at h
  · rename_i hblank
    cases h
    exact .blankTitle ((Text.isBlankText_iff _).mp hblank)
  · rename_i hblank
    have titled : Text.strip d.title ≠ "" := mt (Text.isBlankText_iff _).mpr hblank
    split at h
    · rename_i hempty
      cases h
      exact .noSections titled (List.isEmpty_iff.mp hempty)
    · rcases Option.or_eq_some_iff.mp h with hsection | ⟨hfilled, hquestion⟩
      · obtain ⟨i, s, here, empty, rfl, first⟩ := emptySection?_eq_some_iff.mp hsection
        rw [Defect.field_noQuestions, Defect.reason_noQuestions]
        exact .noQuestions titled here empty first
      · obtain ⟨i, s, j, q, here, asked, optionless, rfl, first⟩ :=
          optionless?_eq_some_iff.mp hquestion
        rw [Defect.field_noOptions, Defect.reason_noOptions]
        exact .noOptions titled (emptySection?_eq_none_iff.mp hfilled) here asked optionless first

/-- The first fault is found. -/
theorem FirstFault.exists_defect? {field reason : String} (h : d.FirstFault field reason) :
    ∃ defect, d.defect? = some defect ∧ defect.field = field ∧ defect.reason = reason := by
  cases h with
  | blankTitle blank =>
    exact ⟨.blankTitle, if_pos ((Text.isBlankText_iff _).mpr blank), rfl, rfl⟩
  | noSections titled empty =>
    have hblank := mt (Text.isBlankText_iff _).mp titled
    exact ⟨.noSections, by rw [defect?, if_neg hblank, if_pos (List.isEmpty_iff.mpr empty)], rfl, rfl⟩
  | @noQuestions i s titled here empty first =>
    have hsome : d.sections ≠ [] := List.ne_nil_of_mem (List.mem_of_getElem? here)
    have hfound : d.emptySection? = some (.noQuestions i s.title) :=
      emptySection?_eq_some_iff.mpr ⟨i, s, here, empty, rfl, first⟩
    refine ⟨.noQuestions i s.title, ?_, rfl, rfl⟩
    rw [defect?, if_neg (mt (Text.isBlankText_iff _).mp titled), if_neg (by simpa using hsome), hfound,
      Option.some_or]
  | @noOptions i j s q titled filled here asked optionless first =>
    have hsome : d.sections ≠ [] := List.ne_nil_of_mem (List.mem_of_getElem? here)
    have hfound : d.optionless? = some (.noOptions i j q.title) :=
      optionless?_eq_some_iff.mpr ⟨i, s, j, q, here, asked, optionless, rfl, first⟩
    refine ⟨.noOptions i j q.title, ?_, Defect.field_noOptions i j q.title, rfl⟩
    rw [defect?, if_neg (mt (Text.isBlankText_iff _).mp titled), if_neg (by simpa using hsome),
      emptySection?_eq_none_iff.mpr filled, Option.none_or, hfound]

/-- Nothing is found exactly in definitions that break no rule. -/
theorem defect?_eq_none_iff : d.defect? = none ↔ ¬ d.IsFaulty := by
  rw [defect?, IsFaulty]
  by_cases hblank : Text.isBlankText d.title = true
  · simp [hblank, (Text.isBlankText_iff _).mp hblank]
  · rw [if_neg hblank]
    have titled : Text.strip d.title ≠ "" := mt (Text.isBlankText_iff _).mpr hblank
    by_cases hempty : d.sections = []
    · simp [hempty]
    · rw [if_neg (by simpa using hempty), Option.or_eq_none_iff, emptySection?_eq_none_iff,
        optionless?_eq_none_iff]
      simp [titled, hempty]

end Definition

/-! ### The report -/

/-- `validate_definition` returns the normalized definition, or raises and leaves the world unchanged. -/
theorem Job.run_validate (d : Definition) (w : World) :
    (Job.validate d).run w =
      match d.validate with
      | .ok normal => (.ok normal, w.logged (d.droppedAnswers.map Job.dropped))
      | .error defect => (.error (Job.invalid defect), w) := by
  unfold Job.validate
  rcases d.validate with defect | normal
  · rfl
  · rfl

/-- A continuation runs on the normalized definition. -/
theorem Job.run_bind_validate_ok {α : Type} {d normal : Definition} (h : d.validate = .ok normal)
    (next : Definition → Act World α) (w : World) :
    (Job.validate d >>= next).run w =
      (next normal).run (w.logged (d.droppedAnswers.map Job.dropped)) := by
  have hrun := Job.run_validate d w
  rw [h] at hrun
  exact Act.run_bind_ok hrun

/-- A continuation does not run on a definition that breaks a rule. -/
theorem Job.run_bind_validate_error {α : Type} {d : Definition} {defect : Defect}
    (h : d.validate = .error defect) (next : Definition → Act World α) (w : World) :
    (Job.validate d >>= next).run w = (.error (Job.invalid defect), w) := by
  have hrun := Job.run_validate d w
  rw [h] at hrun
  exact Act.run_bind_error hrun

namespace Definition

variable {d e : Definition} {defect : Defect}

theorem validate_eq_error_iff : d.validate = .error defect ↔ d.defect? = some defect := by
  unfold validate
  rcases d.defect? with _ | found
  · simp
  · simp

theorem validate_eq_ok_iff : d.validate = .ok e ↔ d.defect? = none ∧ d.normalize = e := by
  unfold validate
  rcases d.defect? with _ | found
  · simp
  · simp

end Definition

/-- **Definitions are refused for their first fault.**  `validate_definition` raises exactly if the title is
blank, there are no sections, a section has no questions or a choice question has no options; and then it reports
the first of these faults in this order, at the least indices at which it occurs, without a log record. -/
theorem Job.validate_refuses (d : Definition) (w : World) :
    ((∃ failure v, (Job.validate d).run w = (.error failure, v)) ↔ d.IsFaulty) ∧
      ∀ failure v, (Job.validate d).run w = (.error failure, v) ↔
        v = w ∧ ∃ field reason, d.FirstFault field reason ∧
          failure = ⟨.invalidForm field reason, []⟩ := by
  have hrun := Job.run_validate d w
  rcases hfound : d.defect? with _ | defect
  · have hvalid : d.validate = .ok d.normalize := Definition.validate_eq_ok_iff.mpr ⟨hfound, rfl⟩
    have hfaulty : ¬ d.IsFaulty := Definition.defect?_eq_none_iff.mp hfound
    rw [hvalid] at hrun
    rw [hrun]
    refine ⟨by simp [hfaulty], fun failure v => ⟨nofun, ?_⟩⟩
    rintro ⟨-, field, reason, hfirst, -⟩
    obtain ⟨defect, hdefect, -⟩ := hfirst.exists_defect?
    rw [hfound] at hdefect
    cases hdefect
  · have hfaulty : d.IsFaulty := Classical.not_not.mp fun hnot => by
      rw [Definition.defect?_eq_none_iff.mpr hnot] at hfound
      cases hfound
    rw [Definition.validate_eq_error_iff.mpr hfound] at hrun
    rw [hrun]
    refine ⟨⟨fun _ => hfaulty, fun _ => ⟨_, _, rfl⟩⟩, fun failure v => ⟨?_, ?_⟩⟩
    · rintro ⟨⟩
      exact ⟨rfl, _, _, Definition.firstFault_of_defect? hfound, rfl⟩
    · rintro ⟨rfl, field, reason, hfirst, rfl⟩
      -- there is one first fault only, since there is one defect that is found
      obtain ⟨other, hother, rfl, rfl⟩ := hfirst.exists_defect?
      obtain rfl : other = defect := Option.some.inj (hother.symm.trans hfound)
      rfl

/-- The empty second section is the first fault, not the question without options in front of it. -/
example :
    let early : FormSection :=
      { title := "A", questions := [⟨"Pick", .known .checkboxes, [], none, false, none, []⟩] }
    ({ title := "Form", sections := [early, { title := "B" }] } : Definition).defect? =
      some (.noQuestions 1 "B") := by
  decide

end Formwork
