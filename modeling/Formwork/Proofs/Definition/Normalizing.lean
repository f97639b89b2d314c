import Formwork.Proofs.Definition.Faults
import Formwork.Proofs.Definition.Normal
import Mathlib.Data.List.Forall2

/-!
# What validation changes

`validate_definition` returns a normalized copy of a definition that breaks no rule.  `Definition.NormalizedTo` states
it field by field: blank texts become `None`, quiz settings are kept for quizzes, and correct answers are kept where
they are options of a choice question, each at its first occurrence; everything else is unchanged.
`Job.validate_normalizes` proves that, and that the warnings are exactly those for the answers that are no options,
one for each occurrence, in the order of the form.

Validation is idempotent: the second one changes nothing (`Definition.validate_normal`) and logs nothing
(`Job.validate_settles`).
-/
namespace Formwork

/-! ### The normalized copy -/

/-- An optional text and its normalized form: a blank text becomes `None`. -/
inductive Text.KeptAs : Option String → Option String → Prop
  | absent : KeptAs none none
  | blank {text : String} (h : strip text = "") : KeptAs (some text) none
  | text {text : String} (h : strip text ≠ "") : KeptAs (some text) (some text)

/-- A question and its normalized form. -/
structure Question.NormalizedTo (q r : Question) : Prop where
  title : r.title = q.title
  kind : r.kind = q.kind
  options : r.options = q.options
  imageUrl : Text.KeptAs q.imageUrl r.imageUrl
  required : r.required = q.required
  points : r.points = q.points
  /-- The answers among the options, in order, each at its first occurrence. -/
  choiceAnswers : q.kind = .known .multipleChoice ∨ q.kind = .known .checkboxes →
    r.correctAnswers = (q.correctAnswers.filter (· ∈ q.options)).eraseDups
  otherAnswers : ¬ (q.kind = .known .multipleChoice ∨ q.kind = .known .checkboxes) →
    r.correctAnswers = []

/-- A section and its normalized form. -/
structure FormSection.NormalizedTo (s t : FormSection) : Prop where
  title : t.title = s.title
  description : Text.KeptAs s.description t.description
  questions : List.Forall₂ Question.NormalizedTo s.questions t.questions

/-- A definition and its normalized form. -/
structure Definition.NormalizedTo (d e : Definition) : Prop where
  title : e.title = d.title
  description : Text.KeptAs d.description e.description
  sections : List.Forall₂ FormSection.NormalizedTo d.sections e.sections
  isQuiz : e.isQuiz = d.isQuiz
  quizSettings : e.quizSettings = if d.isQuiz then d.quizSettings else none

/-- An occurrence of a correct answer of a choice question that is not among its options. -/
structure StrayAnswer where
  /-- The index of the section. -/
  sectionIndex : Nat
  /-- The index of the question in its section. -/
  questionIndex : Nat
  /-- The index among the correct answers. -/
  answerIndex : Nat
  /-- The answer. -/
  answer : String

namespace StrayAnswer

/-- The definition has this answer at these indices, and it is no option. -/
def OccursIn (d : Definition) (stray : StrayAnswer) : Prop :=
  ∃ s q, d.sections[stray.sectionIndex]? = some s ∧ s.questions[stray.questionIndex]? = some q ∧
    (q.kind = .known .multipleChoice ∨ q.kind = .known .checkboxes) ∧
    q.correctAnswers[stray.answerIndex]? = some stray.answer ∧ stray.answer ∉ q.options

/-- The order of the form: by section, then question, then answer. -/
def Before (a b : StrayAnswer) : Prop :=
  a.sectionIndex < b.sectionIndex ∨ a.sectionIndex = b.sectionIndex ∧
    (a.questionIndex < b.questionIndex ∨ a.questionIndex = b.questionIndex ∧
      a.answerIndex < b.answerIndex)

/-- The warning for a dropped answer. -/
def warning (stray : StrayAnswer) : LogRecord where
  level := .warning
  logger := "formforge.services.form_validation"
  message :=
    s!"sections[{stray.sectionIndex}].questions[{stray.questionIndex}]: dropping correct answer {
      Text.display stray.answer} not among options"

end StrayAnswer

/-! ### Texts -/

namespace Text

theorem keptAs_present? (text : Option String) : KeptAs text (present? text) := by
  cases text with
  | none => exact .absent
  | some text =>
    rw [present?]
    split
    · rename_i hblank
      exact .blank ((isBlankText_iff text).mp hblank)
    · rename_i hblank
      exact .text (mt (isBlankText_iff text).mpr hblank)

theorem present?_present? (text : Option String) : present? (present? text) = present? text := by
  cases text with
  | none => rfl
  | some text => by_cases hblank : isBlankText text = true <;> simp [present?, hblank]

end Text

/-! ### Answers -/

section Duplicates

variable {α : Type} [BEq α] [LawfulBEq α]

/-- A list without duplicates is unchanged by their removal. -/
theorem eraseDups_eq_self {items : List α} (h : items.Nodup) : items.eraseDups = items := by
  induction items with
  | nil => rfl
  | cons first rest ih =>
    obtain ⟨hfirst, hrest⟩ := List.nodup_cons.mp h
    have hkept : rest.filter (fun item => !item == first) = rest := by
      refine List.filter_eq_self.mpr fun item hitem => ?_
      rw [Bool.not_eq_true', beq_eq_false_iff_ne]
      rintro rfl
      exact hfirst hitem
    rw [List.eraseDups_cons, hkept, ih hrest]

theorem nodup_eraseDups (items : List α) : items.eraseDups.Nodup := by
  match items with
  | [] => exact List.nodup_nil
  | first :: rest =>
    rw [List.eraseDups_cons, List.nodup_cons]
    refine ⟨fun hmem => ?_, nodup_eraseDups _⟩
    simpa using List.mem_eraseDups.mp hmem
termination_by items.length
decreasing_by exact Nat.lt_succ_of_le (List.length_filter_le _ _)

end Duplicates

namespace Question

/-- The answers kept by the loop, behind those kept already: the options among them, each once. -/
theorem keepAnswers_eq (options kept answers : List String) :
    keepAnswers options kept answers =
      kept ++ ((answers.filter (· ∈ options)).filter (· ∉ kept)).eraseDups := by
  induction answers generalizing kept with
  | nil => simp [keepAnswers]
  | cons answer rest ih =>
    rw [keepAnswers, List.filter_cons]
    by_cases hoption : answer ∈ options
    · by_cases hkept : answer ∈ kept
      · simp [hoption, hkept, ih]
      · -- the answer is new, and what is listed behind it must differ from it
        have hbehind : (rest.filter (· ∈ options)).filter (· ∉ kept ++ [answer]) =
            ((rest.filter (· ∈ options)).filter (· ∉ kept)).filter fun other => !other == answer := by
          rw [List.filter_filter (l := rest.filter _)]
          refine List.filter_congr fun other _ => ?_
          rw [Bool.eq_iff_iff]
          simp [and_comm]
        simp only [hoption, hkept, ih, hbehind, decide_true, if_true, List.filter_cons,
          not_false_eq_true, List.eraseDups_cons, List.append_assoc]
        simp [hoption, hkept]
    · simp [hoption, ih]

/-- The valid answers of a question: the options among its correct answers, each at its first occurrence. -/
theorem validAnswers_eq (q : Question) (h : q.kind.isChoice = true) :
    q.validAnswers = (q.correctAnswers.filter (· ∈ q.options)).eraseDups := by
  rw [validAnswers, if_pos h, keepAnswers_eq, List.nil_append, List.filter_eq_self.mpr (by simp)]

theorem normalizedTo_normalize (q : Question) : q.NormalizedTo q.normalize where
  title := rfl
  kind := rfl
  options := rfl
  imageUrl := Text.keptAs_present? q.imageUrl
  required := rfl
  points := rfl
  choiceAnswers h := q.validAnswers_eq (q.kind.isChoice_iff.mpr h)
  otherAnswers h := if_neg (mt q.kind.isChoice_iff.mp h)

end Question

theorem FormSection.normalizedTo_normalize (s : FormSection) : s.NormalizedTo s.normalize where
  title := rfl
  description := Text.keptAs_present? s.description
  questions :=
    List.forall₂_map_right_iff.mpr (List.forall₂_same.mpr fun q _ => q.normalizedTo_normalize)

theorem Definition.normalizedTo_normalize (d : Definition) : d.NormalizedTo d.normalize where
  title := rfl
  description := Text.keptAs_present? d.description
  sections :=
    List.forall₂_map_right_iff.mpr (List.forall₂_same.mpr fun s _ => s.normalizedTo_normalize)
  isQuiz := rfl
  quizSettings := rfl

/-! ### The warnings -/

/-- A numbered list maps to an ordered list if each item maps to an ordered list and the lists of earlier items
come before those of later ones. -/
theorem pairwise_flatMap_zipIdx {α β : Type} {before : β → β → Prop} {f : α × Nat → List β}
    {items : List α} (hitem : ∀ a i, (f (a, i)).Pairwise before)
    (hitems : ∀ a i b j, i < j → ∀ x ∈ f (a, i), ∀ y ∈ f (b, j), before x y) :
    (items.zipIdx.flatMap f).Pairwise before := by
  refine List.pairwise_flatMap.mpr ⟨fun ⟨a, i⟩ _ => hitem a i, ?_⟩
  have hnumbers : (items.zipIdx.map Prod.snd).Pairwise (· < ·) := by
    rw [List.zipIdx_map_snd]
    exact List.pairwise_lt_range' 1
  exact (List.pairwise_map.mp hnumbers).imp fun {x y} hlt => hitems x.1 x.2 y.1 y.2 hlt

namespace Question

/-- The stray answers of a question at these indices, in order. -/
def strays (i j : Nat) (q : Question) : List StrayAnswer :=
  q.correctAnswers.zipIdx.flatMap fun (answer, k) =>
    if q.kind.isChoice ∧ answer ∉ q.options then [⟨i, j, k, answer⟩] else []

theorem mem_strays {i j : Nat} {q : Question} {stray : StrayAnswer} :
    stray ∈ q.strays i j ↔ stray.sectionIndex = i ∧ stray.questionIndex = j ∧
      q.kind.isChoice = true ∧ q.correctAnswers[stray.answerIndex]? = some stray.answer ∧
        stray.answer ∉ q.options := by
  simp only [strays, List.mem_flatMap, Prod.exists, List.mem_zipIdx_iff_getElem?]
  constructor
  · rintro ⟨answer, k, hlisted, hmem⟩
    split at hmem
    · rename_i hstray
      obtain rfl := List.mem_singleton.mp hmem
      exact ⟨rfl, rfl, hstray.1, hlisted, hstray.2⟩
    · cases hmem
  · rintro ⟨rfl, rfl, hchoice, hlisted, hstray⟩
    exact ⟨stray.answer, stray.answerIndex, hlisted, by simp [hchoice, hstray]⟩

theorem pairwise_strays (i j : Nat) (q : Question) : (q.strays i j).Pairwise StrayAnswer.Before := by
  refine pairwise_flatMap_zipIdx (fun answer k => ?_) fun a k b l hlt x hx y hy => ?_
  · dsimp only
    split
    · exact List.pairwise_singleton _ _
    · exact List.Pairwise.nil
  · simp only [List.mem_ite_nil_right, List.mem_singleton] at hx hy
    rw [hx.2, hy.2]
    exact Or.inr ⟨rfl, Or.inr ⟨rfl, hlt⟩⟩

end Question

/-- The warning is the message for a dropped answer. -/
theorem StrayAnswer.warning_eq (stray : StrayAnswer) :
    stray.warning = Job.dropped ⟨stray.sectionIndex, stray.questionIndex, stray.answer⟩ := by
  have hmark : "]: dropping correct answer " = "]" ++ ": dropping correct answer " := by decide
  rw [warning, Job.dropped, DroppedAnswer.message, Defect.questionPath, LogRecord.validation]
  refine congrArg (LogRecord.mk .warning _) ?_
  simp only [toString, hmark, String.append_assoc]

namespace Question

/-- The stray answers of a question are those that normalization drops. -/
theorem map_warning_strays (i j : Nat) (q : Question) :
    (q.strays i j).map StrayAnswer.warning =
      q.strayAnswers.map fun answer => Job.dropped ⟨i, j, answer⟩ := by
  by_cases hchoice : q.kind.isChoice = true
  · have hanswers : ∀ answers : List String,
        (answers.flatMap fun answer =>
            if answer ∉ q.options then [Job.dropped ⟨i, j, answer⟩] else []) =
          (answers.filter fun answer => !q.options.contains answer).map
            fun answer => Job.dropped ⟨i, j, answer⟩ := by
      intro answers
      induction answers with
      | nil => rfl
      | cons answer rest ih =>
        rw [List.flatMap_cons, ih, List.filter_cons]
        by_cases hoption : answer ∈ q.options <;> simp [hoption]
    rw [strayAnswers, if_pos hchoice, ← hanswers]
    -- the places of the answers do not show in the warnings
    conv_rhs => rw [← List.zipIdx_map_fst 0 q.correctAnswers, List.flatMap_map]
    rw [strays, List.map_flatMap]
    refine List.flatMap_congr fun ⟨answer, k⟩ _ => ?_
    by_cases hoption : answer ∈ q.options
    · simp [hoption]
    · simp [hchoice, hoption, StrayAnswer.warning_eq]
  · simp [strays, strayAnswers, hchoice]

end Question

namespace Definition

/-- The stray answers of a definition, in order. -/
def strays (d : Definition) : List StrayAnswer :=
  d.sections.zipIdx.flatMap fun (s, i) => s.questions.zipIdx.flatMap fun (q, j) => q.strays i j

theorem mem_strays {d : Definition} {stray : StrayAnswer} :
    stray ∈ d.strays ↔ stray.OccursIn d := by
  simp only [strays, List.mem_flatMap, Prod.exists, List.mem_zipIdx_iff_getElem?,
    Question.mem_strays, Kind.isChoice_iff]
  constructor
  · rintro ⟨s, i, hs, q, j, hq, rfl, rfl, hstray⟩
    exact ⟨s, q, hs, hq, hstray⟩
  · rintro ⟨s, q, hs, hq, hstray⟩
    exact ⟨s, _, hs, q, _, hq, rfl, rfl, hstray⟩

theorem pairwise_strays (d : Definition) : d.strays.Pairwise StrayAnswer.Before := by
  refine pairwise_flatMap_zipIdx (fun s i => ?_) fun s i t k hlt x hx y hy => ?_
  · refine pairwise_flatMap_zipIdx (fun q j => q.pairwise_strays i j) fun q j r l hlt x hx y hy => ?_
    obtain ⟨hxi, hxj, -⟩ := Question.mem_strays.mp hx
    obtain ⟨hyi, hyj, -⟩ := Question.mem_strays.mp hy
    exact Or.inr ⟨hxi.trans hyi.symm, Or.inl (by rwa [hxj, hyj])⟩
  · obtain ⟨q, -, hx⟩ := List.mem_flatMap.mp hx
    obtain ⟨r, -, hy⟩ := List.mem_flatMap.mp hy
    exact Or.inl (by rwa [(Question.mem_strays.mp hx).1, (Question.mem_strays.mp hy).1])

theorem map_warning_strays (d : Definition) :
    d.strays.map StrayAnswer.warning = d.droppedAnswers.map Job.dropped := by
  simp only [strays, droppedAnswers, List.map_flatMap, Question.map_warning_strays, List.map_map,
    Function.comp_def]

end Definition

/-- **What validation returns and logs.**  Blank texts become `None`, the quiz settings of a form that is no quiz
are dropped, correct answers are kept where they are options, once each, and all else is unchanged.  The warnings
are those for the occurrences of answers that are no options, in the order of the form, and nothing else is
logged. -/
theorem Job.validate_normalizes {d e : Definition} {w v : World}
    (h : (Job.validate d).run w = (.ok e, v)) :
    d.NormalizedTo e ∧ ∃ strays : List StrayAnswer,
      (∀ stray, stray ∈ strays ↔ stray.OccursIn d) ∧ strays.Pairwise StrayAnswer.Before ∧
        v = w.logged (strays.map StrayAnswer.warning) := by
  rw [Job.run_validate] at h
  rcases hvalidate : d.validate with defect | normal
  · rw [hvalidate] at h
    cases h
  · rw [hvalidate] at h
    cases h
    obtain ⟨-, rfl⟩ := Definition.validate_eq_ok_iff.mp hvalidate
    refine ⟨d.normalizedTo_normalize, d.strays, fun stray => Definition.mem_strays,
      d.pairwise_strays, ?_⟩
    rw [Definition.map_warning_strays]

/-- A survey with a blank description, quiz settings, an unknown kind with a correct answer, and a choice question
with a stray answer that occurs twice. -/
theorem Job.validate_normalizes_survey :
    let d : Definition :=
      { title := "Survey"
        description := some " "
        sections := [⟨"Page", some "About you", [
          ⟨"Born", Kind.ofName "DATE", [], some "", true, some 1, ["2001"]⟩,
          ⟨"City", .known .checkboxes, ["Rome", "Paris"], none, false, none,
            ["Oslo", "Paris", "Oslo", "Rome", "Paris"]⟩]⟩]
        quizSettings := some {} }
    let e : Definition :=
      { title := "Survey"
        sections := [⟨"Page", some "About you", [
          ⟨"Born", Kind.ofName "DATE", [], none, true, some 1, []⟩,
          ⟨"City", .known .checkboxes, ["Rome", "Paris"], none, false, none, ["Paris", "Rome"]⟩]⟩] }
    let w : World := { now := Moment.epoch }
    let v := w.logged [Job.dropped ⟨0, 1, "Oslo"⟩, Job.dropped ⟨0, 1, "Oslo"⟩]
    (Job.validate d).run w = (.ok e, v) ∧ d.NormalizedTo e ∧ ∃ strays : List StrayAnswer,
      (∀ stray, stray ∈ strays ↔ stray.OccursIn d) ∧ strays.Pairwise StrayAnswer.Before ∧
        v = w.logged (strays.map StrayAnswer.warning) := by
  intro d e w v
  have hvalid : d.validate = .ok e := by decide
  have hdropped : d.droppedAnswers = [⟨0, 1, "Oslo"⟩, ⟨0, 1, "Oslo"⟩] := by decide
  have hrun : (Job.validate d).run w = (.ok e, v) := by
    rw [Job.run_validate, hvalid, hdropped]
    rfl
  exact ⟨hrun, Job.validate_normalizes hrun⟩

/-! ### Idempotence -/

namespace Question

theorem validAnswers_normalize (q : Question) : q.normalize.validAnswers = q.validAnswers := by
  by_cases hchoice : q.kind.isChoice = true
  · rw [validAnswers_eq q.normalize hchoice]
    have hoptions : q.validAnswers.filter (· ∈ q.options) = q.validAnswers :=
      List.filter_eq_self.mpr fun answer h => decide_eq_true (q.normal_normalize.answers answer h).1
    have hnodup : q.validAnswers.Nodup := by
      rw [validAnswers_eq q hchoice]
      exact nodup_eraseDups _
    exact (congrArg List.eraseDups hoptions).trans (eraseDups_eq_self hnodup)
  · exact (if_neg hchoice).trans (if_neg hchoice).symm

theorem normalize_normalize (q : Question) : q.normalize.normalize = q.normalize := by
  rw [normalize, validAnswers_normalize]
  simp only [normalize, Text.present?_present?]

theorem strayAnswers_normalize (q : Question) : q.normalize.strayAnswers = [] := by
  rw [strayAnswers]
  split
  · refine List.filter_eq_nil_iff.mpr fun answer h => ?_
    have hoption : answer ∈ q.normalize.options := (q.normal_normalize.answers answer h).1
    simpa using hoption
  · rfl

end Question

theorem FormSection.normalize_normalize (s : FormSection) : s.normalize.normalize = s.normalize := by
  simp only [normalize, Text.present?_present?, List.map_map, Function.comp_def,
    Question.normalize_normalize]

namespace Definition

theorem normalize_normalize (d : Definition) : d.normalize.normalize = d.normalize := by
  have hsections : (d.sections.map FormSection.normalize).map FormSection.normalize =
      d.sections.map FormSection.normalize := by
    rw [List.map_map]
    exact List.map_congr_left fun s _ => s.normalize_normalize
  have hsettings : (if d.isQuiz then (if d.isQuiz then d.quizSettings else none) else none) =
      if d.isQuiz then d.quizSettings else none := by
    cases hquiz : d.isQuiz <;> rfl
  simp only [normalize, Text.present?_present?, hsections]
  exact congrArg _ hsettings

/-- Normalization changes nothing that the rules check. -/
theorem defect?_normalize (d : Definition) : d.normalize.defect? = d.defect? := by
  have hsections : d.normalize.sections.isEmpty = d.sections.isEmpty := List.isEmpty_map
  have hempty : d.normalize.emptySection? = d.emptySection? := by
    rw [emptySection?, normalize, List.zipIdx_map, List.findSome?_map]
    simp [emptySection?, Function.comp_def, FormSection.normalize]
  have hoptionless : d.normalize.optionless? = d.optionless? := by
    rw [optionless?, normalize, List.zipIdx_map, List.findSome?_map, optionless?]
    congr 1
    funext entry
    obtain ⟨s, i⟩ := entry
    show s.normalize.questions.zipIdx.findSome? _ = s.questions.zipIdx.findSome? _
    rw [FormSection.normalize, List.zipIdx_map, List.findSome?_map]
    rfl
  have htitle : d.normalize.title = d.title := rfl
  rw [defect?, hsections, hempty, hoptionless, htitle, defect?]

/-- **Normalization is idempotent**: the second one changes nothing and drops nothing. -/
theorem validate_normal {d e : Definition} (h : d.validate = .ok e) :
    e.validate = .ok e ∧ e.droppedAnswers = [] := by
  obtain ⟨hdefect, rfl⟩ := validate_eq_ok_iff.mp h
  refine ⟨validate_eq_ok_iff.mpr ⟨d.defect?_normalize.trans hdefect, d.normalize_normalize⟩, ?_⟩
  simp [droppedAnswers, normalize, FormSection.normalize, List.zipIdx_map, List.flatMap_map,
    Question.strayAnswers_normalize]

end Definition

/-- A definition is accepted exactly if it normalizes, and the warnings are those for the dropped answers. -/
theorem Job.run_validate_eq_ok {d e : Definition} {w v : World} :
    (Job.validate d).run w = (.ok e, v) ↔
      d.validate = .ok e ∧ v = w.logged (d.droppedAnswers.map Job.dropped) := by
  rw [Job.run_validate]
  rcases d.validate with defect | normal
  · simp
  · rw [Prod.mk.injEq, Except.ok.injEq, Except.ok.injEq, eq_comm (a := v)]

/-- **What was accepted is accepted again unchanged.**  In every world the second validation returns the same
definition and leaves the world unchanged: it logs nothing. -/
theorem Job.validate_settles {d e : Definition} {w v : World}
    (h : (Job.validate d).run w = (.ok e, v)) (u : World) :
    (Job.validate e).run u = (.ok e, u) := by
  obtain ⟨hvalid, -⟩ := Job.run_validate_eq_ok.mp h
  obtain ⟨hagain, hdropped⟩ := Definition.validate_normal hvalid
  have hsilent : u = u.logged (e.droppedAnswers.map Job.dropped) := by
    rw [hdropped, List.map_nil, World.logged, List.append_nil]
  exact Job.run_validate_eq_ok.mpr ⟨hagain, hsilent⟩

/-- A quiz with blank texts on every level, a stray answer, and an answer that occurs twice. -/
theorem Job.validate_settles_quiz :
    let d : Definition :=
      { title := "Capitals"
        description := some ""
        sections := [⟨"Quiz", some "\t", [⟨"France?", .known .multipleChoice, ["Rome", "Paris"],
          some " ", true, some 2, ["Paris", "Oslo", "Paris"]⟩]⟩]
        isQuiz := true
        quizSettings := some {} }
    let e : Definition :=
      { title := "Capitals"
        sections := [⟨"Quiz", none, [⟨"France?", .known .multipleChoice, ["Rome", "Paris"], none, true,
          some 2, ["Paris"]⟩]⟩]
        isQuiz := true
        quizSettings := some {} }
    let w : World := { now := Moment.epoch }
    let v := w.logged [Job.dropped ⟨0, 0, "Oslo"⟩]
    (Job.validate d).run w = (.ok e, v) ∧ (Job.validate e).run v = (.ok e, v) := by
  intro d e w v
  have hvalid : d.validate = .ok e := by decide
  have hdropped : d.droppedAnswers = [⟨0, 0, "Oslo"⟩] := by decide
  have hrun : (Job.validate d).run w = (.ok e, v) :=
    Job.run_validate_eq_ok.mpr ⟨hvalid, by rw [hdropped]; rfl⟩
  exact ⟨hrun, Job.validate_settles hrun v⟩

end Formwork
