import Formwork.Proofs.Definition.Normalizing
import Formwork.Script.Compile

/-!
# Scripts of normalized definitions

`compile_script` emits the same text for a definition and for its normalized form, up to whitespace-only texts.  It
skips a text that is `None` or empty, marks a correct answer only where it is an option, and reads the quiz settings
only of a quiz.  A whitespace-only text it emits, and normalization drops it.  So the scripts are equal if the
definition has no such text (`script_of_normal_form`).
-/
namespace Formwork

/-! ### Whitespace-only texts -/

/-- An optional text that is not whitespace only: if it is not empty, stripping it leaves something. -/
def Text.Unblank (text : Option String) : Prop := ∀ said ∈ text, said ≠ "" → strip said ≠ ""

instance (text : Option String) : Decidable (Text.Unblank text) :=
  inferInstanceAs (Decidable (∀ said ∈ text, said ≠ "" → Text.strip said ≠ ""))

/-- No description and no image URL is whitespace only. -/
structure Definition.Unblank (d : Definition) : Prop where
  description : Text.Unblank d.description
  descriptions : ∀ s ∈ d.sections, Text.Unblank s.description
  images : ∀ s ∈ d.sections, ∀ q ∈ s.questions, Text.Unblank q.imageUrl

/-- Of such a text, a script emits the same as of its normalized form. -/
theorem Text.nonempty?_of_unblank {text : Option String} (h : Unblank text) :
    nonempty? (present? text) = nonempty? text := by
  rw [nonempty?_present?]
  cases text with
  | none => rfl
  | some said =>
    by_cases hempty : said = ""
    · subst hempty
      decide
    · have hblank : ¬ isBlankText said = true := mt (isBlankText_iff said).mp (h said rfl hempty)
      simp [present?, nonempty?, hblank, hempty]

namespace Script

variable {w : Wording} {isQuiz : Bool} {q : Question} {s : FormSection}

/-- The marked options are those among the correct answers, and normalization drops no option. -/
theorem choices_normalize (item : Expr) (h : q.kind.isChoice = true) :
    choices item q.normalize = choices item q := by
  have hmarked : ∀ option ∈ q.options,
      q.validAnswers.contains option = q.correctAnswers.contains option := by
    intro option hoption
    rw [Question.validAnswers_eq q h, Bool.eq_iff_iff, List.contains_iff_mem, List.contains_iff_mem,
      List.mem_eraseDups, List.mem_filter]
    simp [hoption]
  refine congrArg Expr.array (List.map_congr_left fun option hoption => ?_)
  show item.method "createChoice" [.literal option, .truth (q.validAnswers.contains option)] = _
  rw [hmarked option hoption]

theorem question_normalize (name : ItemName) (himage : Text.Unblank q.imageUrl) :
    question w isQuiz name q.normalize = question w isQuiz name q := by
  let item := Expr.name name.text
  have hchoices : (if q.kind.isChoice && !q.options.isEmpty then
      [invoke item "setChoices" [choices item q.normalize]] else []) =
      if q.kind.isChoice && !q.options.isEmpty then
        [invoke item "setChoices" [choices item q]] else [] := by
    cases hchoice : q.kind.isChoice with
    | false => rfl
    | true => rw [choices_normalize item hchoice]
  have hurl : Text.nonempty? q.normalize.imageUrl = Text.nonempty? q.imageUrl :=
    Text.nonempty?_of_unblank himage
  -- all other pieces are about what normal form keeps
  show _ ++ (if q.kind.isChoice && !q.options.isEmpty then
      [invoke item "setChoices" [choices item q.normalize]] else []) ++ _ = _
  rw [hchoices, hurl]
  rfl

theorem questions_normalize (names : Nat → ItemName) (first : Nat) {qs : List Question}
    (himages : ∀ q ∈ qs, Text.Unblank q.imageUrl) :
    questions w isQuiz names first (qs.map Question.normalize) =
      questions w isQuiz names first qs := by
  induction qs generalizing first with
  | nil => rfl
  | cons q rest ih =>
    obtain ⟨hq, hrest⟩ := List.forall_mem_cons.mp himages
    rw [List.map_cons, questions, questions, question_normalize (names first) hq, ih (first + 1) hrest]

theorem pageBreak_normalize (index : Nat) (hdescription : Text.Unblank s.description) :
    pageBreak index s.normalize = pageBreak index s := by
  have htext : Text.nonempty? s.normalize.description = Text.nonempty? s.description :=
    Text.nonempty?_of_unblank hdescription
  unfold pageBreak
  rw [htext]
  rfl

theorem sections_normalize (names : Nat → ItemName) (index first : Nat) {ss : List FormSection}
    (hdescriptions : ∀ s ∈ ss, Text.Unblank s.description)
    (himages : ∀ s ∈ ss, ∀ q ∈ s.questions, Text.Unblank q.imageUrl) :
    sections w isQuiz names index first (ss.map FormSection.normalize) =
      sections w isQuiz names index first ss := by
  induction ss generalizing index first with
  | nil => rfl
  | cons s rest ih =>
    obtain ⟨-, hdescriptions⟩ := List.forall_mem_cons.mp hdescriptions
    obtain ⟨himage, himages⟩ := List.forall_mem_cons.mp himages
    have hquestions : questions w isQuiz names first (s.questions.map Question.normalize) =
        questions w isQuiz names first s.questions := questions_normalize names first himage
    have hcount : s.normalize.questions.length = s.questions.length := List.length_map ..
    cases rest with
    | nil =>
      show _ :: _ :: questions w isQuiz names first (s.questions.map Question.normalize) ++ [] ++ [] = _
      rw [hquestions]
      rfl
    | cons next more =>
      have hbreak := pageBreak_normalize index (hdescriptions next List.mem_cons_self)
      have hmore := ih (index + 1) (first + s.questions.length) hdescriptions himages
      show _ :: _ :: questions w isQuiz names first (s.questions.map Question.normalize)
        ++ pageBreak index next.normalize
        ++ sections w isQuiz names (index + 1) (first + s.normalize.questions.length)
          ((next :: more).map FormSection.normalize) = _
      rw [hquestions, hbreak, hcount, hmore]
      rfl

theorem opening_normalize {d : Definition} (hdescription : Text.Unblank d.description) :
    opening w d.normalize = opening w d := by
  have htext : Text.nonempty? d.normalize.description = Text.nonempty? d.description :=
    Text.nonempty?_of_unblank hdescription
  have hsettings : d.isQuiz = true → d.normalize.quizSettings = d.quizSettings := fun h => if_pos h
  unfold opening
  rw [htext]
  show _ ++ (if d.isQuiz then _ else _) = _
  cases hquiz : d.isQuiz with
  | false => rfl
  | true =>
    rw [hsettings hquiz]
    rfl

end Script

/-- **Normalization does not change the script.**  A validated definition without whitespace-only descriptions and
image URLs has the same script as its normalized form, for all options and item names. -/
theorem Definition.script_of_normal_form {d e : Definition} (h : d.validate = .ok e) (hd : d.Unblank)
    (options : Script.Options) (names : Nat → ItemName) :
    (e.script options names).text = (d.script options names).text := by
  obtain ⟨-, rfl⟩ := validate_eq_ok_iff.mp h
  let w := Script.Wording.ofLocale options.locale
  have hopening : Script.opening w d.normalize = Script.opening w d :=
    Script.opening_normalize hd.description
  have hsections : Script.sections w d.isQuiz names 0 0 (d.sections.map FormSection.normalize) =
      Script.sections w d.isQuiz names 0 0 d.sections :=
    Script.sections_normalize names 0 0 hd.descriptions hd.images
  have hbody : (d.normalize.script options names).body = (d.script options names).body := by
    show Script.opening w d.normalize
      ++ Script.sections w d.isQuiz names 0 0 (d.sections.map FormSection.normalize) ++ _ ++ _ = _
    rw [hopening, hsections]
    rfl
  -- the head of a script is the same for all definitions
  rw [Script.text, Script.text, Script.render, Script.render, hbody]
  rfl

/-- A survey with empty texts, quiz settings, a correct answer of a text question, and correct answers that are
repeated or are no options. -/
theorem Definition.script_of_normal_form_survey :
    let d : Definition :=
      { title := "Survey"
        description := some ""
        sections := [
          ⟨"You", some "", [⟨"Born", .known .shortAnswer, [], some "", true, some 1, ["2001"]⟩]⟩,
          ⟨"Places", some "Where?", [⟨"City", .known .checkboxes, ["Rome", "Paris"],
            some "https://x/map.png", false, none, ["Oslo", "Paris", "Paris"]⟩]⟩]
        quizSettings := some {} }
    let e : Definition :=
      { title := "Survey"
        sections := [
          ⟨"You", none, [⟨"Born", .known .shortAnswer, [], none, true, some 1, []⟩]⟩,
          ⟨"Places", some "Where?", [⟨"City", .known .checkboxes, ["Rome", "Paris"],
            some "https://x/map.png", false, none, ["Paris"]⟩]⟩] }
    let options : Script.Options := { resultsSheet := true, locale := .vi }
    d.validate = .ok e ∧ d.Unblank ∧
      (e.script options ItemName.numbered).text = (d.script options ItemName.numbered).text := by
  intro d e options
  have hvalid : d.validate = .ok e := by decide
  have hd : d.Unblank := ⟨by decide, by decide, by decide⟩
  exact ⟨hvalid, hd, script_of_normal_form hvalid hd options ItemName.numbered⟩

end Formwork
