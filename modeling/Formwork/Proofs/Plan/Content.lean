import Formwork.Proofs.Definition.Normal
import Formwork.Proofs.Plan.Encoding
import Formwork.Proofs.Plan.Replay

/-!
# What the requests of a form determine

`Definition.SameContent` lists what the requests of a plan encode: whether the form is a quiz and its quiz settings,
title and description of every section but the first, and of each question the members that its item is built from
(`Question.Agrees`).  Title and description of the form, those of its first section and correct answers of questions
without points are not among them.

The requests determine the operations (`Operation.clean_eq_of_same`), the operations the settings and the items, and
the items the sections, because no question item is a page break.
-/
namespace Formwork

/-- The kind that the item of a question has; an unknown kind is a short answer. -/
def Kind.asked : Kind → KnownKind
  | .known kind => kind
  | .other .. => .shortAnswer

/-- Two questions with the same item. -/
structure Question.Agrees (p q : Question) : Prop where
  title : p.title = q.title
  kind : p.kind.asked = q.kind.asked
  image : p.imageUrl = q.imageUrl
  /-- An image item is not required. -/
  required : p.kind.isImage = false → p.required = q.required
  options : p.kind.isChoice = true → p.options = q.options
  /-- Absent points and zero points are the same. -/
  points : p.kind.isImage = false → p.points.getD 0 = q.points.getD 0
  answers : p.kind.isImage = false → 0 < p.points.getD 0 → p.correctAnswers = q.correctAnswers

/-- Two sections with the same page break. -/
def FormSection.SameHeading (s t : FormSection) : Prop :=
  s.title = t.title ∧ s.description = t.description

/-- Two sections with the same items for their questions. -/
def FormSection.SameQuestions (s t : FormSection) : Prop :=
  List.Forall₂ Question.Agrees s.questions t.questions

/-- Two definitions with the same requests. -/
structure Definition.SameContent (d e : Definition) : Prop where
  quiz : d.isQuiz = e.isQuiz
  settings : d.isQuiz = true → d.quizSettings = e.quizSettings
  /-- The first section has no page break. -/
  headings : List.Forall₂ FormSection.SameHeading d.sections.tail e.sections.tail
  questions : List.Forall₂ FormSection.SameQuestions d.sections e.sections

/-! ### Questions -/

theorem Kind.isImage_eq_asked (k : Kind) : k.isImage = (k.asked == .imageDisplay) := by
  cases k with
  | known kind => cases kind <;> decide
  | other word unknown => rfl

namespace Question

variable {p q : Question}

/-- The body of a question determines its kind, and the options of a choice question. -/
theorem planBody_eq_iff (hp : p.kind.isImage = false) (hq : q.kind.isImage = false) :
    p.planBody = q.planBody ↔
      p.kind.asked = q.kind.asked ∧ (p.kind.isChoice = true → p.options = q.options) := by
  unfold planBody
  generalize p.kind = k, q.kind = l at hp hq ⊢
  rcases k with k | _ <;> rcases l with l | _
  · cases k <;> cases l <;> simp_all [Kind.asked, Kind.isChoice, Kind.isImage]
  · cases k <;> simp_all [Kind.asked, Kind.isChoice, Kind.isImage]
  · cases l <;> simp_all [Kind.asked, Kind.isChoice, Kind.isImage]
  · simp [Kind.asked, Kind.isChoice]

/-- A grading determines the points, and the answers if there are points. -/
theorem planGrading_eq_iff : p.planGrading = q.planGrading ↔
    p.points.getD 0 = q.points.getD 0 ∧
      (0 < p.points.getD 0 → p.correctAnswers = q.correctAnswers) := by
  unfold planGrading
  rcases p.points with _ | _ | m <;> rcases q.points with _ | _ | n <;> simp [Int.ofNat_inj]

theorem planImage_eq_iff (hp : p.Normal) (hq : q.Normal) :
    p.planImage = q.planImage ↔ p.imageUrl = q.imageUrl := by
  have hinjective : Function.Injective fun url : String => ({ sourceUri := some url } : ItemImage) := by
    rintro url other h
    cases h
    rfl
  rw [planImage, planImage, hp.image, hq.image]
  exact (Option.map_injective hinjective).eq_iff

/-- The item of an image question has only its title and its source. -/
theorem agrees_of_isImage (hp : p.kind.isImage = true) (hq : q.kind.isImage = true)
    (htitle : p.title = q.title) (hurl : p.imageUrl = q.imageUrl) : p.Agrees q where
  title := htitle
  kind := by
    rw [Kind.isImage_eq_asked] at hp hq
    exact (eq_of_beq hp).trans (eq_of_beq hq).symm
  image := hurl
  required h := absurd (hp.symm.trans h) (by decide)
  options h := by
    have hkind : p.kind = .known .imageDisplay := eq_of_beq hp
    rw [hkind] at h
    exact absurd h (by decide)
  points h := absurd (hp.symm.trans h) (by decide)
  answers h := absurd (hp.symm.trans h) (by decide)

theorem agrees_of_planItem_eq (hp : p.Normal) (hq : q.Normal) (h : p.planItem = q.planItem) :
    p.Agrees q := by
  cases himage : p.kind.isImage with
  | true =>
    cases hother : q.kind.isImage with
    | true =>
      rw [planItem_of_isImage himage, planItem_of_isImage hother] at h
      obtain ⟨htitle, hpicture⟩ := Item.image.inj h
      exact agrees_of_isImage himage hother htitle (ItemImage.mk.inj hpicture).1
    | false =>
      rw [planItem_of_isImage himage, planItem_of_not_isImage hother] at h
      cases h
  | false =>
    cases hother : q.kind.isImage with
    | true =>
      rw [planItem_of_not_isImage himage, planItem_of_isImage hother] at h
      cases h
    | false =>
      rw [planItem_of_not_isImage himage, planItem_of_not_isImage hother] at h
      obtain ⟨htitle, hitem⟩ := Item.question.inj h
      obtain ⟨hrequired, hbody, hgrading, hpicture⟩ := QuestionItem.mk.inj hitem
      obtain ⟨hkind, hoptions⟩ := (planBody_eq_iff himage hother).mp hbody
      obtain ⟨hpoints, hanswers⟩ := planGrading_eq_iff.mp hgrading
      exact ⟨htitle, hkind, (planImage_eq_iff hp hq).mp hpicture, fun _ => hrequired, hoptions,
        fun _ => hpoints, fun _ => hanswers⟩

theorem planItem_eq_of_agrees (hp : p.Normal) (hq : q.Normal) (h : p.Agrees q) :
    p.planItem = q.planItem := by
  have hsort : p.kind.isImage = q.kind.isImage := by
    rw [Kind.isImage_eq_asked, Kind.isImage_eq_asked, h.kind]
  cases himage : p.kind.isImage with
  | true =>
    rw [planItem_of_isImage himage, planItem_of_isImage (hsort ▸ himage), h.title, h.image]
  | false =>
    have hother : q.kind.isImage = false := hsort ▸ himage
    have hbody : p.planBody = q.planBody :=
      (planBody_eq_iff himage hother).mpr ⟨h.kind, h.options⟩
    have hgrading : p.planGrading = q.planGrading :=
      planGrading_eq_iff.mpr ⟨h.points himage, h.answers himage⟩
    have hpicture : p.planImage = q.planImage := (planImage_eq_iff hp hq).mpr h.image
    rw [planItem_of_not_isImage himage, planItem_of_not_isImage hother, h.title,
      h.required himage, hbody, hgrading, hpicture]

/-- Lists of questions have the same items exactly when the questions agree one by one. -/
theorem map_planItem_eq_iff {ps qs : List Question} (hp : ∀ p ∈ ps, p.Normal)
    (hq : ∀ q ∈ qs, q.Normal) :
    ps.map planItem = qs.map planItem ↔ List.Forall₂ Agrees ps qs := by
  induction ps generalizing qs with
  | nil =>
    cases qs with
    | nil => simp
    | cons q qs => simp
  | cons p ps ih =>
    cases qs with
    | nil => simp
    | cons q qs =>
      have hhead : p.planItem = q.planItem ↔ p.Agrees q :=
        ⟨agrees_of_planItem_eq (hp p List.mem_cons_self) (hq q List.mem_cons_self),
          planItem_eq_of_agrees (hp p List.mem_cons_self) (hq q List.mem_cons_self)⟩
      have htail := ih (fun p hmem => hp p (List.mem_cons_of_mem _ hmem))
        (fun q hmem => hq q (List.mem_cons_of_mem _ hmem))
      rw [List.map_cons, List.map_cons, List.cons.injEq, List.forall₂_cons, hhead, htail]

end Question

/-! ### Sections -/

/-- An item that is a page break. -/
def Item.isPageBreak : Item → Bool
  | .pageBreak .. => true
  | _ => false

theorem Question.isPageBreak_planItem (q : Question) : q.planItem.isPageBreak = false := by
  cases himage : q.kind.isImage with
  | true => rw [planItem_of_isImage himage]; rfl
  | false => rw [planItem_of_not_isImage himage]; rfl

namespace FormSection

/-- The items of the sections behind the first. -/
def laterItems (rest : List FormSection) : List Item :=
  rest.flatMap fun s => s.planPageBreak :: s.planItems

variable {s t : FormSection} {rest more : List FormSection}

theorem isPageBreak_of_mem_planItems (s : FormSection) :
    ∀ item ∈ s.planItems, (!item.isPageBreak) = true := by
  intro item hitem
  obtain ⟨q, -, rfl⟩ := List.mem_map.mp hitem
  rw [q.isPageBreak_planItem]
  rfl

/-- The items of a section end at the next page break. -/
theorem planItems_append_eq_iff :
    s.planItems ++ laterItems rest = t.planItems ++ laterItems more ↔
      s.planItems = t.planItems ∧ laterItems rest = laterItems more := by
  have htake : ∀ (s : FormSection) (rest : List FormSection),
      (s.planItems ++ laterItems rest).takeWhile (fun item => !item.isPageBreak) = s.planItems := by
    intro s rest
    rw [List.takeWhile_append_of_pos s.isPageBreak_of_mem_planItems]
    cases rest with
    | nil => exact List.append_nil _
    | cons next rest => exact List.append_nil _
  constructor
  · intro h
    have hitems := congrArg (List.takeWhile fun item => !item.isPageBreak) h
    rw [htake, htake] at hitems
    rw [hitems] at h
    exact ⟨hitems, List.append_cancel_left h⟩
  · rintro ⟨hitems, hlater⟩
    rw [hitems, hlater]

theorem planPageBreak_eq_iff : s.planPageBreak = t.planPageBreak ↔ s.SameHeading t := by
  rw [planPageBreak, planPageBreak, Item.pageBreak.injEq]
  rfl

/-- The items behind the first section determine page breaks and questions. -/
theorem laterItems_eq_iff (hrest : ∀ s ∈ rest, ∀ q ∈ s.questions, q.Normal)
    (hmore : ∀ s ∈ more, ∀ q ∈ s.questions, q.Normal) :
    laterItems rest = laterItems more ↔
      List.Forall₂ SameHeading rest more ∧ List.Forall₂ SameQuestions rest more := by
  induction rest generalizing more with
  | nil =>
    cases more with
    | nil => simp
    | cons t more => simp [laterItems]
  | cons s rest ih =>
    cases more with
    | nil => simp [laterItems]
    | cons t more =>
      have hitems : s.planItems = t.planItems ↔ s.SameQuestions t :=
        Question.map_planItem_eq_iff (hrest s List.mem_cons_self) (hmore t List.mem_cons_self)
      have htail := ih (fun s hmem => hrest s (List.mem_cons_of_mem _ hmem))
        (fun t hmem => hmore t (List.mem_cons_of_mem _ hmem))
      have hcons : ∀ (s : FormSection) (rest : List FormSection),
          laterItems (s :: rest) = s.planPageBreak :: (s.planItems ++ laterItems rest) :=
        fun _ _ => rfl
      rw [hcons, hcons, List.cons.injEq, planPageBreak_eq_iff, planItems_append_eq_iff, hitems,
        htail, List.forall₂_cons, List.forall₂_cons]
      tauto

end FormSection

/-! ### Definitions -/

namespace Definition

variable {d e : Definition}

theorem planItems_eq_iff (hd : d.sections ≠ []) (he : e.sections ≠ [])
    (hdNormal : ∀ slot ∈ d.slots, slot.Normal) (heNormal : ∀ slot ∈ e.slots, slot.Normal) :
    d.planItems = e.planItems ↔
      List.Forall₂ FormSection.SameHeading d.sections.tail e.sections.tail ∧
        List.Forall₂ FormSection.SameQuestions d.sections e.sections := by
  have hdQuestions : ∀ s ∈ d.sections, ∀ q ∈ s.questions, q.Normal :=
    fun s hs q hq => hdNormal (.question q) (Slot.mem_ofSections hs hq)
  have heQuestions : ∀ s ∈ e.sections, ∀ q ∈ s.questions, q.Normal :=
    fun s hs q hq => heNormal (.question q) (Slot.mem_ofSections hs hq)
  unfold planItems
  revert hd he hdQuestions heQuestions
  generalize d.sections = ss, e.sections = ts
  intro hd he hss hts
  obtain ⟨s, rest, rfl⟩ := List.exists_cons_of_ne_nil hd
  obtain ⟨t, more, rfl⟩ := List.exists_cons_of_ne_nil he
  have hfirst : s.planItems = t.planItems ↔ s.SameQuestions t :=
    Question.map_planItem_eq_iff (hss s List.mem_cons_self) (hts t List.mem_cons_self)
  have hlater := FormSection.laterItems_eq_iff (fun s hmem => hss s (List.mem_cons_of_mem _ hmem))
    (fun t hmem => hts t (List.mem_cons_of_mem _ hmem))
  show s.planItems ++ FormSection.laterItems rest = t.planItems ++ FormSection.laterItems more ↔ _
  rw [FormSection.planItems_append_eq_iff, hfirst, hlater, List.tail_cons, List.tail_cons,
    List.forall₂_cons]
  tauto

theorem planSettings_eq_iff : d.planSettings = e.planSettings ↔
    d.isQuiz = e.isQuiz ∧ (d.isQuiz = true → d.quizSettings = e.quizSettings) := by
  have hinjective : Function.Injective QuizSettings.planGrade := by
    rintro ⟨released, answers, points⟩ ⟨released', answers', points'⟩ h
    cases h
    rfl
  unfold planSettings
  cases d.isQuiz <;> cases e.isQuiz <;> simp [(Option.map_injective hinjective).eq_iff]

end Definition

/-- The settings of an operation that updates them. -/
def Operation.update? : Operation → Option QuizUpdate
  | .updateSettings quiz => some quiz
  | .createItem .. => none

theorem Plan.filterMap_insertions (items : List Item) (index : Nat) :
    (insertions index items).filterMap Operation.update? = [] := by
  induction items generalizing index with
  | nil => rfl
  | cons item items ih => exact ih (index + 1)

/-- The items of a clean plan are clean. -/
theorem Plan.map_clean_insertions (items : List Item) (index : Nat) :
    (insertions index items).map Operation.clean = insertions index (items.map Item.clean) := by
  induction items generalizing index with
  | nil => rfl
  | cons item items ih => exact congrArg _ (ih (index + 1))

theorem Slot.clean_planItem {slot : Slot} (h : slot.Normal) :
    slot.planItem.clean = slot.planItem := by
  cases slot with
  | pageBreak s =>
    have hdescription : Text.nonempty? s.description = s.description := h
    show Item.pageBreak s.title (Text.nonempty? s.description) = .pageBreak s.title s.description
    rw [hdescription]
  | question q =>
    have hurl : Text.nonempty? q.imageUrl = q.imageUrl := Question.Normal.image h
    show q.planItem.clean = q.planItem
    cases himage : q.kind.isImage with
    | true =>
      rw [Question.planItem_of_isImage himage]
      show Item.image q.title ⟨Text.nonempty? q.imageUrl, _⟩ = _
      rw [hurl]
    | false =>
      have hpicture : q.planImage.map ItemImage.clean = q.planImage := by
        rw [Question.planImage, hurl]
        rcases hq : q.imageUrl with _ | url
        · rfl
        · rw [hq] at hurl
          show some (⟨Text.nonempty? (some url), _⟩ : ItemImage) = _
          rw [hurl]
          rfl
      rw [Question.planItem_of_not_isImage himage]
      show Item.question q.title ⟨_, _, _, q.planImage.map ItemImage.clean⟩ = _
      rw [hpicture]

namespace Definition

variable {d e : Definition}

theorem plan_eq_iff : d.plan = e.plan ↔
    d.planSettings = e.planSettings ∧ d.planItems = e.planItems := by
  constructor
  · intro h
    have hsettings : ∀ d : Definition, d.plan.filterMap Operation.update? = d.planSettings := by
      intro d
      rw [plan_eq, List.filterMap_append, Plan.filterMap_insertions, List.append_nil]
      unfold planSettings
      cases d.isQuiz
      · rfl
      · rfl
    constructor
    · rw [← hsettings, ← hsettings, h]
    -- carrying both plans out gives the items
    · have hitems := d.replay?_plan
      rw [h, e.replay?_plan] at hitems
      exact (Option.some.inj hitems).symm
  · rintro ⟨hsettings, hitems⟩
    rw [plan_eq_settings_append, plan_eq_settings_append, hsettings, hitems]

theorem map_clean_plan (h : ∀ slot ∈ d.slots, slot.Normal) :
    d.plan.map Operation.clean = d.plan := by
  have hitems : (d.slots.map Slot.planItem).map Item.clean = d.slots.map Slot.planItem := by
    rw [List.map_map]
    exact List.map_congr_left fun slot hslot => Slot.clean_planItem (h slot hslot)
  have hsettings : ∀ plan : Plan, (if d.isQuiz then plan else []).map Operation.clean =
      if d.isQuiz then plan.map Operation.clean else [] := by
    intro plan
    cases d.isQuiz
    · rfl
    · rfl
  rw [plan_eq, List.map_append, Plan.map_clean_insertions, hitems, hsettings]
  rfl

/-- **The requests of a form determine exactly its content.**  The plans of two validated definitions make the
same requests exactly when the definitions have the same content, whether or not the order of the members counts. -/
theorem requests_eq_iff_sameContent {raw other : Definition} (hd : raw.validate = .ok d)
    (he : other.validate = .ok e) :
    (d.plan.requests = e.plan.requests ↔ d.SameContent e) ∧
      (Json.Same (.arr d.plan.requests) (.arr e.plan.requests) ↔ d.SameContent e) := by
  have hdNormal := normal_of_validate hd
  have heNormal := normal_of_validate he
  have hplans : d.plan = e.plan ↔ d.SameContent e := by
    rw [plan_eq_iff, planSettings_eq_iff, planItems_eq_iff (sections_ne_nil_of_validate hd)
      (sections_ne_nil_of_validate he) hdNormal heNormal]
    constructor
    · rintro ⟨⟨hquiz, hsettings⟩, hheadings, hquestions⟩
      exact ⟨hquiz, hsettings, hheadings, hquestions⟩
    · intro h
      exact ⟨⟨h.quiz, h.settings⟩, h.headings, h.questions⟩
  have htold : Json.Same (.arr d.plan.requests) (.arr e.plan.requests) → d.plan = e.plan := by
    intro h
    have hclean := Plan.clean_eq_of_same h
    rw [map_clean_plan hdNormal, map_clean_plan heNormal] at hclean
    exact hclean
  have hequal : d.SameContent e → d.plan.requests = e.plan.requests :=
    fun h => congrArg Plan.requests (hplans.mpr h)
  exact ⟨⟨fun h => hplans.mp (htold (Json.same_of_eq (congrArg Json.arr h))), hequal⟩,
    ⟨fun h => hplans.mp (htold h), fun h => Json.same_of_eq (congrArg Json.arr (hequal h))⟩⟩

/-- Two polls that differ in their titles, in their first sections, in an unknown kind, and in the answer to a
question without points; their requests are the same. -/
theorem requests_eq_iff_sameContent_polls :
    let raw : Definition :=
      { title := "Poll"
        description := some "Two questions"
        sections := [
          ⟨"About you", some "Who are you?", [{ title := "Name?", kind := .other "NAME" (by decide) }]⟩,
          ⟨"Choice", some " ", [{
            title := "Tea?", kind := .known .multipleChoice, options := ["Yes", "No"],
            points := some 0, correctAnswers := ["Yes"] }]⟩] }
    let other : Definition :=
      { title := "Vote"
        sections := [
          ⟨"Start", none, [{ title := "Name?", kind := .known .shortAnswer, imageUrl := some "" }]⟩,
          ⟨"Choice", none, [{
            title := "Tea?", kind := .known .multipleChoice, options := ["Yes", "No"] }]⟩]
        quizSettings := some {} }
    let d := raw.normalize
    let e := other.normalize
    raw.validate = .ok d ∧ other.validate = .ok e ∧
      (d.plan.requests = e.plan.requests ↔ d.SameContent e) ∧
      (Json.Same (.arr d.plan.requests) (.arr e.plan.requests) ↔ d.SameContent e) ∧
      d.SameContent e := by
  intro raw other d e
  have hvalid : ∀ raw : Definition, raw.defect? = none → raw.validate = .ok raw.normalize := by
    intro raw hdefect
    unfold validate
    rw [hdefect]
  have hraw : raw.validate = .ok d := hvalid raw (by decide)
  have hother : other.validate = .ok e := hvalid other (by decide)
  have hiff := requests_eq_iff_sameContent hraw hother
  have hrequests : d.plan.requests = e.plan.requests := by decide
  exact ⟨hraw, hother, hiff.1, hiff.2, hiff.1.mp hrequests⟩

end Definition
end Formwork
