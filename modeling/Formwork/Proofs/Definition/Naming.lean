import Formwork.Definition.Document
import Formwork.Proofs.Json.Members
import Mathlib.Data.List.Forall2
import Mathlib.Data.Option.Basic
import Mathlib.Logic.Relation

/-!
# Field names and aliases

Every field of the definition models can be given under its alias or under its name (`populate_by_name`), and unknown
keys are ignored.  `Renaming` is one such change to an object, and `Renamed` its closure at every level.  Values that
are related by it are read as the same definition; where they are none, the issues are the same, in the same order,
at locations that differ only in the names of fields (`Definition.read_renamed`).
-/
namespace Formwork

/-! ### Related objects -/

namespace FieldName

/-- A key of the field: its alias or its name. -/
def Names (field : FieldName) (key : String) : Prop := key = field.wire ∨ key = field.plain

instance (field : FieldName) : DecidablePred field.Names := fun _ => inferInstanceAs (Decidable (_ ∨ _))

/-- The two fields have no key in common. -/
def Apart (field other : FieldName) : Prop := ¬ other.Names field.wire ∧ ¬ other.Names field.plain

instance (field other : FieldName) : Decidable (field.Apart other) := inferInstanceAs (Decidable (_ ∧ _))

theorem Apart.ne {field other : FieldName} (h : field.Apart other) {key name : String} (hkey : other.Names key)
    (hname : field.Names name) : key ≠ name := by
  rintro rfl
  rcases hname with rfl | rfl
  · exact h.1 hkey
  · exact h.2 hkey

end FieldName

/-- One change to an object with these fields.  A relation for each field states which change is allowed in its
value. -/
inductive Renaming (model : List FieldName) (inside : FieldName → Json → Json → Prop) :
    Fields → Fields → Prop
  /-- A field is given under its other key, which was absent before. -/
  | rename {before behind : Fields} {field : FieldName} {value : Json} (mem : field ∈ model)
      (wire : field.wire ∉ (before ++ behind).names) (plain : field.plain ∉ (before ++ behind).names) :
      Renaming model inside (before ++ (field.wire, value) :: behind) (before ++ (field.plain, value) :: behind)
  /-- A key that belongs to no field is added. -/
  | unknown {before behind : Fields} {key : String} {value : Json}
      (strange : ∀ field ∈ model, ¬ field.Names key) :
      Renaming model inside (before ++ behind) (before ++ (key, value) :: behind)
  /-- A field given under its alias is given under its name as well. -/
  | shadowed {before behind : Fields} {field : FieldName} {value : Json} (mem : field ∈ model)
      (names : field.plain ≠ field.wire) (wire : field.wire ∈ (before ++ behind).names) :
      Renaming model inside (before ++ behind) (before ++ (field.plain, value) :: behind)
  /-- The value of a field changes within its relation. -/
  | inside {before behind : Fields} {field : FieldName} {key : String} {value value' : Json}
      (mem : field ∈ model) (names : field.Names key) (h : inside field value value') :
      Renaming model inside (before ++ (key, value) :: behind) (before ++ (key, value') :: behind)
  /-- Two members change places. -/
  | swap {before behind : Fields} {first second : String × Json} (names : first.1 ≠ second.1) :
      Renaming model inside (before ++ first :: second :: behind) (before ++ second :: first :: behind)

/-- Equal values, or objects related by any number of changes in either direction. -/
inductive Renamed (model : List FieldName) (inside : FieldName → Json → Json → Prop) : Json → Json → Prop
  | refl (value : Json) : Renamed model inside value value
  | obj {fields fields' : Fields} (h : Relation.EqvGen (Renaming model inside) fields fields') :
      Renamed model inside (.obj fields) (.obj fields')

/-- Equal values, or lists of the same length with related items. -/
inductive Each (same : Json → Json → Prop) : Json → Json → Prop
  | refl (value : Json) : Each same value value
  | arr {items items' : List Json} (h : List.Forall₂ same items items') : Each same (.arr items) (.arr items')

/-- The fields of `Question`. -/
def Question.fieldNames : List FieldName :=
  [.title, .kind, .options, .imageUrl, .mandatory, .points, .correctAnswers]

/-- The fields of `FormSection`. -/
def FormSection.fieldNames : List FieldName := [.title, .description, .questions]

/-- The fields of `QuizSettings`. -/
def QuizSettings.fieldNames : List FieldName := [.releaseImmediately, .showCorrectAnswers, .showPointValues]

/-- The fields of `FormDefinition`. -/
def Definition.fieldNames : List FieldName := [.title, .description, .sections, .isQuiz, .quizSettings]

/-- Values for a question related by renaming. -/
def Question.Renamed : Json → Json → Prop := Formwork.Renamed fieldNames fun _ _ _ => False

/-- Values for a field of a section: its questions may be renamed. -/
def FormSection.Inside (field : FieldName) (value value' : Json) : Prop :=
  field = .questions ∧ Each Question.Renamed value value'

/-- Values for a section related by renaming. -/
def FormSection.Renamed : Json → Json → Prop := Formwork.Renamed fieldNames Inside

/-- Values for the quiz settings related by renaming. -/
def QuizSettings.Renamed : Json → Json → Prop := Formwork.Renamed fieldNames fun _ _ _ => False

/-- Values for a field of a definition: its sections and its quiz settings may be renamed. -/
def Definition.Inside (field : FieldName) (value value' : Json) : Prop :=
  field = .sections ∧ Each FormSection.Renamed value value' ∨
    field = .quizSettings ∧ QuizSettings.Renamed value value'

/-- Values for a definition related by renaming. -/
def Definition.Renamed : Json → Json → Prop := Formwork.Renamed fieldNames Inside

/-- Values for a definition, or for a part of one, related by renaming. -/
inductive Restatement : Json → Json → Prop
  | question {value value' : Json} (h : Question.Renamed value value') : Restatement value value'
  | formSection {value value' : Json} (h : FormSection.Renamed value value') : Restatement value value'
  | quizSettings {value value' : Json} (h : QuizSettings.Renamed value value') : Restatement value value'
  | definition {value value' : Json} (h : Definition.Renamed value value') : Restatement value value'

/-! ### Related issues -/

/-- The fields of all definition models. -/
def FieldName.known : List FieldName :=
  Definition.fieldNames ++ FormSection.fieldNames ++ Question.fieldNames ++ QuizSettings.fieldNames

/-- The alias of the field with this key, if there is one. -/
def wireName (key : String) : String :=
  match FieldName.known.find? (·.plain == key) with
  | some field => field.wire
  | none => key

/-- A location with every key replaced by its alias. -/
def Place.wire : Place → Place
  | .key name => .key (wireName name)
  | .index position => .index position

theorem wireName_of_names {field : FieldName} {key : String} (h : field ∈ FieldName.known)
    (hkey : field.Names key) : wireName key = field.wire := by
  have hwire : ∀ field ∈ FieldName.known, wireName field.wire = field.wire ∧
      wireName field.plain = field.wire := by
    decide +kernel
  rcases hkey with rfl | rfl
  · exact (hwire field h).1
  · exact (hwire field h).2

/-- The same complaint at locations that differ only in the names of fields.  The input is the same, except for a
missing field, where it is the object, which may be renamed. -/
structure Issue.Alike (issue issue' : Issue) : Prop where
  place : issue.place.map Place.wire = issue'.place.map Place.wire
  complaint : issue.complaint = issue'.complaint
  given : issue.complaint ≠ .missing → issue.given = issue'.given
  restated : Relation.EqvGen Restatement issue.given issue'.given

namespace Issue.Alike

variable {issue issue' issue'' : Issue}

theorem refl (issue : Issue) : issue.Alike issue := ⟨rfl, rfl, fun _ => rfl, .refl _⟩

theorem symm (h : issue.Alike issue') : issue'.Alike issue where
  place := h.place.symm
  complaint := h.complaint.symm
  given hne := (h.given (h.complaint ▸ hne)).symm
  restated := .symm _ _ h.restated

theorem trans (h : issue.Alike issue') (h' : issue'.Alike issue'') : issue.Alike issue'' where
  place := h.place.trans h'.place
  complaint := h.complaint.trans h'.complaint
  given hne := (h.given hne).trans (h'.given (h.complaint ▸ hne))
  restated := .trans _ _ _ h.restated h'.restated

/-- Locations one step further out. -/
theorem under {step step' : Place} (hstep : step.wire = step'.wire) (h : issue.Alike issue') :
    (issue.under step).Alike (issue'.under step') where
  place := List.cons_eq_cons.mpr ⟨hstep, h.place⟩
  complaint := h.complaint
  given := h.given
  restated := h.restated

end Issue.Alike

theorem Issue.forall₂_alike_trans {issues issues' issues'' : List Issue} (h : List.Forall₂ Alike issues issues')
    (h' : List.Forall₂ Alike issues' issues'') : List.Forall₂ Alike issues issues'' := by
  induction h generalizing issues'' with
  | nil => exact h'
  | cons hissue _ ih =>
    cases h' with
    | cons hissue' hrest => exact .cons (hissue.trans hissue') (ih hrest)

/-! ### Lookup of fields -/

/-- The lookup of a field in two objects: the same, or related values under keys of the field. -/
inductive Found (field : FieldName) (inside : Json → Json → Prop) :
    Option (String × Json) → Option (String × Json) → Prop
  | same (found : Option (String × Json)) : Found field inside found found
  | named {key key' : String} {value value' : Json} (names : field.Names key) (names' : field.Names key')
      (h : value = value' ∨ inside value value') : Found field inside (some (key, value)) (some (key', value'))

namespace FieldName

variable {field other : FieldName} {fields fields' : Fields} {inside : Json → Json → Prop} {key : String}

theorem find?_of_wire {value : Json} (h : fields.get? field.wire = some value) :
    field.find? fields = some (field.wire, value) := by
  rw [find?, h]

theorem find?_of_plain {value : Json} (hwire : fields.get? field.wire = none)
    (h : fields.get? field.plain = some value) : field.find? fields = some (field.plain, value) := by
  rw [find?, hwire, h]
  rfl

theorem found_of_get? (h : ∀ key, field.Names key → fields.get? key = fields'.get? key) :
    Found field inside (field.find? fields) (field.find? fields') := by
  rw [find?, find?, h field.wire (Or.inl rfl), h field.plain (Or.inr rfl)]
  exact .same _

/-- Related values under both keys. -/
theorem found_of_rel
    (h : ∀ key, field.Names key → Option.Rel (fun value value' => value = value' ∨ inside value value')
      (fields.get? key) (fields'.get? key)) :
    Found field inside (field.find? fields) (field.find? fields') := by
  have hwire := h field.wire (Or.inl rfl)
  have hplain := h field.plain (Or.inr rfl)
  unfold find?
  generalize fields.get? field.wire = found, fields'.get? field.wire = found' at hwire ⊢
  cases hwire with
  | some hvalue => exact .named (Or.inl rfl) (Or.inl rfl) hvalue
  | none =>
    generalize fields.get? field.plain = found, fields'.get? field.plain = found' at hplain ⊢
    cases hplain with
    | some hvalue => exact .named (Or.inr rfl) (Or.inr rfl) hvalue
    | none => exact .same none

variable {α : Type} (field) (read : Json → Reading α) (fields)

theorem required_eq : field.required read fields = (field.find? fields).elim
    (.failed [⟨[.key field.wire], .missing, .obj fields⟩])
    fun member => (read member.2).under (.key member.1) := by
  rw [required]
  cases field.find? fields <;> rfl

theorem withDefault_eq (default : α) : field.withDefault default read fields =
    (field.find? fields).elim (.done default) fun member => (read member.2).under (.key member.1) := by
  rw [withDefault]
  cases field.find? fields <;> rfl

end FieldName

/-- The fields of a model have no keys in common. -/
structure WellNamed (model : List FieldName) : Prop where
  known : ∀ field ∈ model, field ∈ FieldName.known
  apart : ∀ field ∈ model, ∀ other ∈ model, field ≠ other → field.Apart other

variable {model : List FieldName} {inside : FieldName → Json → Json → Prop} {fields fields' : Fields}
  {field : FieldName}

open FieldName in
/-- **A change keeps the lookup of every field**, up to its key. -/
theorem Renaming.found (h : Renaming model inside fields fields') (hmodel : WellNamed model)
    (hfield : field ∈ model) : Found field (inside field) (field.find? fields) (field.find? fields') := by
  have hapart := hmodel.apart field hfield
  cases h with
  | @rename before behind other value hmem hwire hplain =>
    by_cases hne : field = other
    · subst hne
      have hfound := find?_of_wire (Fields.get?_insert_self hwire value)
      have hfound' : field.find? (before ++ (field.plain, value) :: behind) = some (field.plain, value) := by
        by_cases hnames : field.plain = field.wire
        · rw [hnames]
          exact hfound
        · refine find?_of_plain ?_ (Fields.get?_insert_self hplain value)
          rw [Fields.get?_insert_of_ne hnames, Fields.get?_eq_none_iff]
          exact hwire
      rw [hfound, hfound']
      exact .named (Or.inl rfl) (Or.inr rfl) (Or.inl rfl)
    · refine found_of_get? fun name hname => ?_
      rw [Fields.get?_insert_of_ne ((hapart other hmem hne).ne (Or.inl rfl) hname),
        Fields.get?_insert_of_ne ((hapart other hmem hne).ne (Or.inr rfl) hname)]
  | @unknown before behind key value hunknown =>
    refine found_of_get? fun name hname => (Fields.get?_insert_of_ne ?_ before behind value).symm
    rintro rfl
    exact hunknown field hfield hname
  | @shadowed before behind other value hmem hnames hwire =>
    by_cases hne : field = other
    · -- the name for documents is there, and it wins
      subst hne
      obtain ⟨found, hfound⟩ := Option.ne_none_iff_exists'.mp
        fun hnone => Fields.get?_eq_none_iff.mp hnone hwire
      have hfound' : (before ++ (field.plain, value) :: behind).get? field.wire = some found := by
        rw [Fields.get?_insert_of_ne hnames, hfound]
      rw [find?_of_wire hfound, find?_of_wire hfound']
      exact .same _
    · refine found_of_get? fun name hname => ?_
      rw [Fields.get?_insert_of_ne ((hapart other hmem hne).ne (Or.inr rfl) hname)]
  | @inside before behind other key value value' hmem hnames hvalue =>
    by_cases hne : field = other
    · subst hne
      refine found_of_rel fun name _ => ?_
      rw [Fields.get?_append, Fields.get?_append]
      rcases before.get? name with _ | found
      · by_cases hkey : key = name
        · rw [hkey, Fields.get?_cons_self, Fields.get?_cons_self]
          exact .some (Or.inr hvalue)
        · rw [Fields.get?_cons_of_ne hkey, Fields.get?_cons_of_ne hkey]
          rcases behind.get? name with _ | found
          · exact .none
          · exact .some (Or.inl rfl)
      · exact .some (Or.inl rfl)
    · refine found_of_get? fun name hname => ?_
      rw [Fields.get?_insert_of_ne ((hapart other hmem hne).ne hnames hname),
        Fields.get?_insert_of_ne ((hapart other hmem hne).ne hnames hname)]
  | @swap before behind first second hnames =>
    exact found_of_get? fun name _ => Fields.get?_swap hnames before behind name

/-! ### Related readings -/

/-- The same result, or related issues in the same order. -/
inductive Reading.Alike {α : Type} : Reading α → Reading α → Prop
  | done (value : α) : Alike (.done value) (.done value)
  | failed {issues issues' : List Issue} (h : List.Forall₂ Issue.Alike issues issues') :
      Alike (.failed issues) (.failed issues')

namespace Reading

variable {α β : Type} {x x' x'' : Reading α} {read : Json → Reading α} {value value' : Json}

namespace Alike

theorem refl (x : Reading α) : x.Alike x := by
  cases x with
  | done value => exact .done value
  | failed issues => exact .failed (List.forall₂_same.mpr fun issue _ => .refl issue)

theorem symm (h : x.Alike x') : x'.Alike x := by
  cases h with
  | done value => exact .done value
  | failed h => exact .failed (List.Forall₂.flip (h.imp fun _ _ hissue => hissue.symm))

theorem trans (h : x.Alike x') (h' : x'.Alike x'') : x.Alike x'' := by
  cases h with
  | done value => exact h'
  | failed h =>
    cases h' with
    | failed h' => exact .failed (Issue.forall₂_alike_trans h h')

theorem seq {f f' : Reading (α → β)} (hf : f.Alike f') (hx : x.Alike x') : (f <*> x).Alike (f' <*> x') := by
  cases hf with
  | done g =>
    cases hx with
    | done a => exact .done (g a)
    | failed h => exact .failed h
  | failed hf =>
    cases hx with
    | done a => exact .failed hf
    | failed h => exact .failed (List.rel_append hf h)

theorem map (f : α → β) (h : x.Alike x') : (f <$> x).Alike (f <$> x') := by
  cases h with
  | done a => exact .done (f a)
  | failed h => exact .failed h

theorem under {step step' : Place} (hstep : step.wire = step'.wire) (h : x.Alike x') :
    (x.under step).Alike (x'.under step') := by
  cases h with
  | done a => exact .done a
  | failed h =>
    refine .failed ?_
    rw [List.forall₂_map_left_iff, List.forall₂_map_right_iff]
    exact h.imp fun _ _ hissue => hissue.under hstep

theorem eq_done_iff (h : x.Alike x') (a : α) : x = .done a ↔ x' = .done a := by
  cases h with
  | done b => exact Iff.rfl
  | failed h => exact ⟨nofun, nofun⟩

end Alike

/-- Related lookups give related readings. -/
theorem alike_found {inside : Json → Json → Prop} {found found' : Option (String × Json)}
    {missing missing' : Reading α} (hknown : field ∈ FieldName.known) (h : Found field inside found found')
    (hread : ∀ value value', inside value value' → (read value).Alike (read value'))
    (hmissing : missing.Alike missing') :
    (found.elim missing fun member => (read member.2).under (.key member.1)).Alike
      (found'.elim missing' fun member => (read member.2).under (.key member.1)) := by
  cases h with
  | same =>
    cases found with
    | none => exact hmissing
    | some member => exact .refl _
  | @named key key' value value' hkey hkey' hvalue =>
    have hsame : (read value).Alike (read value') := by
      rcases hvalue with rfl | hvalue
      · exact .refl _
      · exact hread value value' hvalue
    have hplace : (Place.key key).wire = (Place.key key').wire := by
      rw [Place.wire, Place.wire, wireName_of_names hknown hkey, wireName_of_names hknown hkey']
    exact hsame.under hplace

theorem alike_required (field : FieldName) (h : Renaming model inside fields fields')
    (hmodel : WellNamed model) (hfield : field ∈ model) (hsame : Restatement (.obj fields) (.obj fields'))
    (hread : ∀ value value', inside field value value' → (read value).Alike (read value')) :
    (field.required read fields).Alike (field.required read fields') := by
  rw [FieldName.required_eq, FieldName.required_eq]
  refine alike_found (hmodel.known field hfield) (h.found hmodel hfield) hread (.failed (.cons ?_ .nil))
  exact ⟨rfl, rfl, fun hne => absurd rfl hne, .rel _ _ hsame⟩

theorem alike_withDefault (field : FieldName) (h : Renaming model inside fields fields')
    (hmodel : WellNamed model) (hfield : field ∈ model) (default : α)
    (hread : ∀ value value', inside field value value' → (read value).Alike (read value')) :
    (field.withDefault default read fields).Alike (field.withDefault default read fields') := by
  rw [FieldName.withDefault_eq, FieldName.withDefault_eq]
  exact alike_found (hmodel.known field hfield) (h.found hmodel hfield) hread (.refl _)

theorem alike_itemsFrom {same : Json → Json → Prop}
    (hread : ∀ value value', same value value' → (read value).Alike (read value'))
    {items items' : List Json} (h : List.Forall₂ same items items') (position : Nat) :
    (itemsFrom read position items).Alike (itemsFrom read position items') := by
  induction h generalizing position with
  | nil => exact .done []
  | cons hitem _ ih => exact .seq (.map _ ((hread _ _ hitem).under rfl)) (ih (position + 1))

/-- Lists of related items give related readings. -/
theorem alike_list {same : Json → Json → Prop}
    (hread : ∀ value value', same value value' → (read value).Alike (read value'))
    (h : Each same value value') : (list read value).Alike (list read value') := by
  cases h with
  | refl => exact .refl _
  | arr hitems => exact alike_itemsFrom hread hitems 0

theorem alike_optional (h : Renamed model inside value value') (hread : (read value).Alike (read value')) :
    (optional read value).Alike (optional read value') := by
  cases h with
  | refl => exact .refl _
  | obj => exact hread.map some

/-- Objects give related readings if every change does. -/
theorem alike_object {members : Fields → Reading α} (source : Source) (name : String)
    (h : Renamed model inside value value')
    (hmembers : ∀ fields fields', Renaming model inside fields fields' →
      (members fields).Alike (members fields')) :
    (object source name members value).Alike (object source name members value') := by
  cases h with
  | refl => exact .refl _
  | obj hfields =>
    show (members _).Alike (members _)
    induction hfields with
    | rel _ _ hstep => exact hmembers _ _ hstep
    | refl => exact .refl _
    | symm _ _ _ ih => exact ih.symm
    | trans _ _ _ _ _ ih ih' => exact ih.trans ih'

end Reading

/-! ### Models -/

variable {value value' : Json} (source : Source)

theorem Question.wellNamed : WellNamed fieldNames := ⟨by decide +kernel, by decide +kernel⟩

theorem FormSection.wellNamed : WellNamed fieldNames := ⟨by decide +kernel, by decide +kernel⟩

theorem QuizSettings.wellNamed : WellNamed fieldNames := ⟨by decide +kernel, by decide +kernel⟩

theorem Definition.wellNamed : WellNamed fieldNames := ⟨by decide +kernel, by decide +kernel⟩

theorem Question.alike_read (h : Question.Renamed value value') :
    (Question.read source value).Alike (Question.read source value') := by
  refine Reading.alike_object source _ h fun fields fields' hstep => ?_
  have hsame : Restatement (.obj fields) (.obj fields') := .question (.obj (.rel _ _ hstep))
  refine .seq (.seq (.seq (.seq (.seq (.seq (.map _ ?title) ?kind) ?options) ?imageUrl) ?mandatory) ?points)
    ?correctAnswers
  case title => exact Reading.alike_required _ hstep wellNamed (by decide) hsame nofun
  case kind => exact Reading.alike_required _ hstep wellNamed (by decide) hsame nofun
  all_goals exact Reading.alike_withDefault _ hstep wellNamed (by decide) _ nofun

theorem FormSection.alike_read (h : FormSection.Renamed value value') :
    (FormSection.read source value).Alike (FormSection.read source value') := by
  refine Reading.alike_object source _ h fun fields fields' hstep => ?_
  have hsame : Restatement (.obj fields) (.obj fields') := .formSection (.obj (.rel _ _ hstep))
  have hplain : ∀ field value value', field ≠ .questions → ¬ Inside field value value' :=
    fun _ _ _ hne hinside => hne hinside.1
  refine .seq (.seq (.map _ ?title) ?description) ?questions
  case title =>
    exact Reading.alike_required _ hstep wellNamed (by decide) hsame fun value value' hinside =>
      absurd hinside (hplain _ value value' (by decide))
  case description =>
    exact Reading.alike_withDefault _ hstep wellNamed (by decide) _ fun value value' hinside =>
      absurd hinside (hplain _ value value' (by decide))
  case questions =>
    exact Reading.alike_withDefault _ hstep wellNamed (by decide) _ fun value value' hinside =>
      Reading.alike_list (fun _ _ => Question.alike_read source) hinside.2

theorem QuizSettings.alike_read (h : QuizSettings.Renamed value value') :
    (QuizSettings.read source value).Alike (QuizSettings.read source value') := by
  refine Reading.alike_object source _ h fun fields fields' hstep => ?_
  refine .seq (.seq (.map _ ?releaseImmediately) ?showCorrectAnswers) ?showPointValues
  all_goals exact Reading.alike_withDefault _ hstep wellNamed (by decide) _ nofun

theorem Definition.alike_read (h : Definition.Renamed value value') :
    (Definition.read source value).Alike (Definition.read source value') := by
  refine Reading.alike_object source _ h fun fields fields' hstep => ?_
  have hsame : Restatement (.obj fields) (.obj fields') := .definition (.obj (.rel _ _ hstep))
  have hplain : ∀ field value value', field ≠ .sections → field ≠ .quizSettings →
      ¬ Inside field value value' := by
    rintro field value value' hne hne' (⟨hfield, -⟩ | ⟨hfield, -⟩)
    · exact hne hfield
    · exact hne' hfield
  refine .seq (.seq (.seq (.seq (.map _ ?title) ?description) ?sections) ?isQuiz) ?quizSettings
  case title =>
    exact Reading.alike_required _ hstep wellNamed (by decide) hsame fun value value' hinside =>
      absurd hinside (hplain _ value value' (by decide) (by decide))
  case sections =>
    refine Reading.alike_withDefault _ hstep wellNamed (by decide) _ fun value value' hinside => ?_
    rcases hinside with ⟨-, hsections⟩ | ⟨hfield, -⟩
    · exact Reading.alike_list (fun _ _ => FormSection.alike_read source) hsections
    · exact absurd hfield (by decide)
  case quizSettings =>
    refine Reading.alike_withDefault _ hstep wellNamed (by decide) _ fun value value' hinside => ?_
    rcases hinside with ⟨hfield, -⟩ | ⟨-, hsettings⟩
    · exact absurd hfield (by decide)
    · exact Reading.alike_optional hsettings (QuizSettings.alike_read source hsettings)
  all_goals
    exact Reading.alike_withDefault _ hstep wellNamed (by decide) _ fun value value' hinside =>
      absurd hinside (hplain _ value value' (by decide) (by decide))

/-- **The names of fields and unknown keys do not matter.**  Renamed values are read as the same definition, or
neither is one; the issues are then the same, in the same order, at locations that differ only in the names of
fields. -/
theorem Definition.read_renamed (h : Definition.Renamed value value') :
    (∀ d, Definition.read source value = .done d ↔ Definition.read source value' = .done d) ∧
      ∀ issues, Definition.read source value = .failed issues →
        ∃ issues', Definition.read source value' = .failed issues' ∧
          List.Forall₂ Issue.Alike issues issues' := by
  have halike := Definition.alike_read source h
  refine ⟨halike.eq_done_iff, fun issues hissues => ?_⟩
  rw [hissues] at halike
  generalize Definition.read source value' = reading at halike ⊢
  cases halike with
  | failed hsame => exact ⟨_, rfl, hsame⟩

/-- A question under field names, with an unknown key beside it: the same issues. -/
theorem Definition.read_renamed_tea :
    let question : Json := .obj [("title", .str "Since when?"), ("type", .str "DATE"), ("imageUrl", .int 1)]
    let question' : Json := .obj [("title", .str "Since when?"), ("kind", .str "DATE"), ("image_url", .int 1)]
    let value : Json := .obj [("title", .str "Tea"), ("isQuiz", .bool true),
      ("sections", .arr [.obj [("title", .str "Black"), ("questions", .arr [question])]])]
    let value' : Json := .obj [("title", .str "Tea"), ("is_quiz", .bool true), ("note", .null),
      ("sections", .arr [.obj [("title", .str "Black"), ("questions", .arr [question'])]])]
    Definition.Renamed value value' ∧ ∃ issues', Definition.read .value value' = .failed issues' ∧
      List.Forall₂ Issue.Alike
        [⟨[.key "sections", .index 0, .key "questions", .index 0, .key "imageUrl"], .noText, .int 1⟩]
        issues' := by
  intro question question' value value'
  have hquestion : Question.Renamed question question' := by
    have hkind := @Renaming.rename Question.fieldNames (fun _ _ _ => False) [("title", .str "Since when?")]
      [("imageUrl", .int 1)] .kind (.str "DATE") (by decide) (by decide) (by decide)
    have himage := @Renaming.rename Question.fieldNames (fun _ _ _ => False)
      [("title", .str "Since when?"), ("kind", .str "DATE")] [] .imageUrl (.int 1)
      (by decide) (by decide) (by decide)
    exact .obj (.trans _ _ _ (.rel _ _ hkind) (.rel _ _ himage))
  have hsection : FormSection.Renamed (.obj [("title", .str "Black"), ("questions", .arr [question])])
      (.obj [("title", .str "Black"), ("questions", .arr [question'])]) := by
    have hquestions := @Renaming.inside FormSection.fieldNames FormSection.Inside [("title", .str "Black")] []
      .questions "questions" _ _ (by decide) (Or.inl rfl) ⟨rfl, .arr (.cons hquestion .nil)⟩
    exact .obj (.rel _ _ hquestions)
  have hsame : Definition.Renamed value value' := by
    have hquiz := @Renaming.rename Definition.fieldNames Definition.Inside [("title", .str "Tea")]
      [("sections", .arr [.obj [("title", .str "Black"), ("questions", .arr [question])]])] .isQuiz (.bool true)
      (by decide) (by decide) (by decide)
    have hnote := @Renaming.unknown Definition.fieldNames Definition.Inside
      [("title", .str "Tea"), ("is_quiz", .bool true)]
      [("sections", .arr [.obj [("title", .str "Black"), ("questions", .arr [question])]])] "note" .null
      (by decide)
    have hsections := @Renaming.inside Definition.fieldNames Definition.Inside
      [("title", .str "Tea"), ("is_quiz", .bool true), ("note", .null)] [] .sections "sections" _ _ (by decide)
      (Or.inl rfl) (Or.inl ⟨rfl, .arr (.cons hsection .nil)⟩)
    exact .obj (.trans _ _ _ (.trans _ _ _ (.rel _ _ hquiz) (.rel _ _ hnote)) (.rel _ _ hsections))
  exact ⟨hsame, (Definition.read_renamed .value hsame).2 _ (by decide)⟩

end Formwork
