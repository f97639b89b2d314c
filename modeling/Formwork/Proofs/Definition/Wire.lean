import Formwork.Definition.Document
import Formwork.Proofs.Schema.Reading

/-!
# Round trip of definitions

A definition is read back from its dump, by alias or by field name and from any source (`Definition.read_toJson`).
The source of a value matters only for the issues of one that is no definition.  So dumping what a value is read as is
idempotent (`Definition.documents_keep_definitions`).
-/
namespace Formwork

/-! ### Dumps of parts -/

namespace Reading

theorem itemsFrom_map {α : Type} {read : Json → Reading α} {write : α → Json}
    (h : ∀ value, read (write value) = .done value) (values : List α) (n : Nat) :
    itemsFrom read n (values.map write) = .done values := by
  induction values generalizing n with
  | nil => rfl
  | cons value rest ih => simp [itemsFrom, h, ih]

/-- A list is read back if its items are. -/
theorem list_map {α : Type} {read : Json → Reading α} {write : α → Json}
    (h : ∀ value, read (write value) = .done value) (values : List α) :
    list read (.arr (values.map write)) = .done values :=
  itemsFrom_map h values 0

theorem list_texts (values : List String) : list text (.texts values) = .done values := by
  have hread : ∀ value, text (.str value) = .done value := fun _ => rfl
  exact list_map hread values

theorem optional_ofText? (value : Option String) : optional text (.ofText? value) = .done value := by
  cases value <;> rfl

theorem optional_pointsJson (points : Option Nat) :
    optional count (pointsJson points) = .done points := by
  cases points <;> rfl

end Reading

/-! ### Dumps of definitions -/

section Written

variable {source : Source} {name : FieldName → String}

theorem Question.read_toJson (h : name = FieldName.wire ∨ name = FieldName.plain) (q : Question) :
    Question.read source (q.toJson name) = .done q := by
  have hmembers : Question.read source (q.toJson name) =
      Question.mk
        <$> (Reading.text (.str q.title)).under (.key (name .title))
        <*> (Kind.read (.str q.kind.name)).under (.key (name .kind))
        <*> (Reading.list .text (.texts q.options)).under (.key (name .options))
        <*> (Reading.optional .text (.ofText? q.imageUrl)).under (.key (name .imageUrl))
        <*> (Reading.truth (.bool q.required)).under (.key (name .mandatory))
        <*> (Reading.optional .count (pointsJson q.points)).under (.key (name .points))
        <*> (Reading.list .text (.texts q.correctAnswers)).under (.key (name .correctAnswers)) := by
    rcases h with rfl | rfl <;> rfl
  have hkind : Kind.read (.str q.kind.name) = .done q.kind :=
    congrArg Reading.done q.kind.ofName_name
  rw [hmembers, hkind, Reading.list_texts, Reading.list_texts, Reading.optional_ofText?,
    Reading.optional_pointsJson]
  rfl

theorem FormSection.read_toJson (h : name = FieldName.wire ∨ name = FieldName.plain)
    (s : FormSection) : FormSection.read source (s.toJson name) = .done s := by
  have hmembers : FormSection.read source (s.toJson name) =
      FormSection.mk
        <$> (Reading.text (.str s.title)).under (.key (name .title))
        <*> (Reading.optional .text (.ofText? s.description)).under (.key (name .description))
        <*> (Reading.list (Question.read source)
          (.arr (s.questions.map (Question.toJson name)))).under (.key (name .questions)) := by
    rcases h with rfl | rfl <;> rfl
  rw [hmembers, Reading.optional_ofText?, Reading.list_map (Question.read_toJson h)]
  rfl

theorem QuizSettings.read_toJson (h : name = FieldName.wire ∨ name = FieldName.plain)
    (settings : QuizSettings) :
    QuizSettings.read source (settings.toJson name) = .done settings := by
  rcases h with rfl | rfl <;> rfl

theorem QuizSettings.read_optional (h : name = FieldName.wire ∨ name = FieldName.plain)
    (settings : Option QuizSettings) :
    Reading.optional (QuizSettings.read source)
      (match settings with
        | some settings => settings.toJson name
        | none => .null) = .done settings := by
  cases settings with
  | none => rfl
  | some settings =>
    show some <$> QuizSettings.read source (settings.toJson name) = _
    rw [QuizSettings.read_toJson h]
    rfl

/-- **A definition is read back from its dump.** -/
theorem Definition.read_toJson (h : name = FieldName.wire ∨ name = FieldName.plain)
    (d : Definition) : Definition.read source (d.toJson name) = .done d := by
  have hmembers : Definition.read source (d.toJson name) =
      Definition.mk
        <$> (Reading.text (.str d.title)).under (.key (name .title))
        <*> (Reading.optional .text (.ofText? d.description)).under (.key (name .description))
        <*> (Reading.list (FormSection.read source)
          (.arr (d.sections.map (FormSection.toJson name)))).under (.key (name .sections))
        <*> (Reading.truth (.bool d.isQuiz)).under (.key (name .isQuiz))
        <*> (Reading.optional (QuizSettings.read source) (match d.quizSettings with
          | some settings => settings.toJson name
          | none => .null)).under (.key (name .quizSettings)) := by
    rcases h with rfl | rfl <;> rfl
  rw [hmembers, QuizSettings.read_optional h, Reading.optional_ofText?,
    Reading.list_map (FormSection.read_toJson h)]
  rfl

end Written

/-! ### The source of a value -/

namespace Reading

variable {α β : Type} {read read' : Json → Reading α}

theorem value?_seq (f : Reading (α → β)) (x : Reading α) :
    (f <*> x).value? = f.value? <*> x.value? := by
  rcases f with g | issues
  · cases x <;> rfl
  · cases x <;> rfl

theorem value?_map (f : α → β) (x : Reading α) : (f <$> x).value? = f <$> x.value? := by
  cases x <;> rfl

theorem value?_under (step : Place) (x : Reading α) : (x.under step).value? = x.value? := by
  cases x <;> rfl

theorem value?_eq_some {x : Reading α} {value : α} : x.value? = some value ↔ x = .done value := by
  rcases x with found | issues
  · exact ⟨fun h => congrArg done (Option.some.inj h), fun h => congrArg some (done.inj h)⟩
  · exact ⟨nofun, nofun⟩

theorem value?_list_congr (h : ∀ given, (read given).value? = (read' given).value?) (given : Json) :
    (list read given).value? = (list read' given).value? := by
  have hitems : ∀ items n, (itemsFrom read n items).value? = (itemsFrom read' n items).value? := by
    intro items
    induction items with
    | nil => exact fun _ => rfl
    | cons item rest ih =>
      intro n
      simp only [itemsFrom, value?_seq, value?_map, value?_under, h, ih]
  cases given with
  | arr items => exact hitems items 0
  | _ => rfl

theorem value?_optional_congr (h : ∀ given, (read given).value? = (read' given).value?)
    (given : Json) : (optional read given).value? = (optional read' given).value? := by
  cases given with
  | null => rfl
  | _ => simp only [optional, value?_map, h]

theorem value?_withDefault_congr (h : ∀ given, (read given).value? = (read' given).value?)
    (name : FieldName) (default : α) (fields : Fields) :
    (name.withDefault default read fields).value? =
      (name.withDefault default read' fields).value? := by
  unfold FieldName.withDefault
  split
  · simp only [value?_under, h]
  · rfl

/-- The result for an object is independent of the source if that of its fields is. -/
theorem value?_object_congr {source source' : Source} {model : String}
    {members members' : Fields → Reading α}
    (h : ∀ fields, (members fields).value? = (members' fields).value?) (given : Json) :
    (object source model members given).value? = (object source' model members' given).value? := by
  cases given with
  | obj fields => exact h fields
  | _ => rfl

end Reading

variable (source source' : Source)

theorem Question.value?_read_congr (given : Json) :
    (Question.read source given).value? = (Question.read source' given).value? :=
  Reading.value?_object_congr (fun _ => rfl) given

theorem FormSection.value?_read_congr (given : Json) :
    (FormSection.read source given).value? = (FormSection.read source' given).value? := by
  refine Reading.value?_object_congr (fun fields => ?_) given
  have hquestions := Reading.value?_withDefault_congr
    (Reading.value?_list_congr (Question.value?_read_congr source source')) .questions [] fields
  simp only [Reading.value?_seq, Reading.value?_map, hquestions]

theorem QuizSettings.value?_read_congr (given : Json) :
    (QuizSettings.read source given).value? = (QuizSettings.read source' given).value? :=
  Reading.value?_object_congr (fun _ => rfl) given

/-- **The result of reading a definition is independent of the source.** -/
theorem Definition.value?_read_congr (given : Json) :
    (Definition.read source given).value? = (Definition.read source' given).value? := by
  refine Reading.value?_object_congr (fun fields => ?_) given
  have hsections := Reading.value?_withDefault_congr
    (Reading.value?_list_congr (FormSection.value?_read_congr source source')) .sections [] fields
  have hsettings := Reading.value?_withDefault_congr
    (Reading.value?_optional_congr (QuizSettings.value?_read_congr source source')) .quizSettings none
    fields
  simp only [Reading.value?_seq, Reading.value?_map, hsections, hsettings]

/-! ### Dumping again -/

theorem KnownKind.name_of_ofName? {word : String} {kind : KnownKind} (h : ofName? word = some kind) :
    kind.name = word := by
  have hfound := List.find?_some h
  exact eq_of_beq hfound

/-- The value of a kind is the word that it was read from, known or not. -/
theorem Kind.name_ofName (word : String) : (ofName word).name = word := by
  unfold ofName
  split
  · rename_i kind h
    exact KnownKind.name_of_ofName? h
  · rfl

/-- A kind is known exactly if its word is the value of a known kind. -/
theorem Kind.ofName_eq_known (word : String) (kind : KnownKind) :
    ofName word = .known kind ↔ word = kind.name := by
  constructor
  · intro h
    rw [← name_ofName word, h, name_known]
  · rintro rfl
    rw [← name_known, ofName_name]

/-- The dump of what a value is read as, with every field under the chosen key. -/
def Definition.redump (source : Source) (name : FieldName → String) (given : Json) : Reading Json :=
  Definition.toJson name <$> Definition.read source given

/-- A dump is its own dump. -/
theorem Definition.redump_toJson {name : FieldName → String}
    (h : name = FieldName.wire ∨ name = FieldName.plain) (d : Definition) :
    redump source name (d.toJson name) = .done (d.toJson name) := by
  rw [redump, Definition.read_toJson h]
  rfl

/-- **Documents keep definitions.**  A definition is read back from its dump, from any source, by alias and by
field name.  The kind of a question is determined by its word: a known kind as itself, and any other word as that
word.  So for every value that is read as a definition, the dump of the dump is the dump. -/
theorem Definition.documents_keep_definitions :
    (∀ d : Definition, Definition.read source d.document = .done d ∧
      Definition.read source (d.toJson FieldName.plain) = .done d) ∧
    (∀ kind : KnownKind, Kind.read (.str kind.name) = .done (.known kind)) ∧
    (∀ word, (∀ kind : KnownKind, word ≠ kind.name) →
      ∃ unknown, Kind.read (.str word) = .done (.other word unknown)) ∧
    ∀ name ∈ [FieldName.wire, FieldName.plain], ∀ given document,
      redump source name given = .done document → redump source' name document = .done document := by
  refine ⟨fun d => ⟨read_toJson (Or.inl rfl) d, read_toJson (Or.inr rfl) d⟩,
    fun kind => ?_, fun word hword => ?_, fun name hname given document h => ?_⟩
  · exact congrArg Reading.done ((Kind.ofName_eq_known kind.name kind).mpr rfl)
  · cases hkind : Kind.ofName word with
    | known kind => exact absurd ((Kind.ofName_eq_known word kind).mp hkind) (hword kind)
    | other found unknown =>
      obtain rfl : found = word := by rw [← Kind.name_ofName word, hkind]; rfl
      exact ⟨unknown, congrArg Reading.done hkind⟩
  · obtain ⟨d, -, rfl⟩ := Reading.map_eq_done.mp h
    refine redump_toJson source' ?_ d
    simpa only [List.mem_cons, List.not_mem_nil, or_false] using hname

end Formwork
