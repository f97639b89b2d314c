import Formwork.Plan.Document
import Formwork.Proofs.Definition.Wire

/-!
# Round trip of operations

An operation is read back from its dump (`Operation.read_document`), and so is an item (`Item.read_document`); hence
dumps are injective.

There is one lemma for every part of an operation.  In a tagged union the dump has the tag of its member, and the
reader selects by it (`Reading.tagged_eq`).
-/
namespace Formwork

/-! ### Dumps of parts -/

/-- An optional value is read back if its content is and has a dump other than null. -/
theorem Reading.optional_ofOption {α : Type} {read : Json → Reading α} {write : α → Json}
    (hread : ∀ value, read (write value) = .done value) (hthere : ∀ value, write value ≠ .null)
    (value : Option α) : optional read (.ofOption write value) = .done value := by
  cases value with
  | none => rfl
  | some value =>
    have hsome : optional read (write value) = some <$> read (write value) := by
      cases hwritten : write value with
      | null => exact absurd hwritten (hthere value)
      | _ => rfl
    rw [Json.ofOption, hsome, hread]
    rfl

/-- The reader of a tagged union selects the member with the tag of the object. -/
theorem Reading.tagged_eq {α : Type} {discriminator name : String}
    {shapes : List (String × (Json → Reading α))} {fields : Fields} {read : Json → Reading α} {value : α}
    (hname : fields.get? discriminator = some (.str name))
    (hshape : shapes.find? (fun shape => Json.str name == Json.str shape.1) = some (name, read))
    (hread : read (.obj fields) = .done value) :
    tagged discriminator shapes (.obj fields) = .done value := by
  unfold tagged
  simp only [hname, hshape, hread, under_done]

theorem ItemImage.read_document (image : ItemImage) : ItemImage.read image.document = .done image := by
  have hmembers : ItemImage.read image.document =
      ItemImage.mk
        <$> (Reading.optional .text (.ofText? image.sourceUri)).under (.key "source_uri")
        <*> (Reading.text (.str image.alignment)).under (.key "alignment") := rfl
  rw [hmembers, Reading.optional_ofText?]
  rfl

theorem Grading.read_document (grading : Grading) : Grading.read grading.document = .done grading := by
  have hmembers : Grading.read grading.document =
      Grading.mk
        <$> (Reading.integer (.int grading.pointValue)).under (.key "point_value")
        <*> (Reading.list .text (.texts grading.correctAnswers)).under (.key "correct_answers") := rfl
  rw [hmembers, Reading.list_texts]
  rfl

theorem ChoiceType.read_name (type : ChoiceType) : ChoiceType.read (.str type.name) = .done type := by
  cases type with
  | radio => rfl
  | checkbox => rfl

/-! ### Questions -/

theorem QuestionBody.readChoice_document (type : ChoiceType) (options : List String) :
    readChoice (choice type options).document = .done (.choice type options) := by
  have hmembers : readChoice (choice type options).document =
      (fun _ type options => .choice type options)
        <$> (Reading.word "choice" (.str "choice")).under (.key "kind")
        <*> (ChoiceType.read (.str type.name)).under (.key "type")
        <*> (Reading.list .text (.texts options)).under (.key "options") := rfl
  rw [hmembers, ChoiceType.read_name, Reading.list_texts]
  rfl

theorem QuestionBody.read_document (body : QuestionBody) :
    QuestionBody.read body.document = .done body := by
  cases body with
  | text paragraph => exact Reading.tagged_eq rfl rfl rfl
  | choice type options => exact Reading.tagged_eq rfl rfl (readChoice_document type options)

theorem QuestionItem.read_document (item : QuestionItem) :
    QuestionItem.read item.document = .done item := by
  have hmembers : QuestionItem.read item.document =
      QuestionItem.mk
        <$> (Reading.truth (.bool item.required)).under (.key "required")
        <*> (QuestionBody.read item.question.document).under (.key "question")
        <*> (Reading.optional Grading.read (.ofOption Grading.document item.grading)).under
          (.key "grading")
        <*> (Reading.optional ItemImage.read (.ofOption ItemImage.document item.image)).under
          (.key "image") := rfl
  rw [hmembers, QuestionBody.read_document, Reading.optional_ofOption Grading.read_document nofun,
    Reading.optional_ofOption ItemImage.read_document nofun]
  rfl

/-! ### Items -/

theorem Item.readQuestion_document (title : String) (item : QuestionItem) :
    readQuestion (question title item).document = .done (.question title item) := by
  have hmembers : readQuestion (question title item).document =
      (fun _ title item => .question title item)
        <$> (Reading.word "question" (.str "question")).under (.key "kind")
        <*> (Reading.text (.str title)).under (.key "title")
        <*> (QuestionItem.read item.document).under (.key "question_item") := rfl
  rw [hmembers, QuestionItem.read_document]
  rfl

theorem Item.readImage_document (title : String) (picture : ItemImage) :
    readImage (image title picture).document = .done (.image title picture) := by
  have hmembers : readImage (image title picture).document =
      (fun _ title picture => .image title picture)
        <$> (Reading.word "image" (.str "image")).under (.key "kind")
        <*> (Reading.text (.str title)).under (.key "title")
        <*> (ItemImage.read picture.document).under (.key "image") := rfl
  rw [hmembers, ItemImage.read_document]
  rfl

theorem Item.readPageBreak_document (title : String) (description : Option String) :
    readPageBreak (pageBreak title description).document = .done (.pageBreak title description) := by
  have hmembers : readPageBreak (pageBreak title description).document =
      (fun _ title description => .pageBreak title description)
        <$> (Reading.word "page_break" (.str "page_break")).under (.key "kind")
        <*> (Reading.text (.str title)).under (.key "title")
        <*> (Reading.optional .text (.ofText? description)).under (.key "description") := rfl
  rw [hmembers, Reading.optional_ofText?]
  rfl

/-- **An item is read back from its dump.** -/
theorem Item.read_document (item : Item) : Item.read item.document = .done item := by
  cases item with
  | question title item => exact Reading.tagged_eq rfl rfl (readQuestion_document title item)
  | image title picture => exact Reading.tagged_eq rfl rfl (readImage_document title picture)
  | pageBreak title description =>
    exact Reading.tagged_eq rfl rfl (readPageBreak_document title description)

/-! ### Operations -/

theorem GradePolicy.read_document (grade : GradePolicy) :
    GradePolicy.read grade.document = .done grade := rfl

theorem QuizUpdate.read_document (update : QuizUpdate) :
    QuizUpdate.read update.document = .done update := by
  have hmembers : QuizUpdate.read update.document =
      QuizUpdate.mk
        <$> (Reading.truth (.bool update.isQuiz)).under (.key "is_quiz")
        <*> (Reading.optional GradePolicy.read (.ofOption GradePolicy.document update.grade)).under
          (.key "grade") := rfl
  rw [hmembers, Reading.optional_ofOption GradePolicy.read_document nofun]
  rfl

theorem Operation.readCreateItem_document (item : Item) (index : Int) :
    readCreateItem (createItem item index).document = .done (.createItem item index) := by
  have hmembers : readCreateItem (createItem item index).document =
      (fun _ item index => .createItem item index)
        <$> (Reading.word "create_item" (.str "create_item")).under (.key "op")
        <*> (Item.read item.document).under (.key "item")
        <*> (Reading.integer (.int index)).under (.key "insert_at_index") := rfl
  rw [hmembers, Item.read_document]
  rfl

theorem Operation.readUpdateSettings_document (quiz : QuizUpdate) :
    readUpdateSettings (updateSettings quiz).document = .done (.updateSettings quiz) := by
  have hmembers : readUpdateSettings (updateSettings quiz).document =
      (fun _ quiz => .updateSettings quiz)
        <$> (Reading.word "update_settings" (.str "update_settings")).under (.key "op")
        <*> (QuizUpdate.read quiz.document).under (.key "quiz_settings") := rfl
  rw [hmembers, QuizUpdate.read_document]
  rfl

/-- **An operation is read back from its dump.** -/
theorem Operation.read_document (op : Operation) : Operation.read op.document = .done op := by
  cases op with
  | createItem item index => exact Reading.tagged_eq rfl rfl (readCreateItem_document item index)
  | updateSettings quiz => exact Reading.tagged_eq rfl rfl (readUpdateSettings_document quiz)

/-- **Documents lose nothing.**  Every operation and every item is read back from its dump, whatever is absent or
empty in it and however large its numbers are; so dumps are injective. -/
theorem Operation.documents_lose_nothing :
    (∀ op, Operation.read op.document = .done op) ∧ (∀ item, Item.read item.document = .done item) ∧
    (∀ op other : Operation, op.document = other.document → op = other) ∧
    ∀ item other : Item, item.document = other.document → item = other := by
  refine ⟨read_document, Item.read_document, fun op other h => ?_, fun item other h => ?_⟩
  · have hread := op.read_document
    rw [h, other.read_document] at hread
    exact (Reading.done.inj hread).symm
  · have hread := item.read_document
    rw [h, other.read_document] at hread
    exact (Reading.done.inj hread).symm

end Formwork
