import Formwork.Proofs.Definition.Normalizing
import Formwork.Proofs.Definition.Wire
import Formwork.Proofs.Service.Serving
import Formwork.Proofs.World.Log

/-!
# Validated definitions sent back

The answer of `POST /api/forms/validate` may replace its definition in later requests: `/script`, `/mutations` and
`/remote` treat the two alike.  The answer is read as the validated definition itself, and validating that drops
nothing, so the two requests differ in the log only (`Server.normal_interchangeable`).
-/
namespace Formwork

/-! ### Bodies with a definition -/

theorem FieldName.required_set_self {α : Type} (key : String) (read : Json → Reading α) (json : Json)
    (fields : Fields) :
    (only key).required read (fields.set key json) = (read json).under (.key key) := by
  unfold required find?
  rw [only, Fields.get?_set_self]

theorem FieldName.withDefault_set_of_ne {α : Type} {key other : String} (h : other ≠ key)
    (default : α) (read : Json → Reading α) (json : Json) (fields : Fields) :
    (only other).withDefault default read (fields.set key json) =
      (only other).withDefault default read fields := by
  unfold withDefault find?
  rw [only, Fields.get?_set_of_ne h]

/-- The options in the body of a script request. -/
def ScriptRequest.readOptions (fields : Fields) : Reading (Bool × Locale) :=
  Prod.mk
    <$> (FieldName.only "create_results_sheet").withDefault false .truth fields
    <*> (FieldName.only "locale").withDefault .en Locale.read fields

/-- The options of a script request do not depend on its definition. -/
theorem ScriptRequest.read_set_definition {json : Json} {d : Definition}
    (hread : Definition.read .request json = .done d) (options : Fields) :
    read (.obj (options.set "definition" json)) =
      (fun asked => ⟨d, asked.1, asked.2⟩) <$> readOptions options := by
  show ScriptRequest.mk
    <$> (FieldName.only "definition").required (Definition.read .request) (options.set _ json)
    <*> (FieldName.only "create_results_sheet").withDefault false .truth (options.set _ json)
    <*> (FieldName.only "locale").withDefault .en Locale.read (options.set _ json) = _
  rw [FieldName.required_set_self, hread, FieldName.withDefault_set_of_ne (by decide),
    FieldName.withDefault_set_of_ne (by decide), readOptions]
  rcases (FieldName.only "create_results_sheet").withDefault false .truth options with sheet | issues
  · cases (FieldName.only "locale").withDefault .en Locale.read options <;> rfl
  · cases (FieldName.only "locale").withDefault .en Locale.read options <;> rfl

/-! ### Accepted definitions -/

namespace Server

variable {query : List (String × String)} {origin : String} {json normal : Json} {w v : World}
  {raw d : Definition}

/-- A definition that `/api/forms/validate` answers with 200 is read and accepted. -/
theorem exists_of_serve_validate
    (h : serve (.posting "/api/forms/validate" query origin json) w = (⟨200, .json normal⟩, v)) :
    ∃ raw d, Definition.read .request json = .done raw ∧ raw.validate = .ok d ∧
      normal = d.document := by
  have hpath : Endpoint.ofPath? "/api/forms/validate" = some .validate := by decide
  rw [serve_eq hpath rfl, Endpoint.answer, settle_eq] at h
  have hresponse := congrArg Prod.fst h
  rcases hread : Definition.read .request json with raw | issues
  · rw [Endpoint.withBody_of_done rfl hread, Endpoint.answerValidate, Act.run_bind,
      Job.run_validate] at hresponse
    rcases hvalidate : raw.validate with defect | d
    · rw [hvalidate] at hresponse
      exact absurd (congrArg Response.status hresponse) (Response.ofFailure_status_ne _)
    · rw [hvalidate] at hresponse
      exact ⟨raw, d, rfl, hvalidate, (Content.json.inj (congrArg Response.content hresponse)).symm⟩
  · rw [Endpoint.withBody_of_failed rfl hread] at hresponse
    exact absurd (congrArg Response.status hresponse) (Response.rejected_status_ne _)

/-! ### Interchangeable requests -/

/-- The activities have the same result and the same world afterwards in every world, but for the log. -/
def SameUnlogged (act act' : Act World Response) : Prop :=
  ∀ w, (act.run w).1 = (act'.run w).1 ∧ (act.run w).2.unlogged = (act'.run w).2.unlogged

/-- Validating a definition first makes no difference to its normal form. -/
theorem sameUnlogged_validate (hvalidate : raw.validate = .ok d)
    {next : Definition → Act World Response} (hnext : (next d).Within World.unlogged) :
    SameUnlogged (Job.validate d >>= next) (Job.validate raw >>= next) := by
  intro w
  obtain ⟨hstable, hdropped⟩ := Definition.validate_normal hvalidate
  rw [Job.run_bind_validate_ok hvalidate, Job.run_bind_validate_ok hstable]
  exact hnext _ _ rfl

/-- The requests are interchangeable: in every world they have the same response and the same world afterwards,
with the same calls, files and number of item names, but for the log. -/
def Interchangeable (request request' : Request) : Prop :=
  ∀ w, (serve request w).1 = (serve request' w).1 ∧
    (serve request w).2.unlogged = (serve request' w).2.unlogged

theorem interchangeable_posting {path : String} {endpoint : Endpoint} {json json' : Json}
    (hpath : Endpoint.ofPath? path = some endpoint) (hmethod : "POST" = endpoint.method)
    (h : SameUnlogged (endpoint.answer (.posting path query origin json))
      (endpoint.answer (.posting path query origin json'))) :
    Interchangeable (.posting path query origin json) (.posting path query origin json') := by
  intro w
  obtain ⟨hresult, hafter⟩ := h w
  rw [serve_eq hpath hmethod, serve_eq hpath hmethod, settle_eq, settle_eq, hresult]
  exact ⟨rfl, hafter⟩

theorem sameUnlogged_answerScript (hvalidate : raw.validate = .ok d) (resultsSheet : Bool)
    (locale : Locale) :
    SameUnlogged (Endpoint.answerScript ⟨d, resultsSheet, locale⟩)
      (Endpoint.answerScript ⟨raw, resultsSheet, locale⟩) := by
  unfold Endpoint.answerScript Job.script
  simp only [bind_assoc]
  refine sameUnlogged_validate hvalidate ?_
  exact ((World.within_takeItemNames _).bind fun _ => Act.within_ofExcept _ _).bind fun _ =>
    Act.within_ofExcept _ _

theorem sameUnlogged_answerRequests (hvalidate : raw.validate = .ok d) :
    SameUnlogged (Endpoint.answerRequests d) (Endpoint.answerRequests raw) := by
  unfold Endpoint.answerRequests Job.requests
  simp only [bind_assoc]
  refine sameUnlogged_validate hvalidate ?_
  exact Act.within_ofExcept _ _

theorem sameUnlogged_answerRemoteForm (account : String) (hvalidate : raw.validate = .ok d) :
    SameUnlogged (Endpoint.answerRemoteForm account d) (Endpoint.answerRemoteForm account raw) := by
  unfold Endpoint.answerRemoteForm Job.createForm
  simp only [bind_assoc]
  refine sameUnlogged_validate hvalidate ?_
  exact (Account.within_createForm account d).bind fun _ => Act.within_ofExcept _ _

theorem sameUnlogged_answer_script (hraw : Definition.read .request json = .done raw)
    (hd : Definition.read .request normal = .done d) (hvalidate : raw.validate = .ok d)
    (options : Fields) :
    SameUnlogged
      (Endpoint.script.answer
        (.posting "/api/forms/script" query origin (.obj (options.set "definition" normal))))
      (Endpoint.script.answer
        (.posting "/api/forms/script" query origin (.obj (options.set "definition" json)))) := by
  have hrawBody := ScriptRequest.read_set_definition hraw options
  have hdBody := ScriptRequest.read_set_definition hd options
  rcases hoptions : ScriptRequest.readOptions options with ⟨sheet, locale⟩ | issues
  · rw [hoptions] at hrawBody hdBody
    rw [Endpoint.answer, Endpoint.answer, Endpoint.withBody_of_done rfl hdBody,
      Endpoint.withBody_of_done rfl hrawBody]
    exact sameUnlogged_answerScript hvalidate sheet locale
  · rw [hoptions] at hrawBody hdBody
    rw [Endpoint.answer, Endpoint.answer, Endpoint.withBody_of_failed rfl hdBody,
      Endpoint.withBody_of_failed rfl hrawBody]
    exact fun _ => ⟨rfl, rfl⟩

/-- **The normal form of a definition may replace it.**  For every value that `/api/forms/validate` accepts, the
other endpoints treat the answer and the value alike; for scripts with any options, and for remote forms with any
account. -/
theorem normal_interchangeable
    (h : serve (.posting "/api/forms/validate" query origin json) w = (⟨200, .json normal⟩, v)) :
    ∀ query origin,
      (∀ options : Fields, Interchangeable
        (.posting "/api/forms/script" query origin (.obj (options.set "definition" normal)))
        (.posting "/api/forms/script" query origin (.obj (options.set "definition" json)))) ∧
      Interchangeable
        (.posting "/api/forms/mutations" query origin normal)
        (.posting "/api/forms/mutations" query origin json) ∧
      Interchangeable
        (.posting "/api/forms/remote" query origin normal)
        (.posting "/api/forms/remote" query origin json) := by
  obtain ⟨raw, d, hraw, hvalidate, rfl⟩ := exists_of_serve_validate h
  have hd : Definition.read .request d.document = .done d := Definition.read_toJson (Or.inl rfl) d
  intro query origin
  refine ⟨fun options => ?_, ?_, ?_⟩
  · have hpath : Endpoint.ofPath? "/api/forms/script" = some .script := by decide
    exact interchangeable_posting hpath rfl (sameUnlogged_answer_script hraw hd hvalidate options)
  · have hpath : Endpoint.ofPath? "/api/forms/mutations" = some .requests := by decide
    refine interchangeable_posting hpath rfl ?_
    rw [Endpoint.answer, Endpoint.answer, Endpoint.withBody_of_done rfl hd,
      Endpoint.withBody_of_done rfl hraw]
    exact sameUnlogged_answerRequests hvalidate
  · have hpath : Endpoint.ofPath? "/api/forms/remote" = some .remoteForm := by decide
    refine interchangeable_posting hpath rfl ?_
    rw [Endpoint.answer, Endpoint.answer, Endpoint.withBody_of_done rfl hd,
      Endpoint.withBody_of_done rfl hraw]
    exact sameUnlogged_answerRemoteForm _ hvalidate

/-- A quiz under snake_case names, with values that are coerced, an unknown member, and a dropped answer. -/
theorem normal_interchangeable_tea :
    let json : Json := .obj [
      ("title", .str "Tea"),
      ("description", .str " "),
      ("is_quiz", .int 1),
      ("quiz_settings", .obj [("show_point_values", .str "YES")]),
      ("sections", .arr [.obj [
        ("title", .str "Black"),
        ("questions", .arr [.obj [
          ("title", .str "Which?"),
          ("kind", .str "CHECKBOXES"),
          ("options", .texts ["Assam", "Darjeeling"]),
          ("points", .str "2"),
          ("correct_answers", .texts ["Darjeeling", "Sencha", "Darjeeling"]),
          ("note", .null)]])]])]
    let normal : Json := .obj [
      ("title", .str "Tea"),
      ("description", .null),
      ("sections", .arr [.obj [
        ("title", .str "Black"),
        ("description", .null),
        ("questions", .arr [.obj [
          ("title", .str "Which?"),
          ("type", .str "CHECKBOXES"),
          ("options", .texts ["Assam", "Darjeeling"]),
          ("imageUrl", .null),
          ("required", .bool false),
          ("points", .int 2),
          ("correctAnswers", .texts ["Darjeeling"])]])]]),
      ("isQuiz", .bool true),
      ("quizSettings", .obj [
        ("releaseImmediately", .bool false),
        ("showCorrectAnswers", .bool false),
        ("showPointValues", .bool true)])]
    let w : World := { now := Moment.epoch }
    serve (.posting "/api/forms/validate" [] "" json) w =
        (⟨200, .json normal⟩, w.logged [Job.dropped ⟨0, 0, "Sencha"⟩]) ∧
      Interchangeable
        (.posting "/api/forms/remote" [("account", "work")] "" normal)
        (.posting "/api/forms/remote" [("account", "work")] "" json) := by
  intro json normal w
  have hserved : serve (.posting "/api/forms/validate" [] "" json) w =
      (⟨200, .json normal⟩, w.logged [Job.dropped ⟨0, 0, "Sencha"⟩]) := rfl
  exact ⟨hserved, (normal_interchangeable hserved [("account", "work")] "").2.2⟩

end Server

end Formwork
