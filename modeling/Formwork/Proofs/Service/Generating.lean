import Formwork.Proofs.Generation.Failing
import Formwork.Proofs.Service.Agreement

/-!
# Generation over HTTP and over MCP

`POST /api/forms/generate` and the tool `forms_generate_definition` both run `Job.generate`, so they make the
same calls to the model and end in the same world.  `Generation.Verdict` is the content of an answer without
the wrapping of either interface; the verdicts of the two agree, but for two cases (`Generation.Apart`).

The first is a `GenerationError` for a locale other than English: the exception handler of the server is
given the error and not the locale of the body, so its remedy is in English, while the tool passes on the
locale.  The second is a `ValidationError` that is not about the text, such as that of settings that cannot
be read: the server answers 500, and the tool answers `validation_error`.
-/
namespace Formwork
namespace Generation

/-- `POST /api/forms/generate` with a text and a locale. -/
def request (text : String) (locale : Locale) : Request :=
  .posting "/api/forms/generate" [] "" (.obj [("text", .str text), ("locale", .str locale.code)])

/-- A call of `forms_generate_definition` with a text and a locale. -/
def call (text : String) (locale : Locale) : Act World Json :=
  Tool.generateDefinition.call [("text", .str text), ("locale", .str locale.code)]

/-! ### Both run `Job.generate` -/

theorem read_request (text : String) (locale : Locale) :
    GenerateRequest.read (.obj [("text", .str text), ("locale", .str locale.code)]) =
      .done ⟨text, locale⟩ := by
  cases locale <;> rfl

theorem serve_request (text : String) (locale : Locale) (w : World) :
    Server.serve (request text locale) w =
      (.ofResult (((Job.generate text locale).run w).1.map fun d => .ok d.document),
        ((Job.generate text locale).run w).2) := by
  have hpath : Endpoint.ofPath? "/api/forms/generate" = some .generate := by decide
  rw [Server.serve_eq hpath rfl, Server.settle_eq, Endpoint.answer,
    Endpoint.withBody_of_done rfl (read_request text locale)]
  have hanswer : Endpoint.answerGenerate ⟨text, locale⟩ =
      Job.generate text locale >>= fun d => pure (Response.ok d.document) := rfl
  rw [hanswer, Act.run_bind_pure]

theorem run_call (text : String) (locale : Locale) (w : World) :
    (call text locale).run w =
      (Tool.reply locale (((Job.generate text locale).run w).1.map Definition.document),
        ((Job.generate text locale).run w).2) := by
  have hcall : call text locale = Tool.answering (.str locale.code)
      (Job.generate text locale >>= fun d => pure d.document) := by
    cases locale <;> rfl
  rw [hcall, Tool.run_answering, Act.run_bind_pure]

/-- `Job.generate` gives what the model defines, validated. -/
theorem run_generate (text : String) (locale : Locale) (w : World) :
    ((Job.generate text locale).run w).1 =
      defined w >>= fun d => d.validate.mapError fun defect => Job.invalid defect := by
  rw [← run_define text locale w, Job.generate, Act.run_bind]
  rcases (define text locale).run w with ⟨failure | d, v⟩
  · rfl
  · show ((Job.validate d).run v).1 = d.validate.mapError fun defect => ⟨Job.invalid defect, []⟩
    rw [Job.run_validate]
    rcases d.validate with defect | normal
    · rfl
    · rfl

/-! ### Verdicts -/

/-- What an answer to a generation says, whichever interface it comes from. -/
inductive Verdict
  /-- A definition, as its document. -/
  | done (document : Json)
  /-- A definition that `validate_definition` refuses. -/
  | invalid (field message : String)
  /-- A `GenerationError`: its reason, its message and the remedy for it. -/
  | ungenerated (reason : GenerationFailure) (detail remedy : String)
  /-- A `ValidationError`: a value does not fit its model. -/
  | misread
  /-- Another error that is answered with its message. -/
  | troubled (message : String)
  /-- An exception that nothing handles. -/
  | broken
deriving DecidableEq

/-- The `error_code` of a failed generation. -/
def errorCode (reason : GenerationFailure) : String := "generation_" ++ reason.name

/-- The verdict of an HTTP response. -/
def served? (response : Response) : Option Verdict :=
  match response.content with
  | .json answer =>
    match answer.textAt? "error_code" with
    | none => if response.status = 200 then some (.done answer) else none
    | some "validation_error" => do
      return .invalid (← answer.textAt? "field") (← answer.textAt? "message")
    | some code =>
      match GenerationFailure.all.find? fun reason => errorCode reason == code with
      | some reason => do
        return .ungenerated reason (← answer.textAt? "detail") (← answer.textAt? "message")
      | none => (answer.textAt? "message").map .troubled
  | _ => if response.status = 500 then some .broken else none

/-- The verdict of the result of a tool. -/
def called? : Except Failure Json → Option Verdict
  | .error _ => some .broken
  | .ok answer =>
    match answer.textAt? "error" with
    | none => some (.done answer)
    | some "validation_error" =>
      if (answer.get? "field").isSome then do
        return .invalid (← answer.textAt? "field") (← answer.textAt? "message")
      else some .misread
    | some "generation_error" => do
      let reason ← (answer.textAt? "reason").bind GenerationFailure.ofName?
      return .ungenerated reason (← answer.textAt? "message") (← answer.textAt? "action")
    | some _ => (answer.textAt? "message").map .troubled

/-- The verdict that a problem should have in a locale. -/
def verdict (locale : Locale) : Problem → Verdict
  | .invalidForm field reason => .invalid field reason
  | .generation reason message => .ungenerated reason message (remediation locale reason)
  | .misshapen .. => .misread
  | problem => if Tool.isAnswered problem then .troubled problem.message else .broken

theorem misshapen_of_verdict {locale : Locale} {problem : Problem} (h : verdict locale problem = .misread) :
    ∃ model issues, problem = .misshapen model issues := by
  cases problem with
  | misshapen model issues => exact ⟨model, issues, rfl⟩
  | _ => cases h

theorem generation_of_verdict {locale : Locale} {problem : Problem} {reason : GenerationFailure}
    {detail remedy : String} (h : verdict locale problem = .ungenerated reason detail remedy) :
    problem = .generation reason detail ∧ remedy = remediation locale reason := by
  cases problem with
  | generation reason' message =>
    obtain ⟨rfl, rfl, rfl⟩ := Verdict.ungenerated.inj h
    exact ⟨rfl, rfl⟩
  | _ => cases h

/-- Only the remedy for a failed generation depends on the locale. -/
theorem verdict_congr {problem : Problem} (h : ¬ problem.OfGeneration) (locale locale' : Locale) :
    verdict locale problem = verdict locale' problem := by
  cases problem with
  | generation reason message => exact absurd ⟨reason, message, rfl⟩ h
  | _ => rfl

theorem called?_reply (locale : Locale) (failure : Failure) :
    called? (Tool.reply locale (.error failure)) = some (verdict locale failure.problem) := by
  obtain ⟨problem, causes⟩ := failure
  cases problem with
  | generation reason message => cases locale <;> cases reason <;> rfl
  | _ => rfl

/-- The exception handlers of the server answer every failure in English, and a `ValidationError` with 500. -/
theorem served?_ofFailure (failure : Failure) :
    served? (.ofFailure failure) =
      some (if (verdict .en failure.problem) = .misread then .broken
        else verdict .en failure.problem) := by
  obtain ⟨problem, causes⟩ := failure
  cases problem with
  | generation reason message => cases reason <;> rfl
  | _ => rfl

/-! ### The two interfaces -/

/-- The verdicts that both interfaces may give in a world. -/
structure Apt (locale : Locale) (w : World) (outcome : Verdict) : Prop where
  readable : outcome ≠ .misread
  /-- The remedy is in the locale of the request. -/
  remedy : ∀ reason detail remedy, outcome = .ungenerated reason detail remedy →
    remedy = remediation locale reason
  /-- Any other message is that of the failed call to the model. -/
  trouble : ∀ message, outcome = .troubled message → ∃ problem : Problem,
    w.answers.askModel.take.1 = .error problem ∧ problem.message = message

/-- The cases in which the server and the tool differ, with the verdict of each. -/
inductive Apart (locale : Locale) (w : World) : Verdict → Verdict → Prop
  /-- The generation fails, and the locale is not English. -/
  | foreign {failure : Failure} {reason : GenerationFailure} {detail : String}
      (fails : defined w = .error failure) (problem : failure.problem = .generation reason detail)
      (foreign : locale ≠ .en) :
      Apart locale w (.ungenerated reason detail (remediation .en reason))
        (.ungenerated reason detail (remediation locale reason))
  /-- A value other than the body does not fit its model. -/
  | misshapen {failure : Failure} {model : String} {issues : List Issue}
      (fails : defined w = .error failure) (problem : failure.problem = .misshapen model issues) :
      Apart locale w .broken .misread

variable {text : String} {locale : Locale} {w : World} {failure : Failure}

theorem remediation_ne (h : locale ≠ .en) (reason : GenerationFailure) :
    remediation .en reason ≠ remediation locale reason := by
  cases locale with
  | en => exact absurd rfl h
  | vi => cases reason <;> decide

theorem run_generate_of_error (h : defined w = .error failure) :
    ((Job.generate text locale).run w).1 = .error failure := by
  rw [run_generate, h]
  rfl

/-- The verdicts on a failure of the job. -/
theorem answers_of_error (text : String) (h : ((Job.generate text locale).run w).1 = .error failure) :
    served? (Server.serve (request text locale) w).1 =
        some (if verdict .en failure.problem = .misread then .broken else verdict .en failure.problem) ∧
      called? ((call text locale).run w).1 = some (verdict locale failure.problem) := by
  rw [serve_request, run_call, h]
  exact ⟨served?_ofFailure failure, called?_reply locale failure⟩

/-- The verdicts on a definition. -/
theorem answers_of_ok {d : Definition} (h : ((Job.generate text locale).run w).1 = .ok d) :
    served? (Server.serve (request text locale) w).1 = some (.done d.document) ∧
      called? ((call text locale).run w).1 = some (.done d.document) := by
  rw [serve_request, run_call, h]
  exact ⟨rfl, rfl⟩

/-- Any other message is that of the failed call to the model. -/
theorem failed_of_troubled {message : String} (h : defined w = .error failure)
    (hanswer : verdict locale failure.problem = .troubled message) :
    ∃ problem : Problem, w.answers.askModel.take.1 = .error problem ∧ problem.message = message := by
  rcases failure_of_defined h with ⟨reason, detail, hproblem⟩ | hescapes
  · rw [hproblem] at hanswer
    cases hanswer
  · cases hescapes with
    | unsettled settles =>
      obtain ⟨issues, rfl⟩ := World.misshapen_of_settingsNow settles
      cases hanswer
    | @failed problem keyed fails unrefused other =>
      refine ⟨problem, fails, ?_⟩
      cases problem <;> cases hanswer <;> rfl
    | endless keyed replies unblocked malformed limit => cases hanswer

theorem Apart.outcomes {outcome outcome' : Verdict} (h : Apart locale w outcome outcome') (text : String) :
    served? (Server.serve (request text locale) w).1 = some outcome ∧
      called? ((call text locale).run w).1 = some outcome' ∧ outcome ≠ outcome' := by
  cases h with
  | @foreign failure reason detail fails problem foreign =>
    obtain ⟨hserved, hcalled⟩ := answers_of_error text (run_generate_of_error fails)
    rw [problem] at hserved hcalled
    refine ⟨hserved, hcalled, fun hsame => ?_⟩
    exact remediation_ne foreign reason (Verdict.ungenerated.inj hsame).2.2
  | @misshapen failure model issues fails problem =>
    obtain ⟨hserved, hcalled⟩ := answers_of_error text (run_generate_of_error fails)
    rw [problem] at hserved hcalled
    exact ⟨hserved, hcalled, nofun⟩

/-- A failure has one verdict, unless it is one of those that come `Apart`. -/
theorem agree_or_apart (text : String) (h : defined w = .error failure) :
    (∃ outcome, Apt locale w outcome ∧ served? (Server.serve (request text locale) w).1 = some outcome ∧
        called? ((call text locale).run w).1 = some outcome) ∨
      ∃ outcome outcome', Apart locale w outcome outcome' := by
  by_cases hmisread : verdict locale failure.problem = .misread
  · obtain ⟨model, issues, hshape⟩ := misshapen_of_verdict hmisread
    exact Or.inr ⟨_, _, .misshapen h hshape⟩
  by_cases hforeign : failure.problem.OfGeneration ∧ locale ≠ .en
  · obtain ⟨⟨reason, detail, hproblem⟩, hlocale⟩ := hforeign
    exact Or.inr ⟨_, _, .foreign h hproblem hlocale⟩
  -- what is left is a generation for English, or a failure whose verdict does not depend on the locale
  have hsame : verdict .en failure.problem = verdict locale failure.problem := by
    by_cases hgeneration : failure.problem.OfGeneration
    · rw [Classical.not_not.mp fun hlocale => hforeign ⟨hgeneration, hlocale⟩]
    · exact verdict_congr hgeneration .en locale
  have hjob : ((Job.generate text locale).run w).1 = .error failure := run_generate_of_error h
  obtain ⟨hserved, hcalled⟩ := answers_of_error text hjob
  rw [hsame, if_neg hmisread] at hserved
  have hremedy : ∀ reason detail remedy, verdict locale failure.problem =
      .ungenerated reason detail remedy → remedy = remediation locale reason :=
    fun reason detail remedy hanswer => (generation_of_verdict hanswer).2
  exact Or.inl ⟨_, ⟨hmisread, hremedy, fun message => failed_of_troubled h⟩, hserved, hcalled⟩

/-- Both interfaces give the field and the message of a definition that is refused. -/
theorem answers_of_defect {d : Definition} {defect : Defect} (text : String) (hdefined : defined w = .ok d)
    (hdefect : d.validate = .error defect) :
    served? (Server.serve (request text locale) w).1 = some (.invalid defect.field defect.reason) ∧
      called? ((call text locale).run w).1 = some (.invalid defect.field defect.reason) := by
  have hjob : ((Job.generate text locale).run w).1 = .error (Job.invalid defect) := by
    rw [run_generate, hdefined]
    show d.validate.mapError _ = _
    rw [hdefect]
    rfl
  exact answers_of_error text hjob

/-- **The server and the tool generate alike.**  For every text, locale and world both interfaces end in the same
world, so the calls to the model are the same.  They give the same verdict, and it is `Apt`, unless the case is
one of those in which they come `Apart`; there the two verdicts differ and are the ones listed. -/
theorem generation_endpoint_and_tool_agree (text : String) (locale : Locale) (w : World) :
    let served := Server.serve (request text locale) w
    let called := (call text locale).run w
    called.2 = served.2 ∧
      ((∃ outcome, Apt locale w outcome ∧ served? served.1 = some outcome ∧ called? called.1 = some outcome) ∨
        ∃ outcome outcome', Apart locale w outcome outcome') ∧
      ∀ outcome outcome', Apart locale w outcome outcome' →
        served? served.1 = some outcome ∧ called? called.1 = some outcome' ∧ outcome ≠ outcome' := by
  refine ⟨by rw [serve_request, run_call], ?_, fun outcome outcome' hapart => hapart.outcomes text⟩
  rcases hdefined : defined w with failure | d
  · exact agree_or_apart text hdefined
  rcases hvalidate : d.validate with defect | normal
  · refine Or.inl ⟨.invalid defect.field defect.reason, ?_, answers_of_defect text hdefined hvalidate⟩
    exact ⟨nofun, nofun, nofun⟩
  · have hjob : ((Job.generate text locale).run w).1 = .ok normal := by
      rw [run_generate, hdefined]
      show d.validate.mapError _ = _
      rw [hvalidate]
      rfl
    exact Or.inl ⟨.done normal.document, ⟨nofun, nofun, nofun⟩, answers_of_ok hjob⟩

/-- Without an API key, the remedy for the locale `vi` is in English over HTTP and in Vietnamese over MCP. -/
theorem remediation_differs_for_vi :
    let w : World := { now := Moment.epoch }
    let detail := "Gemini API key not configured. Get one at "
      ++ "https://aistudio.google.com/apikey and set GEMINI_API_KEY in .env"
    served? (Server.serve (request "Tea?" .vi) w).1 =
        some (.ungenerated .invalidKey detail (remediation .en .invalidKey)) ∧
      called? ((call "Tea?" .vi).run w).1 =
        some (.ungenerated .invalidKey detail (remediation .vi .invalidKey)) ∧
      remediation .en .invalidKey ≠ remediation .vi .invalidKey := by
  intro w detail
  have hload : Settings.load [] none = .done {} := rfl
  have hsettings : w.settingsNow = .ok {} := World.settingsNow_of_load rfl hload
  have hdefined : defined w = .error noKey := by
    refine defined_of_error ?_
    rw [asked, hsettings]
    rfl
  have hapart : Apart .vi w _ _ := .foreign hdefined rfl (by decide)
  obtain ⟨hserved, hcalled, -⟩ := hapart.outcomes "Tea?"
  exact ⟨hserved, hcalled, remediation_ne (by decide) .invalidKey⟩

end Generation
end Formwork
