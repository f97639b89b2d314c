import Formwork.Generation.Call
import Formwork.Proofs.World.Effects

/-!
# The outcomes of generation

The prompt and the instructions have no influence on the outcome of `generate`, which is a function of the world
(`Generation.asked`).

Most failures are a `GenerationError` with a reason.  The others leave `generate` as they are: settings that cannot
be loaded, a client call that fails with something other than an `APIError`, and a reply that exceeds the limits of
the JSON reader.  `Generation.Escapes` lists them, and the list is complete (`generation_outcomes`).
-/
namespace Formwork

/-- The problem is a `GenerationError`. -/
def Problem.OfGeneration (problem : Problem) : Prop :=
  ∃ reason message, problem = .generation reason message

namespace ModelReply

variable {reply : ModelReply} {limits : Json.Limits} {value : Json} {failure : Failure}

/-- The text of a reply, stripped. -/
def stripped (reply : ModelReply) : String := Text.strip (reply.text.getD "")

theorem value_of_blocked (h : reply.isBlocked = true) :
    reply.value limits = .error (Problem.generation .safetyBlocked "Response blocked by safety filters.") :=
  if_pos h

theorem value_of_ok (hopen : reply.isBlocked = false) (h : Json.parseWithin limits reply.stripped = .ok value) :
    reply.value limits = .ok value := by
  have htext : reply.stripped ≠ "" := fun hempty => nomatch hempty ▸ h
  unfold stripped at h htext
  simp only [ModelReply.value, hopen, h, Bool.false_eq_true, if_false, if_neg htext]

/-- A text that does not parse is a `GenerationError`, unless it exceeds the limits of the reader. -/
theorem value_of_error {fault : Json.Malformed} (hopen : reply.isBlocked = false)
    (h : Json.parseWithin limits reply.stripped = .error fault) :
    ∃ failure, reply.value limits = .error failure ∧
      if fault.reason.isLimit then failure = Problem.malformedJson fault
      else failure.problem.OfGeneration := by
  by_cases hempty : reply.stripped = ""
  · -- there is no limit for a text to go beyond when it is empty
    obtain rfl : ⟨.expectingValue, .after []⟩ = fault := Except.error.inj (hempty ▸ h)
    unfold stripped at hempty
    refine ⟨Problem.generation .empty "API returned an empty response.", ?_, ⟨_, _, rfl⟩⟩
    simp only [ModelReply.value, hopen, hempty, Bool.false_eq_true, if_false, if_true]
  · unfold stripped at h hempty
    simp only [ModelReply.value, hopen, h, Bool.false_eq_true, if_false, if_neg hempty]
    cases fault.reason.isLimit with
    | true => exact ⟨_, rfl, rfl⟩
    | false => exact ⟨_, rfl, _, _, rfl⟩

/-- The value of a reply that is not blocked is the one that its text denotes. -/
theorem value_eq_ok_iff :
    reply.value limits = .ok value ↔
      reply.isBlocked = false ∧ Json.parseWithin limits reply.stripped = .ok value := by
  refine ⟨fun h => ?_, fun h => value_of_ok h.1 h.2⟩
  cases hblocked : reply.isBlocked with
  | true => cases (value_of_blocked hblocked).symm.trans h
  | false =>
    rcases hparse : Json.parseWithin limits reply.stripped with fault | found
    · obtain ⟨failure, hvalue, -⟩ := value_of_error hblocked hparse
      cases hvalue.symm.trans h
    · cases (value_of_ok hblocked hparse).symm.trans h
      exact ⟨rfl, rfl⟩

theorem failure_of_value (h : reply.value limits = .error failure) :
    failure.problem.OfGeneration ∨ ∃ fault, reply.isBlocked = false ∧
      Json.parseWithin limits reply.stripped = .error fault ∧ fault.reason.isLimit = true ∧
      failure = Problem.malformedJson fault := by
  cases hblocked : reply.isBlocked with
  | true =>
    cases (value_of_blocked hblocked).symm.trans h
    exact Or.inl ⟨_, _, rfl⟩
  | false =>
    rcases hparse : Json.parseWithin limits reply.stripped with fault | found
    · obtain ⟨failure', hvalue, hkind⟩ := value_of_error hblocked hparse
      cases hvalue.symm.trans h
      cases hlimit : fault.reason.isLimit with
      | true =>
        rw [if_pos hlimit] at hkind
        exact Or.inr ⟨fault, rfl, rfl, hlimit, hkind⟩
      | false =>
        rw [if_neg (by simp [hlimit])] at hkind
        exact Or.inl hkind
    · cases (value_of_ok hblocked hparse).symm.trans h

end ModelReply

namespace Generation

variable {w v : World} {failure : Failure} {value : Json} {d : Definition}

/-! ### Outcomes of `generate` -/

/-- The outcome of `generate` in a world, for any prompt. -/
def asked (w : World) : Except Failure Json := do
  let settings ← w.settingsNow
  if settings.geminiApiKey = "" then .error noKey
  else
    match w.answers.askModel.take.1 with
    | .error problem => .error (ofFailedCall problem).1
    | .ok reply => reply.value w.limits

/-- The settings can be loaded, and have an API key. -/
def Keyed (w : World) : Prop := ∃ settings, w.settingsNow = .ok settings ∧ settings.geminiApiKey ≠ ""

theorem asked_of_keyed (h : Keyed w) :
    asked w =
      match w.answers.askModel.take.1 with
      | .error problem => .error (ofFailedCall problem).1
      | .ok reply => reply.value w.limits := by
  obtain ⟨settings, hsettings, hkey⟩ := h
  rw [asked, hsettings]
  exact if_neg hkey

/-- The exits of `generate`, with the outcome of each. -/
inductive Asking (w : World) : Except Failure Json → Prop
  /-- The settings cannot be loaded. -/
  | unsettled {failure : Failure} (settles : w.settingsNow = .error failure) :
      Asking w (.error failure)
  /-- There is no API key, and no call is made. -/
  | keyless {settings : Settings} (settles : w.settingsNow = .ok settings)
      (key : settings.geminiApiKey = "") : Asking w (.error noKey)
  | failed {problem : Problem} (keyed : Keyed w)
      (fails : w.answers.askModel.take.1 = .error problem) :
      Asking w (.error (ofFailedCall problem).1)
  | replied {reply : ModelReply} (keyed : Keyed w)
      (replies : w.answers.askModel.take.1 = .ok reply) : Asking w (reply.value w.limits)

theorem asking_asked (w : World) : Asking w (asked w) := by
  rcases hsettings : w.settingsNow with failure | settings
  · rw [asked, hsettings]
    exact .unsettled hsettings
  by_cases hkey : settings.geminiApiKey = ""
  · have hasked : asked w = .error noKey := by
      rw [asked, hsettings]
      exact if_pos hkey
    rw [hasked]
    exact .keyless hsettings hkey
  · rw [asked_of_keyed ⟨settings, hsettings, hkey⟩]
    rcases hreply : w.answers.askModel.take.1 with problem | reply
    · exact .failed ⟨settings, hsettings, hkey⟩ hreply
    · exact .replied ⟨settings, hsettings, hkey⟩ hreply

theorem run_reporting_ok {call : Act World ModelReply} {reply : ModelReply}
    (h : call.run w = (.ok reply, v)) : (reporting call).run w = (.ok reply, v) := by
  rw [Act.run, reporting, h]

theorem run_reporting_error {call : Act World ModelReply} (h : call.run w = (.error failure, v)) :
    (reporting call).run w =
      (.error (ofFailedCall failure).1, v.logged (ofFailedCall failure).2) := by
  rw [Act.run, reporting, h]

/-- **The outcome of `generate` is a function of the world**, whatever the prompt. -/
theorem run_ask (prompt : String) (instructions model : Option String) (w : World) :
    ((ask prompt instructions model).run w).1 = asked w := by
  unfold ask
  have hlook := World.run_currentSettings w
  rcases hsettings : w.settingsNow with failure | settings
  · rw [hsettings] at hlook
    rw [Act.run_bind_error hlook, asked, hsettings]
    rfl
  rw [hsettings] at hlook
  rw [Act.run_bind_ok hlook, asked, hsettings]
  show ((if settings.geminiApiKey = "" then Act.fail noKey else _ : Act World Json).run
    (w.keeping settings)).1 = if settings.geminiApiKey = "" then Except.error noKey else _
  by_cases hkey : settings.geminiApiKey = ""
  · rw [if_pos hkey, if_pos hkey]
    rfl
  rw [if_neg hkey, if_neg hkey]
  rcases hcall : (World.askModel settings.geminiApiKey ((Text.nonempty? model).getD settings.geminiModel)
    prompt instructions).run (w.keeping settings) with ⟨result, v⟩
  -- to look at the settings leaves the answers of the services as they were
  obtain ⟨hresult, hlimits⟩ :
      result = w.answers.askModel.take.1.mapError (⟨·, []⟩) ∧ v.limits = w.limits := by
    cases hcall
    exact ⟨rfl, rfl⟩
  rcases hreply : w.answers.askModel.take.1 with problem | reply
  · rw [hresult, hreply] at hcall
    rw [Act.run_bind_error (run_reporting_error hcall)]
  · rw [hresult, hreply] at hcall
    rw [Act.run_bind_ok (run_reporting_ok hcall)]
    show reply.value v.limits = reply.value w.limits
    rw [hlimits]

/-! ### Failures that are not converted -/

/-- The value that the reply of the model denotes. -/
structure Answers (w : World) (value : Json) : Prop where
  keyed : Keyed w
  replied : ∃ reply, w.answers.askModel.take.1 = .ok reply ∧ reply.isBlocked = false ∧
    Json.parseWithin w.limits reply.stripped = .ok value

/-- The failures that leave `generate` as they are. -/
inductive Escapes (w : World) : Failure → Prop
  /-- The settings cannot be loaded. -/
  | unsettled {failure : Failure} (settles : w.settingsNow = .error failure) : Escapes w failure
  /-- The client call fails with something other than an `APIError`. -/
  | failed {problem : Problem} (keyed : Keyed w)
      (fails : w.answers.askModel.take.1 = .error problem)
      (unrefused : ∀ refusal, problem ≠ .modelRefusal refusal) (other : ¬ problem.OfGeneration) :
      Escapes w problem
  /-- The reply exceeds the limits of the reader. -/
  | endless {reply : ModelReply} {fault : Json.Malformed} (keyed : Keyed w)
      (replies : w.answers.askModel.take.1 = .ok reply) (unblocked : reply.isBlocked = false)
      (malformed : Json.parseWithin w.limits reply.stripped = .error fault) (limit : fault.reason.isLimit = true) :
      Escapes w (Problem.malformedJson fault)

theorem ofFailedCall_of_ne {problem : Problem} (h : ∀ refusal, problem ≠ .modelRefusal refusal) :
    (ofFailedCall problem).1 = problem := by
  unfold ofFailedCall
  split
  · rename_i refusal hproblem
    exact absurd hproblem (h refusal)
  · rfl

theorem asked_eq_ok_iff : asked w = .ok value ↔ Answers w value := by
  constructor
  · intro h
    have hasking := asking_asked w
    rw [h] at hasking
    generalize hresult : Except.ok value = result at hasking
    cases hasking with
    | unsettled settles => cases hresult
    | keyless settles key => cases hresult
    | failed keyed fails => cases hresult
    | @replied reply keyed replies =>
      exact ⟨keyed, reply, replies, ModelReply.value_eq_ok_iff.mp hresult.symm⟩
  · rintro ⟨hkeyed, reply, hreply, hvalue⟩
    rw [asked_of_keyed hkeyed, hreply]
    exact ModelReply.value_eq_ok_iff.mpr hvalue

/-- A failure of `generate` is a `GenerationError` or one of these. -/
theorem failure_of_asked (h : asked w = .error failure) :
    failure.problem.OfGeneration ∨ Escapes w failure := by
  have hasking := asking_asked w
  rw [h] at hasking
  generalize hresult : (.error failure : Except Failure Json) = result at hasking
  cases hasking with
  | unsettled settles =>
    cases hresult
    exact Or.inr (.unsettled settles)
  | keyless settles key =>
    cases hresult
    exact Or.inl ⟨_, _, rfl⟩
  | @failed problem keyed fails =>
    cases hresult
    by_cases hrefused : ∃ refusal, problem = .modelRefusal refusal
    · obtain ⟨refusal, rfl⟩ := hrefused
      exact Or.inl ⟨_, _, rfl⟩
    · have hother : ∀ refusal, problem ≠ .modelRefusal refusal :=
        fun refusal hproblem => hrefused ⟨refusal, hproblem⟩
      rw [ofFailedCall_of_ne hother]
      by_cases hgeneration : problem.OfGeneration
      · exact Or.inl hgeneration
      · exact Or.inr (.failed keyed fails hother hgeneration)
  | replied keyed replies =>
    rcases ModelReply.failure_of_value hresult.symm with hgeneration | ⟨fault, hopen, hparse, hlimit, rfl⟩
    · exact Or.inl hgeneration
    · exact Or.inr (.endless keyed replies hopen hparse hlimit)

theorem Escapes.asked_eq (h : Escapes w failure) : asked w = .error failure := by
  cases h with
  | unsettled settles =>
    rw [asked, settles]
    rfl
  | failed keyed fails unrefused other =>
    rw [asked_of_keyed keyed, fails]
    exact congrArg Except.error (ofFailedCall_of_ne unrefused)
  | endless keyed replies unblocked malformed limit =>
    obtain ⟨failure, hvalue, hkind⟩ := ModelReply.value_of_error unblocked malformed
    rw [if_pos limit] at hkind
    rw [asked_of_keyed keyed, replies, ← hkind]
    exact hvalue

/-- A failure that is not converted is no `GenerationError`. -/
theorem Escapes.not_ofGeneration (h : Escapes w failure) : ¬ failure.problem.OfGeneration := by
  rintro ⟨reason, message, hproblem⟩
  cases h with
  | unsettled settles =>
    obtain ⟨issues, rfl⟩ := World.misshapen_of_settingsNow settles
    cases hproblem
  | failed keyed fails unrefused other => exact other ⟨reason, message, hproblem⟩
  | endless keyed replies unblocked malformed limit => cases hproblem

/-! ### Outcomes of `generate_form_definition` -/

/-- The outcome of `generate_form_definition` in a world, for any text. -/
def defined (w : World) : Except Failure Definition := do
  let value ← asked w
  (definition value).mapError Prod.fst

theorem run_define (text : String) (locale : Locale) (w : World) :
    ((define text locale).run w).1 = defined w := by
  have hask := run_ask (prompt text) (instructions locale) none w
  unfold define defineBy defined
  rw [← hask, Act.run_bind]
  rcases (ask (prompt text) (instructions locale) none).run w with ⟨failure | value, v⟩
  · rfl
  · show ((reportingDefinition value).run v).1 = (definition value).mapError Prod.fst
    simp only [reportingDefinition, Act.run]
    rcases definition value with ⟨failure, record⟩ | d
    · rfl
    · rfl

theorem definition_of_done (h : Definition.read .value value = .done d) : definition value = .ok d := by
  rw [definition, h]

/-- A value that fails the validation of the model is a `GenerationError`. -/
theorem definition_of_failed {issues : List Issue} (h : Definition.read .value value = .failed issues) :
    ∃ failure record, definition value = .error (failure, record) ∧ failure.problem.OfGeneration := by
  rw [definition, h]
  exact ⟨_, _, rfl, _, _, rfl⟩

theorem defined_of_asked (h : asked w = .ok value) :
    defined w = (definition value).mapError Prod.fst := by
  rw [defined, h]
  rfl

theorem defined_of_error (h : asked w = .error failure) : defined w = .error failure := by
  rw [defined, h]
  rfl

theorem defined_eq_ok_iff :
    defined w = .ok d ↔ ∃ value, Answers w value ∧ Definition.read .value value = .done d := by
  constructor
  · intro h
    rcases hasked : asked w with failure | value
    · cases (defined_of_error hasked).symm.trans h
    · refine ⟨value, asked_eq_ok_iff.mp hasked, ?_⟩
      rw [defined_of_asked hasked] at h
      rcases hread : Definition.read .value value with found | issues
      · rw [definition_of_done hread] at h
        exact congrArg Reading.done (Except.ok.inj h)
      · obtain ⟨failure, record, hfailed, -⟩ := definition_of_failed hread
        rw [hfailed] at h
        cases h
  · rintro ⟨value, hanswers, hread⟩
    rw [defined_of_asked (asked_eq_ok_iff.mpr hanswers), definition_of_done hread]
    rfl

theorem failure_of_defined (h : defined w = .error failure) :
    failure.problem.OfGeneration ∨ Escapes w failure := by
  rcases hasked : asked w with failure' | value
  · cases (defined_of_error hasked).symm.trans h
    exact failure_of_asked hasked
  · rw [defined_of_asked hasked] at h
    rcases hread : Definition.read .value value with found | issues
    · rw [definition_of_done hread] at h
      cases h
    · obtain ⟨failure', record, hfailed, hgeneration⟩ := definition_of_failed hread
      rw [hfailed] at h
      cases h
      exact Or.inl hgeneration

/-- **The outcomes of generation.**  For every prompt, in every world and whatever the model's service does,
`generate` returns the value that an unblocked reply denotes, and `generate_form_definition` the definition in
that value; or both raise a `GenerationError`, or both raise one of the failures that are not converted. -/
theorem generation_outcomes (prompt : String) (instructions model : Option String) (text : String)
    (locale : Locale) (w : World) :
    let asked := ((ask prompt instructions model).run w).1
    let defined := ((define text locale).run w).1
    (∀ value, asked = .ok value ↔ Answers w value) ∧
      (∀ d, defined = .ok d ↔ ∃ value, Answers w value ∧ Definition.read .value value = .done d) ∧
      (∀ failure, asked = .error failure → failure.problem.OfGeneration ∨ Escapes w failure) ∧
      (∀ failure, defined = .error failure → failure.problem.OfGeneration ∨ Escapes w failure) ∧
      ∀ failure, Escapes w failure → asked = .error failure ∧ defined = .error failure ∧
        ¬ failure.problem.OfGeneration := by
  rw [run_ask, run_define]
  exact ⟨fun _ => asked_eq_ok_iff, fun _ => defined_eq_ok_iff, fun _ => failure_of_asked,
    fun _ => failure_of_defined,
    fun _ h => ⟨h.asked_eq, defined_of_error h.asked_eq, h.not_ofGeneration⟩⟩

/-- A timeout of the client call is no `GenerationError`. -/
theorem timeout_escapes :
    let w : World := {
      now := Moment.epoch
      environment := [("GEMINI_API_KEY", "k")]
      answers := { askModel := ⟨[.error (.timeout "timed out")], {}⟩ } }
    ((ask "p" none none).run w).1 = .error (Problem.timeout "timed out") ∧
      ((define "p" .en).run w).1 = .error (Problem.timeout "timed out") ∧
      ¬ (Problem.timeout "timed out").OfGeneration := by
  intro w
  have hload : Settings.load [("GEMINI_API_KEY", "k")] none = .done { geminiApiKey := "k" } := rfl
  have hsettings : w.settingsNow = .ok { geminiApiKey := "k" } := World.settingsNow_of_load rfl hload
  have hescapes : Escapes w (Problem.timeout "timed out") :=
    .failed ⟨_, hsettings, by decide⟩ rfl nofun nofun
  rw [run_ask, run_define]
  exact ⟨hescapes.asked_eq, defined_of_error hescapes.asked_eq, hescapes.not_ofGeneration⟩

end Generation
end Formwork
