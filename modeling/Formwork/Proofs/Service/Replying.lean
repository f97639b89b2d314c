import Formwork.Proofs.Definition.Normalizing
import Formwork.Proofs.Definition.Wire
import Formwork.Proofs.Json.Readable
import Formwork.Proofs.Service.Generating

/-!
# `POST /api/forms/generate` and the reply of the model

A reply of the model is blocked, or it has a text.  The endpoint answers with the definition in that text, validated;
if the text has none, or one that is refused, the status is not 200.  Nothing else of the reply, and nothing of the
request, is in the answer (`answer_of_reply`).

So a validated definition goes through unchanged.  Its document may have any layout and white space around it, but it
must be within the limits of the reader: six levels of containers, and the digits of the points
(`Definition.ShortPoints`).  The limits depend on the run, and are a parameter here.  A text with half of a surrogate
pair is not read.
-/
namespace Formwork

/-! ### Texts with white space around them -/

namespace Text

variable {drop : Char → Bool} {before behind s : List Char}

/-- Stripping drops what is in front of the first character that is kept and behind the last one. -/
theorem stripChars_padded {first last : Char} {inner : List Char} (hbefore : ∀ c ∈ before, drop c = true)
    (hbehind : ∀ c ∈ behind, drop c = true) (hfirst : drop first = false) (hlast : drop last = false)
    (hs : s = first :: (inner ++ [last])) : stripChars drop (before ++ s ++ behind) = s := by
  have hfront : (before ++ s ++ behind).dropWhile drop = s ++ behind := by
    rw [List.append_assoc, List.dropWhile_append_of_pos hbefore, hs, List.cons_append,
      List.dropWhile_cons_of_neg (Bool.eq_false_iff.mp hfirst)]
  have hreverse : s.reverse = last :: (first :: inner).reverse := by
    rw [hs, ← List.cons_append, List.reverse_append]
    rfl
  rw [stripChars, hfront, List.reverse_append,
    List.dropWhile_append_of_pos fun c hc => hbehind c (List.mem_reverse.mp hc), hreverse,
    List.dropWhile_cons_of_neg (Bool.eq_false_iff.mp hlast), ← hreverse, List.reverse_reverse]

end Text

namespace Json

/-- The text of an object is between braces. -/
theorem exists_render_obj (layout : Layout) (depth : Nat) {fields : Fields} (h : fields ≠ []) :
    ∃ inner, render layout depth (.obj fields) = '\x7b' :: (inner ++ ['\x7d']) := by
  obtain ⟨⟨name, value⟩, rest, rfl⟩ := List.exists_cons_of_ne_nil h
  exact ⟨_, rfl⟩

/-- Stripping the text of an object of the white space around it. -/
theorem strip_padded {layout : Layout} {fields : Fields} (h : fields ≠ []) {before behind : List Char}
    (hbefore : ∀ c ∈ before, Text.isBlank c = true) (hbehind : ∀ c ∈ behind, Text.isBlank c = true) :
    Text.strip (String.ofList (before ++ render layout 0 (.obj fields) ++ behind)) =
      (Json.obj fields).write layout := by
  obtain ⟨inner, hinner⟩ := exists_render_obj layout 0 h
  rw [Text.strip, String.toList_ofList, write,
    Text.stripChars_padded hbefore hbehind (by decide) (by decide) hinner]

end Json

/-! ### Documents that can be read -/

/-- The points have no more than so many digits. -/
def Question.ShortPoints (digits : Nat) (q : Question) : Prop :=
  ∀ n, q.points = some n → (Nat.toDigits 10 n).length ≤ digits

/-- All points have no more than so many digits. -/
def Definition.ShortPoints (digits : Nat) (d : Definition) : Prop :=
  ∀ s ∈ d.sections, ∀ q ∈ s.questions, q.ShortPoints digits

section Documents
open Json

variable {levels digits : Nat}

theorem Question.readable_toJson {q : Question} (h : q.ShortPoints digits) :
    Readable ⟨levels + 2, digits⟩ (q.toJson FieldName.wire) := by
  have hnames : ["title", "type", "options", "imageUrl", "required", "points", "correctAnswers"].Nodup := by
    decide
  have hpoints : Readable ⟨levels + 1, digits⟩ (pointsJson q.points) := by
    cases hq : q.points with
    | none => exact readable_null _
    | some n => exact ⟨.int n, .int (h n hq)⟩
  refine readable_obj hnames fun field hfield => ?_
  simp only [List.mem_cons, List.not_mem_nil, or_false] at hfield
  rcases hfield with rfl | rfl | rfl | rfl | rfl | rfl | rfl
  · exact readable_str _ q.title
  · exact readable_str _ q.kind.name
  · exact readable_texts _ _ q.options
  · exact readable_ofText? _ q.imageUrl
  · exact readable_bool _ q.required
  · exact hpoints
  · exact readable_texts _ _ q.correctAnswers

theorem FormSection.readable_toJson {s : FormSection} (h : ∀ q ∈ s.questions, q.ShortPoints digits) :
    Readable ⟨levels + 4, digits⟩ (s.toJson FieldName.wire) := by
  have hnames : ["title", "description", "questions"].Nodup := by decide
  refine readable_obj hnames fun field hfield => ?_
  simp only [List.mem_cons, List.not_mem_nil, or_false] at hfield
  rcases hfield with rfl | rfl | rfl
  · exact readable_str _ s.title
  · exact readable_ofText? _ s.description
  · refine readable_arr fun item hitem => ?_
    obtain ⟨q, hq, rfl⟩ := List.mem_map.mp hitem
    exact Question.readable_toJson (h q hq)

theorem QuizSettings.readable_toJson (settings : QuizSettings) :
    Readable ⟨levels + 1, digits⟩ (settings.toJson FieldName.wire) := by
  have hnames : ["releaseImmediately", "showCorrectAnswers", "showPointValues"].Nodup := by decide
  refine readable_obj hnames fun field hfield => ?_
  simp only [List.mem_cons, List.not_mem_nil, or_false] at hfield
  rcases hfield with rfl | rfl | rfl
  all_goals exact readable_bool _ _

/-- **The document of a definition with short points can be read**, within six levels. -/
theorem Definition.readable_document {d : Definition} (h : d.ShortPoints digits) :
    Readable ⟨levels + 6, digits⟩ d.document := by
  have hnames : ["title", "description", "sections", "isQuiz", "quizSettings"].Nodup := by decide
  refine readable_obj hnames fun field hfield => ?_
  simp only [List.mem_cons, List.not_mem_nil, or_false] at hfield
  rcases hfield with rfl | rfl | rfl | rfl | rfl
  · exact readable_str _ d.title
  · exact readable_ofText? _ d.description
  · refine readable_arr fun item hitem => ?_
    obtain ⟨s, hs, rfl⟩ := List.mem_map.mp hitem
    exact FormSection.readable_toJson (h s hs)
  · exact readable_bool _ d.isQuiz
  · cases d.quizSettings with
    | none => exact readable_null _
    | some settings => exact settings.readable_toJson

/-- The points of a document that can be read are short. -/
theorem Definition.shortPoints_of_within {limits : Limits} {d : Definition} (h : Within limits d.document) :
    d.ShortPoints limits.digits := by
  intro s hs q hq n hn
  obtain ⟨levels, digits⟩ := limits
  -- a farther reader has levels to spare, and as many digits
  have hfar : Within ⟨levels + 5, digits⟩ d.document := h.mono ⟨Nat.le_add_right _ _, Nat.le_refl _⟩
  have hsections : Within ⟨levels + 4, digits⟩ (.arr (d.sections.map (FormSection.toJson FieldName.wire))) :=
    hfar.of_member (List.mem_cons_of_mem _ (List.mem_cons_of_mem _ List.mem_cons_self))
  have hsection : Within ⟨levels + 3, digits⟩ (s.toJson FieldName.wire) :=
    hsections.of_item (List.mem_map_of_mem hs)
  have hquestions : Within ⟨levels + 2, digits⟩ (.arr (s.questions.map (Question.toJson FieldName.wire))) :=
    hsection.of_member (List.mem_cons_of_mem _ (List.mem_cons_of_mem _ List.mem_cons_self))
  have hquestion : Within ⟨levels + 1, digits⟩ (q.toJson FieldName.wire) :=
    hquestions.of_item (List.mem_map_of_mem hq)
  have hpoints : Within ⟨levels, digits⟩ (pointsJson q.points) :=
    hquestion.of_member (List.mem_cons_of_mem _ (List.mem_cons_of_mem _ (List.mem_cons_of_mem _
      (List.mem_cons_of_mem _ (List.mem_cons_of_mem _ List.mem_cons_self)))))
  rw [hn] at hpoints
  cases hpoints with
  | int hdigits => exact hdigits

end Documents

/-! ### Replies -/

/-- The reply is not blocked: there is no block reason, and no candidate finished with `SAFETY`. -/
structure ModelReply.Unblocked (reply : ModelReply) : Prop where
  prompt : ∀ reason, reply.blockReason = some reason → reason = ""
  candidates : ∀ reason ∈ reply.finishReasons, reason ≠ some "SAFETY"

theorem ModelReply.isBlocked_eq_false_iff {reply : ModelReply} : reply.isBlocked = false ↔ reply.Unblocked := by
  have hprompt : (Text.nonempty? reply.blockReason).isSome = false ↔
      ∀ reason, reply.blockReason = some reason → reason = "" := by
    cases reply.blockReason with
    | none => exact ⟨fun _ => nofun, fun _ => rfl⟩
    | some reason =>
      by_cases hreason : reason = ""
      · simp [Text.nonempty?, hreason]
      · simp [Text.nonempty?, hreason]
  have hcandidates : reply.finishReasons.contains (some "SAFETY") = false ↔
      ∀ reason ∈ reply.finishReasons, reason ≠ some "SAFETY" := by
    rw [Bool.eq_false_iff, Ne, List.contains_iff_mem]
    exact ⟨fun h reason hreason hsafety => h (hsafety ▸ hreason), fun h hmem => h _ hmem rfl⟩
  rw [ModelReply.isBlocked, Bool.or_eq_false_iff, hprompt, hcandidates]
  exact ⟨fun h => ⟨h.1, h.2⟩, fun h => ⟨h.prompt, h.candidates⟩⟩

namespace Generation

variable {w : World} {reply : ModelReply} {text : String} {locale : Locale} {d normal : Definition}
  {value : Json}

/-- Within these limits the text of the reply is read as a definition that is accepted, with this normal form. -/
structure Defines (limits : Json.Limits) (reply : ModelReply) (normal : Definition) : Prop where
  unblocked : reply.Unblocked
  accepted : ∃ value d, Json.parseWithin limits reply.stripped = .ok value ∧
    Definition.read .value value = .done d ∧ d.validate = .ok normal

theorem run_generate_eq_ok_iff (hkeyed : Keyed w) (hreply : w.answers.askModel.take.1 = .ok reply) :
    ((Job.generate text locale).run w).1 = .ok normal ↔ Defines w.limits reply normal := by
  rw [run_generate]
  constructor
  · intro h
    rcases hdefined : defined w with failure | d
    · rw [hdefined] at h
      cases h
    · rw [hdefined] at h
      obtain ⟨value, ⟨-, found, hfound, hopen, hparse⟩, hread⟩ := defined_eq_ok_iff.mp hdefined
      obtain rfl : reply = found := Except.ok.inj (hreply.symm.trans hfound)
      exact ⟨ModelReply.isBlocked_eq_false_iff.mp hopen, value, d, hparse, hread, Act.mapError_eq_ok.mp h⟩
  · rintro ⟨hopen, value, d, hparse, hread, hvalid⟩
    have hanswers : Answers w value :=
      ⟨hkeyed, reply, hreply, ModelReply.isBlocked_eq_false_iff.mpr hopen, hparse⟩
    rw [defined_eq_ok_iff.mpr ⟨value, hanswers, hread⟩]
    exact Act.mapError_eq_ok.mpr hvalid

theorem serve_of_defines (hkeyed : Keyed w) (hreply : w.answers.askModel.take.1 = .ok reply)
    (h : Defines w.limits reply normal) : (Server.serve (request text locale) w).1 = .ok normal.document := by
  rw [serve_request, (run_generate_eq_ok_iff hkeyed hreply).mpr h]
  rfl

/-- No other reply is answered 200. -/
theorem exists_defines_of_status (hkeyed : Keyed w) (hreply : w.answers.askModel.take.1 = .ok reply)
    (h : (Server.serve (request text locale) w).1.status = 200) : ∃ normal, Defines w.limits reply normal := by
  rw [serve_request] at h
  rcases hrun : ((Job.generate text locale).run w).1 with failure | normal
  · rw [hrun] at h
    exact absurd h (Response.ofFailure_status_ne failure)
  · exact ⟨normal, (run_generate_eq_ok_iff hkeyed hreply).mp hrun⟩

/-- A blocked reply is answered as `safety_blocked`, whatever its text. -/
theorem serve_of_blocked (hkeyed : Keyed w) (hreply : w.answers.askModel.take.1 = .ok reply)
    (h : ¬ reply.Unblocked) : (Server.serve (request text locale) w).1 =
      .generationFailed .safetyBlocked "Response blocked by safety filters." := by
  have hblocked : reply.isBlocked = true := by
    rw [← Bool.not_eq_false]
    exact fun hopen => h (ModelReply.isBlocked_eq_false_iff.mp hopen)
  have hasked : asked w =
      .error (Problem.generation .safetyBlocked "Response blocked by safety filters.") := by
    rw [asked_of_keyed hkeyed, hreply]
    exact ModelReply.value_of_blocked hblocked
  rw [serve_request, run_generate_of_error (defined_of_error hasked)]
  rfl

/-- A reply whose text is read as the document of a validated definition. -/
theorem defines_of_document {limits : Json.Limits} (hd : ∃ raw : Definition, raw.validate = .ok d)
    (hopen : reply.Unblocked) (hparse : Json.parseWithin limits reply.stripped = .ok d.document) :
    Defines limits reply d := by
  obtain ⟨raw, hraw⟩ := hd
  exact ⟨hopen, d.document, d, hparse, Definition.read_toJson (Or.inl rfl) d, (Definition.validate_normal hraw).1⟩

theorem stripped_of_padded {layout : Json.Layout} {before behind : List Char}
    (hbefore : ∀ c ∈ before, Text.isBlank c = true) (hbehind : ∀ c ∈ behind, Text.isBlank c = true)
    (htext : reply.text = some (String.ofList (before ++ d.document.render layout 0 ++ behind))) :
    reply.stripped = d.document.write layout := by
  rw [ModelReply.stripped, htext, Option.getD_some]
  exact Json.strip_padded (List.cons_ne_nil _ _) hbefore hbehind

/-- **The response to a reply of the model.**  The status is 200 just if the reply is not blocked and its text,
stripped, is read within the limits of the run as a definition that is accepted; the body is then the document of
the validated definition.  A blocked reply is answered as `safety_blocked`, whatever its text.  In particular a
validated definition goes through unchanged, from any text that is read as its document, and from its document in
any layout with any white space around it, if that is within the limits. -/
theorem answer_of_reply (hkeyed : Keyed w) (hreply : w.answers.askModel.take.1 = .ok reply) (text : String)
    (locale : Locale) :
    let answer := (Server.serve (request text locale) w).1
    (answer.status = 200 ↔ reply.Unblocked ∧ ∃ value d normal,
      Json.parseWithin w.limits reply.stripped = .ok value ∧ Definition.read .value value = .done d ∧
        d.validate = .ok normal) ∧
    (∀ value d normal, reply.Unblocked → Json.parseWithin w.limits reply.stripped = .ok value →
      Definition.read .value value = .done d → d.validate = .ok normal → answer = .ok normal.document) ∧
    (¬ reply.Unblocked → answer = .generationFailed .safetyBlocked "Response blocked by safety filters.") ∧
    ∀ d : Definition, (∃ raw : Definition, raw.validate = .ok d) → reply.Unblocked →
      (Json.parseWithin w.limits reply.stripped = .ok d.document → answer = .ok d.document) ∧
      ∀ (layout : Json.Layout) (before behind : List Char), layout.Roomy → 6 ≤ w.limits.levels →
        d.ShortPoints w.limits.digits →
        (∀ c ∈ before, Text.isBlank c = true) → (∀ c ∈ behind, Text.isBlank c = true) →
        reply.text = some (String.ofList (before ++ d.document.render layout 0 ++ behind)) →
        answer = .ok d.document := by
  refine ⟨⟨fun h => ?_, ?_⟩, fun value d normal hopen hparse hread hvalid => ?_, serve_of_blocked hkeyed hreply,
    fun d hd hopen => ⟨fun hparse => ?_,
      fun layout before behind hroomy hlevels hshort hbefore hbehind htext => ?_⟩⟩
  · obtain ⟨normal, hopen, value, d, hparse, hread, hvalid⟩ := exists_defines_of_status hkeyed hreply h
    exact ⟨hopen, value, d, normal, hparse, hread, hvalid⟩
  · rintro ⟨hopen, value, d, normal, hparse, hread, hvalid⟩
    rw [serve_of_defines hkeyed hreply ⟨hopen, value, d, hparse, hread, hvalid⟩]
    rfl
  · exact serve_of_defines hkeyed hreply ⟨hopen, value, d, hparse, hread, hvalid⟩
  · exact serve_of_defines hkeyed hreply (defines_of_document hd hopen hparse)
  · obtain ⟨levels, hlevels⟩ := Nat.exists_eq_add_of_le' hlevels
    have hreadable : Json.Readable w.limits d.document := by
      rw [show w.limits = ⟨levels + 6, w.limits.digits⟩ from by rw [← hlevels]]
      exact Definition.readable_document hshort
    have hparse : Json.parseWithin w.limits reply.stripped = .ok d.document := by
      rw [stripped_of_padded hbefore hbehind htext]
      exact hreadable.parse_write hroomy
    exact serve_of_defines hkeyed hreply (defines_of_document hd hopen hparse)

/-- A definition whose text has white space around it. -/
theorem answer_of_reply_tea :
    let d : Definition :=
      { title := "Tea", sections := [⟨"Black", none, [{ title := "Since when?", kind := default }]⟩] }
    let reply : ModelReply :=
      { text := some (String.ofList (['\n', '\t'] ++ d.document.render .spaced 0 ++ ['\n'])) }
    let w : World := {
      now := Moment.epoch
      environment := [("GEMINI_API_KEY", "k")]
      answers := { askModel := ⟨[.ok reply], {}⟩ } }
    Keyed w ∧ w.answers.askModel.take.1 = .ok reply ∧
      (Server.serve (request "Tea?" .en) w).1 = .ok d.document := by
  intro d reply w
  have hload : Settings.load [("GEMINI_API_KEY", "k")] none = .done { geminiApiKey := "k" } := rfl
  have hkeyed : Keyed w := ⟨_, World.settingsNow_of_load rfl hload, by decide⟩
  have hnormal : ∃ raw : Definition, raw.validate = .ok d := ⟨d, by decide⟩
  have hopen : reply.Unblocked := ⟨nofun, List.forall_mem_nil _⟩
  have hshort : d.ShortPoints w.limits.digits :=
    List.forall_mem_singleton.mpr (List.forall_mem_singleton.mpr fun n hn => nomatch hn)
  have hbefore : ∀ c ∈ ['\n', '\t'], Text.isBlank c = true :=
    List.forall_mem_cons.mpr ⟨rfl, List.forall_mem_singleton.mpr rfl⟩
  have hbehind : ∀ c ∈ ['\n'], Text.isBlank c = true := List.forall_mem_singleton.mpr rfl
  obtain ⟨-, -, -, hwritten⟩ := answer_of_reply hkeyed rfl "Tea?" .en
  exact ⟨hkeyed, rfl,
    (hwritten d hnormal hopen).2 .spaced _ _ Json.Layout.roomy_spaced (by decide) hshort hbefore hbehind rfl⟩

/-- The reply has a validated definition whose points have 4301 digits, and the status is not 200. -/
theorem long_points_unanswered :
    let d : Definition := { title := "Tea", sections :=
      [⟨"Black", none, [{ title := "Since when?", kind := default, points := some (10 ^ 4300) }]⟩] }
    let reply : ModelReply := { text := some (d.document.write .spaced) }
    let w : World := {
      now := Moment.epoch
      environment := [("GEMINI_API_KEY", "k")]
      answers := { askModel := ⟨[.ok reply], {}⟩ } }
    Keyed w ∧ w.answers.askModel.take.1 = .ok reply ∧ reply.Unblocked ∧
      Json.Denotes reply.stripped d.document ∧ Definition.read .value d.document = .done d ∧
      d.validate = .ok d ∧ (Server.serve (request "Tea?" .en) w).1.status ≠ 200 := by
  intro d reply w
  have hload : Settings.load [("GEMINI_API_KEY", "k")] none = .done { geminiApiKey := "k" } := rfl
  have hkeyed : Keyed w := ⟨_, World.settingsNow_of_load rfl hload, by decide⟩
  have hstripped : reply.stripped = d.document.write .spaced := by
    have hpadded : reply.text = some (String.ofList ([] ++ d.document.render .spaced 0 ++ [])) := by
      rw [List.nil_append, List.append_nil]
      rfl
    exact stripped_of_padded (List.forall_mem_nil _) (List.forall_mem_nil _) hpadded
  have hdenotes : Json.Denotes reply.stripped d.document := by
    rw [hstripped]
    exact Json.denotes_write Json.Layout.roomy_spaced d.document
  have hlong : ¬ Json.Within w.limits d.document := by
    intro hwithin
    have hdigits := Definition.shortPoints_of_within hwithin _ List.mem_cons_self _ List.mem_cons_self _ rfl
    exact Json.lt_length_toDigits 4300 (by decide) hdigits
  have hvalid : d.validate = .ok d := by
    rw [Definition.validate_eq_ok_iff]
    constructor
    · decide
    · rfl
  refine ⟨hkeyed, rfl, ⟨nofun, List.forall_mem_nil _⟩, hdenotes, Definition.read_toJson (Or.inl rfl) d,
    hvalid, ?_⟩
  intro hstatus
  obtain ⟨normal, hopen, value, raw, hparse, -⟩ := exists_defines_of_status hkeyed rfl hstatus
  rw [hstripped] at hparse
  exact hlong (hdenotes.tidy.within_of_parse_write Json.Layout.roomy_spaced hparse)

end Generation
end Formwork
