import Formwork.Remote.Orchestrator

/-!
# Runs of the orchestrator

A run is a sequence of `create` and `reset` calls on one orchestrator, with arbitrary collaborators that may
answer or fail differently at each call.  Between two steps the orchestrator is settled: idle and without a form
(`Settled.idle`), or done with the form of the last step (`Settled.done`); the phases creating and populating are
never left over.

`Report.Sound` is what one step preserves, proved at each exit of `create` (`sound_create`).  What a run
preserves follows by induction on its steps (`run_rests`), because the transitions of a step start in the phase in
which the previous one ended.
-/
namespace Formwork

/-! ### Transitions -/

/-- The transitions that `create` and `reset` may make. -/
inductive Phase.Edge : Phase → Phase → Prop
  | create : Edge .idle .creating
  | populate : Edge .creating .populating
  | finish : Edge .populating .done
  | reset (before : Phase) : Edge before .idle

/-- A list of transitions, each along an edge and from the phase in which the previous one ended. -/
inductive Phase.Walk : Phase → List (Phase × Phase) → Phase → Prop
  | nil (p : Phase) : Phase.Walk p [] p
  | cons {p q r : Phase} {moves : List (Phase × Phase)} :
      p.Edge q → Phase.Walk q moves r → Phase.Walk p ((p, q) :: moves) r

theorem Phase.Walk.append {p q r : Phase} {moves more : List (Phase × Phase)}
    (h : Walk p moves q) (h' : Walk q more r) : Walk p (moves ++ more) r := by
  induction h with
  | nil p => exact h'
  | cons hedge _ ih => exact .cons hedge (ih h')

theorem Phase.Walk.single {p q : Phase} (h : p.Edge q) : Walk p [(p, q)] q := .cons h (.nil q)

/-- The transition of an event, if it is one. -/
def Event.move? : Event → Option (Phase × Phase)
  | .moved before after => some (before, after)
  | _ => none

/-- The transitions among some events. -/
def Event.moves (events : List Event) : List (Phase × Phase) := events.filterMap Event.move?

theorem moves_append (events more : List Event) :
    Event.moves (events ++ more) = Event.moves events ++ Event.moves more :=
  List.filterMap_append ..

/-- The debug record of a transition. -/
def moveRecord (move : Phase × Phase) : LogRecord :=
  ⟨.debug, LogRecord.forms, s!"Orchestrator {move.1.name} -> {move.2.name}"⟩

/-- The debug records are exactly those of the transitions. -/
theorem records_eq_moves (events : List Event) :
    (events.filterMap Event.record?).filter (fun record => record.level = .debug) =
      (Event.moves events).map moveRecord := by
  induction events with
  | nil => rfl
  | cons event events ih =>
    cases event with
    | moved before after => exact congrArg _ ih
    | _ => exact ih

/-! ### One step -/

/-- The orchestrator is idle without a form, or done with the form of the last step. -/
inductive Settled : Orchestrator → Option RemoteForm → Prop
  | idle : Settled .fresh none
  | done (form : RemoteForm) (h : form.formId ≠ "") :
      Settled ⟨.done, some form.formId, some form.shareUrl⟩ (some form)

variable {σ : Type}

/-- What one `create` from this phase guarantees. -/
structure Report.Sound (r : Report σ) (origin : Phase) : Prop where
  settled : Settled r.orchestrator r.result.toOption
  walk : Phase.Walk origin (Event.moves r.events) r.orchestrator.phase

namespace Orchestrator

variable {c : Collaborators σ} {d : Definition} {shell : FormShell} {past : List Event}
  {origin : Phase}

/-- A `create` that goes back to idle and raises is sound. -/
theorem sound_failed {state : σ} {failure : Failure} {p : Phase} {last : List Event}
    (hpast : Phase.Walk origin (Event.moves past) p) (hlast : Event.moves last = [(p, .idle)]) :
    (⟨fresh, state, .error failure, past ++ last⟩ : Report σ).Sound origin where
  settled := .idle
  walk := by
    show Phase.Walk origin (Event.moves (past ++ last)) .idle
    rw [moves_append, hlast]
    exact hpast.append (.single (.reset p))

theorem sound_abandon {failure : Failure} {state : σ}
    (hpast : Phase.Walk origin (Event.moves past) .populating) :
    (abandon shell failure state past).Sound origin := sound_failed hpast rfl

/-- A call is no transition. -/
theorem moves_carryOut {formId : String} {plan : Plan} {state : σ} :
    Event.moves (carryOut c formId plan state).2.2 = [] := by
  unfold carryOut
  split
  · rfl
  · rfl

theorem sound_populate {state : σ} (hid : shell.id ≠ "")
    (hpast : Phase.Walk origin (Event.moves past) .populating) :
    (populate c d shell state past).Sound origin := by
  unfold populate
  split
  · exact sound_abandon hpast
  -- planning moves nothing, and neither does the call that carries the plan out
  · rename_i plan planned _
    have hcalls : Event.moves (carryOut c shell.id plan planned).2.2 = [] := moves_carryOut
    split
    · rename_i calls hcarried
      rw [hcarried] at hcalls
      refine sound_abandon ?_
      rw [moves_append, hcalls, List.append_nil]
      exact hpast
    · rename_i calls hcarried
      rw [hcarried] at hcalls
      refine ⟨.done ⟨shell.id, shell.editUrl, shell.shareUrl, plan.length⟩ hid, ?_⟩
      show Phase.Walk origin (Event.moves (past ++ calls ++ [.moved .populating .done, _])) .done
      rw [moves_append, moves_append, hcalls, List.append_nil]
      exact hpast.append (.single .finish)

/-- **`create` is sound**, for all collaborators and from every phase. -/
theorem sound_create (c : Collaborators σ) (d : Definition) (o : Orchestrator) (state : σ) :
    (create c d o state).Sound o.phase := by
  have hnothing : Phase.Walk o.phase (Event.moves []) o.phase := .nil _
  have hcreating : ∀ title, Phase.Walk o.phase
      (Event.moves [.moved o.phase .idle, .moved .idle .creating, .shellRequested title])
      .creating :=
    fun _ => .cons (.reset _) (.single .create)
  unfold create
  simp only
  split
  -- the sign-in check fails, or answers no
  · exact sound_failed hnothing rfl
  · exact sound_failed hnothing rfl
  · split
    · exact sound_failed (hcreating _) rfl
    · split
      -- a form without a name is given up like one that could not be made
      · exact sound_failed (hcreating _) rfl
      · rename_i hid
        refine sound_populate hid ?_
        rw [moves_append]
        exact (hcreating _).append (.single .populate)

/-! ### A run -/

/-- A call on the orchestrator. -/
inductive Step (σ : Type)
  | reset
  /-- `create` with these collaborators and this definition. -/
  | create (collaborators : Collaborators σ) (d : Definition)

/-- The state of a run after some steps. -/
structure Moment (σ : Type) where
  orchestrator : Orchestrator
  /-- The collaborators' state. -/
  state : σ
  /-- The form that the last step returned, if it did. -/
  form : Option RemoteForm
  /-- The events of all steps, in order. -/
  events : List Event

namespace Moment

/-- The moment before the first step. -/
def start (state : σ) : Moment σ := ⟨.fresh, state, none, []⟩

/-- The moment after one more step. -/
def after (m : Moment σ) : Step σ → Moment σ
  | .reset =>
    let (orchestrator, events) := m.orchestrator.reset
    ⟨orchestrator, m.state, none, m.events ++ events⟩
  | .create c d =>
    let report := m.orchestrator.create c d m.state
    ⟨report.orchestrator, report.state, report.result.toOption, m.events ++ report.events⟩

/-- The moment after some steps. -/
def run (steps : List (Step σ)) (state : σ) : Moment σ := steps.foldl after (start state)

/-- The invariant between two steps. -/
structure Sound (m : Moment σ) : Prop where
  settled : Settled m.orchestrator m.form
  walk : Phase.Walk .idle (Event.moves m.events) m.orchestrator.phase

theorem sound_start (state : σ) : (start state).Sound := ⟨.idle, .nil _⟩

/-- A step preserves the invariant. -/
theorem sound_after {m : Moment σ} (h : m.Sound) (step : Step σ) : (m.after step).Sound := by
  cases step with
  | reset =>
    refine ⟨.idle, ?_⟩
    show Phase.Walk .idle (Event.moves (m.events ++ [.moved m.orchestrator.phase .idle])) .idle
    rw [moves_append]
    exact h.walk.append (.single (.reset _))
  | create c d =>
    obtain ⟨hsettled, hwalk⟩ := Orchestrator.sound_create c d m.orchestrator m.state
    refine ⟨hsettled, ?_⟩
    show Phase.Walk .idle (Event.moves (m.events ++ (m.orchestrator.create c d m.state).events)) _
    rw [moves_append]
    exact h.walk.append hwalk

theorem sound_foldl {m : Moment σ} (h : m.Sound) (steps : List (Step σ)) :
    (steps.foldl after m).Sound := by
  induction steps generalizing m with
  | nil => exact h
  | cons step steps ih => exact ih (sound_after h step)

/-- **Between two steps the orchestrator is settled.**  After any steps with any collaborators it is idle or done;
it has a form id and a share URL exactly when it is done, and it is done exactly when the last step returned a
form, which is the one it holds.  The logged transitions of all steps are one walk along the edges, from idle to
its phase. -/
theorem run_rests (steps : List (Step σ)) (state : σ) :
    let m := run steps state
    (m.orchestrator.phase = .idle ∨ m.orchestrator.phase = .done) ∧
    (m.orchestrator.formId.isSome ↔ m.orchestrator.phase = .done) ∧
    (m.orchestrator.shareUrl.isSome ↔ m.orchestrator.phase = .done) ∧
    (m.orchestrator.phase = .done ↔ m.form.isSome) ∧
    m.orchestrator.formId = m.form.map RemoteForm.formId ∧
    m.orchestrator.shareUrl = m.form.map RemoteForm.shareUrl ∧
    m.orchestrator.formId ≠ some "" ∧
    ∃ walked, Phase.Walk .idle walked m.orchestrator.phase ∧
      (m.events.filterMap Event.record?).filter (fun record => record.level = .debug) =
        walked.map moveRecord := by
  intro m
  have hsound : m.Sound := sound_foldl (sound_start state) steps
  have hlog : ∃ walked, Phase.Walk .idle walked m.orchestrator.phase ∧
      (m.events.filterMap Event.record?).filter (fun record => record.level = .debug) =
        walked.map moveRecord := ⟨Event.moves m.events, hsound.walk, records_eq_moves m.events⟩
  -- how the run came to its last moment no longer matters
  clear_value m
  obtain ⟨orchestrator, after, form, events⟩ := m
  cases hsound.settled with
  | idle => exact ⟨Or.inl rfl, by simp, by simp, by simp, rfl, rfl, by simp, hlog⟩
  | done form hname =>
    have hid : some form.formId ≠ some "" := fun h => hname (Option.some.inj h)
    exact ⟨Or.inr rfl, by simp, by simp, by simp, rfl, rfl, hid, hlog⟩

end Moment
end Orchestrator
end Formwork
