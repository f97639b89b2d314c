import Formwork.Remote.Orchestrator

/-!
# The course of one step

An `Exchange` is a call of the orchestrator to a collaborator together with its outcome.
`Collaborators.watched` are the same collaborators with the exchanges recorded in their state, and
`Orchestrator.create` runs with them as it runs without (`create_watched`).

`Course` has one constructor for each exit of `create`, with the exchanges up to that exit, the result and the
collaborators' state.  `course_create` finds the course of a step; the lemmas on the calls of a step are by cases
on it.  Conversely, the report of a step is a function of the answers to the calls of its course
(`Course.report`), for any collaborators that give those answers (`Collaborators.Answer`).
-/
namespace Formwork

/-- A call to a collaborator, and its outcome. -/
inductive Exchange
  /-- `is_signed_in`. -/
  | signIn (answer : Except Failure Bool)
  /-- `create_shell` with this title. -/
  | shell (title : String) (answer : Except Failure FormShell)
  /-- The compilation of this definition. -/
  | plan (d : Definition) (answer : Except Failure Plan)
  /-- `batch_mutate` of this form with this plan. -/
  | fill (formId : String) (plan : Plan) (answer : Except Failure Unit)

/-- A state with the exchanges recorded so far. -/
structure Watched (σ : Type) where
  /-- The state. -/
  state : σ
  /-- The exchanges so far, in order. -/
  exchanges : List Exchange := []

variable {σ : Type}

/-- An activity that records its outcome as an exchange. -/
def Act.watched {α : Type} (note : Except Failure α → Exchange) (act : Act σ α) :
    Act (Watched σ) α := fun w =>
  let (answer, state) := act.run w.state
  (answer, ⟨state, w.exchanges ++ [note answer]⟩)

theorem Act.run_watched {α : Type} {note : Except Failure α → Exchange} {act : Act σ α} {s t : σ}
    {answer : Except Failure α} (h : act.run s = (answer, t)) (past : List Exchange) :
    (act.watched note).run ⟨s, past⟩ = (answer, ⟨t, past ++ [note answer]⟩) := by
  have hrun : (act.watched note).run ⟨s, past⟩ =
      ((act.run s).1, ⟨(act.run s).2, past ++ [note (act.run s).1]⟩) := rfl
  rw [hrun, h]

/-- The same collaborators, recording their exchanges. -/
def Collaborators.watched (c : Collaborators σ) : Collaborators (Watched σ) where
  isSignedIn := c.isSignedIn.watched .signIn
  createShell title := (c.createShell title).watched (.shell title)
  plan d := (c.plan d).watched (.plan d)
  fill formId plan := (c.fill formId plan).watched (.fill formId plan)

/-- The report of a step with these exchanges recorded behind earlier ones. -/
def Report.seen (r : Report σ) (exchanges : List Exchange) : Report (Watched σ) :=
  ⟨r.orchestrator, ⟨r.state, exchanges⟩, r.result, r.events⟩

/-! ### Collaborators that give the same answers -/

/-- In state `s` the collaborators give the answer of this exchange, and go to state `t`. -/
def Exchange.Holds (c : Collaborators σ) (s t : σ) : Exchange → Prop
  | .signIn answer => c.isSignedIn.run s = (answer, t)
  | .shell title answer => (c.createShell title).run s = (answer, t)
  | .plan d answer => (c.plan d).run s = (answer, t)
  | .fill formId carried answer => (c.fill formId carried).run s = (answer, t)

/-- From `s` to `t` the collaborators give the answers of these exchanges, in order. -/
inductive Collaborators.Answer (c : Collaborators σ) : σ → List Exchange → σ → Prop
  | nil (s : σ) : Answer c s [] s
  | cons {s t u : σ} {exchange : Exchange} {rest : List Exchange} (here : exchange.Holds c s t)
      (later : Answer c t rest u) : Answer c s (exchange :: rest) u

namespace Collaborators.Answer

variable {c : Collaborators σ} {s u : σ} {exchange : Exchange} {rest : List Exchange}

theorem nil_inv (h : c.Answer s [] u) : s = u := by
  cases h
  rfl

theorem cons_inv (h : c.Answer s (exchange :: rest) u) :
    ∃ t, exchange.Holds c s t ∧ c.Answer t rest u := by
  cases h with
  | cons here later => exact ⟨_, here, later⟩

end Collaborators.Answer

theorem Exchange.Holds.watched {c : Collaborators σ} {s t : σ} {exchange : Exchange}
    (h : exchange.Holds c s t) (past : List Exchange) :
    exchange.Holds c.watched ⟨s, past⟩ ⟨t, past ++ [exchange]⟩ := by
  cases exchange with
  | signIn answer => exact Act.run_watched h past
  | shell title answer => exact Act.run_watched h past
  | plan d answer => exact Act.run_watched h past
  | fill formId plan answer => exact Act.run_watched h past

/-- Recorded collaborators that give these answers record exactly these exchanges. -/
theorem Collaborators.Answer.watched {c : Collaborators σ} {s t : σ} {exchanges : List Exchange}
    (h : c.Answer s exchanges t) (past : List Exchange) :
    c.watched.Answer ⟨s, past⟩ exchanges ⟨t, past ++ exchanges⟩ := by
  induction h generalizing past with
  | nil s =>
    rw [List.append_nil]
    exact .nil _
  | @cons s t u exchange rest here later ih =>
    have hrest := ih (past ++ [exchange])
    rw [List.append_assoc] at hrest
    exact .cons (here.watched past) hrest

namespace Orchestrator

/-! ### Courses -/

/-- The exits of the second phase, from a state: the exchanges, the result and the state after them. -/
inductive Filling (c : Collaborators σ) (d : Definition) (shell : FormShell) (s : σ) :
    List Exchange → Except Failure RemoteForm → σ → Prop
  /-- The compiler failed. -/
  | unplanned {failure : Failure} {t : σ} (plans : (c.plan d).run s = (.error failure, t)) :
      Filling c d shell s [.plan d (.error failure)] (.error (fillFailure shell.id failure)) t
  /-- The plan is empty, so `batch_mutate` is not called. -/
  | nothing {t : σ} (plans : (c.plan d).run s = (.ok [], t)) :
      Filling c d shell s [.plan d (.ok [])] (.ok ⟨shell.id, shell.editUrl, shell.shareUrl, 0⟩) t
  /-- `batch_mutate` failed. -/
  | unfilled {plan : Plan} {failure : Failure} {t u : σ}
      (plans : (c.plan d).run s = (.ok plan, t)) (work : plan ≠ [])
      (fills : (c.fill shell.id plan).run t = (.error failure, u)) :
      Filling c d shell s [.plan d (.ok plan), .fill shell.id plan (.error failure)]
        (.error (fillFailure shell.id failure)) u
  | filled {plan : Plan} {t u : σ}
      (plans : (c.plan d).run s = (.ok plan, t)) (work : plan ≠ [])
      (fills : (c.fill shell.id plan).run t = (.ok (), u)) :
      Filling c d shell s [.plan d (.ok plan), .fill shell.id plan (.ok ())]
        (.ok ⟨shell.id, shell.editUrl, shell.shareUrl, plan.length⟩) u

/-- The exits of `create`, from a state: the exchanges, the result and the state after them. -/
inductive Course (c : Collaborators σ) (d : Definition) (s : σ) :
    List Exchange → Except Failure RemoteForm → σ → Prop
  /-- `is_signed_in` failed. -/
  | unsure {failure : Failure} {t : σ} (asks : c.isSignedIn.run s = (.error failure, t)) :
      Course c d s [.signIn (.error failure)] (.error failure) t
  /-- The session is not signed in. -/
  | signedOut {t : σ} (asks : c.isSignedIn.run s = (.ok false, t)) :
      Course c d s [.signIn (.ok false)] (.error notSignedIn) t
  /-- `create_shell` failed. -/
  | unmade {failure : Failure} {t u : σ} (asks : c.isSignedIn.run s = (.ok true, t))
      (makes : (c.createShell d.title).run t = (.error failure, u)) :
      Course c d s [.signIn (.ok true), .shell d.title (.error failure)]
        (.error (shellFailure failure)) u
  /-- The shell has no form id. -/
  | unnamed {shell : FormShell} {t u : σ} (asks : c.isSignedIn.run s = (.ok true, t))
      (makes : (c.createShell d.title).run t = (.ok shell, u)) (name : shell.id = "") :
      Course c d s [.signIn (.ok true), .shell d.title (.ok shell)] (.error nameless) u
  /-- The shell has a form id, and the second phase ends. -/
  | made {shell : FormShell} {t u v : σ} {exchanges : List Exchange}
      {result : Except Failure RemoteForm} (asks : c.isSignedIn.run s = (.ok true, t))
      (makes : (c.createShell d.title).run t = (.ok shell, u)) (name : shell.id ≠ "")
      (filling : Filling c d shell u exchanges result v) :
      Course c d s (.signIn (.ok true) :: .shell d.title (.ok shell) :: exchanges) result v

/-! ### Every step has a course -/

variable {c : Collaborators σ} {d : Definition} {shell : FormShell} {s t : σ}
  {exchanges : List Exchange} {result : Except Failure RemoteForm}

/-- The second phase ends at one of its exits. -/
theorem filling_populate (c : Collaborators σ) (d : Definition) (shell : FormShell) (s : σ)
    (past : List Event) :
    ∃ exchanges, Filling c d shell s exchanges (populate c d shell s past).result
      (populate c d shell s past).state := by
  unfold populate
  rcases hplan : (c.plan d).run s with ⟨failure | plan, t⟩
  · exact ⟨_, .unplanned hplan⟩
  · by_cases hwork : plan = []
    -- an empty plan is carried out by doing nothing
    · subst hwork
      exact ⟨_, .nothing hplan⟩
    · simp only [carryOut, if_neg hwork]
      rcases hfill : (c.fill shell.id plan).run t with ⟨failure | ⟨⟩, u⟩
      · exact ⟨_, .unfilled hplan hwork hfill⟩
      · exact ⟨_, .filled hplan hwork hfill⟩

/-- **Every step has a course.** -/
theorem course_create (c : Collaborators σ) (d : Definition) (o : Orchestrator) (s : σ) :
    ∃ exchanges, Course c d s exchanges (create c d o s).result (create c d o s).state := by
  unfold create
  rcases hasks : c.isSignedIn.run s with ⟨failure | signedIn, t⟩
  · exact ⟨_, .unsure hasks⟩
  · cases signedIn with
    | false => exact ⟨_, .signedOut hasks⟩
    | true =>
      simp only
      rcases hmakes : (c.createShell d.title).run t with ⟨failure | shell, u⟩
      · exact ⟨_, .unmade hasks hmakes⟩
      · by_cases hname : shell.id = ""
        · simp only [if_pos hname]
          exact ⟨_, .unnamed hasks hmakes hname⟩
        · simp only [if_neg hname]
          obtain ⟨exchanges, hfilling⟩ := filling_populate c d shell u _
          exact ⟨_, .made hasks hmakes hname hfilling⟩

/-! ### The report is a function of the answers -/

theorem Filling.answer (h : Filling c d shell s exchanges result t) : c.Answer s exchanges t := by
  cases h with
  | unplanned plans => exact .cons plans (.nil _)
  | nothing plans => exact .cons plans (.nil _)
  | unfilled plans work fills => exact .cons plans (.cons fills (.nil _))
  | filled plans work fills => exact .cons plans (.cons fills (.nil _))

/-- The collaborators of a course give the answers of its exchanges. -/
theorem Course.answer (h : Course c d s exchanges result t) : c.Answer s exchanges t := by
  cases h with
  | unsure asks => exact .cons asks (.nil _)
  | signedOut asks => exact .cons asks (.nil _)
  | unmade asks makes => exact .cons asks (.cons makes (.nil _))
  | unnamed asks makes name => exact .cons asks (.cons makes (.nil _))
  | made asks makes name filling => exact .cons asks (.cons makes filling.answer)

theorem carryOut_nil (c : Collaborators σ) (formId : String) (s : σ) :
    carryOut c formId [] s = (.ok (), s, []) := if_pos rfl

theorem carryOut_of_fill {formId : String} {plan : Plan} {answer : Except Failure Unit}
    (work : plan ≠ []) (h : (c.fill formId plan).run s = (answer, t)) :
    carryOut c formId plan s = (answer, t, [.fillRequested formId plan]) := by
  rw [carryOut, if_neg work, h]

/-- The answers to its calls determine the report of the second phase, up to the earlier events and the
collaborators' state. -/
theorem Filling.report (h : Filling c d shell s exchanges result t) :
    ∃ after events, ∀ {τ : Type} {c' : Collaborators τ} {s' t' : τ}, c'.Answer s' exchanges t' →
      ∀ past, populate c' d shell s' past = ⟨after, t', result, past ++ events⟩ := by
  cases h with
  | @unplanned failure t plans =>
    refine ⟨fresh, [.moved .populating .idle, .fillFailed shell.id failure.message], ?_⟩
    intro τ c' s' t' hanswer past
    obtain ⟨v, (hplan : (c'.plan d).run s' = (.error failure, v)), hnone⟩ := hanswer.cons_inv
    obtain rfl := hnone.nil_inv
    rw [populate, hplan]
    rfl
  | nothing plans =>
    refine ⟨⟨.done, some shell.id, some shell.shareUrl⟩,
      [.moved .populating .done, .filled shell.id 0], ?_⟩
    intro τ c' s' t' hanswer past
    obtain ⟨v, (hplan : (c'.plan d).run s' = (.ok [], v)), hnone⟩ := hanswer.cons_inv
    obtain rfl := hnone.nil_inv
    simp only [populate, hplan, carryOut_nil, List.append_nil]
    rfl
  | @unfilled plan failure t u plans work fills =>
    refine ⟨fresh, [.fillRequested shell.id plan, .moved .populating .idle,
      .fillFailed shell.id failure.message], ?_⟩
    intro τ c' s' t' hanswer past
    obtain ⟨v, (hplan : (c'.plan d).run s' = (.ok plan, v)), hrest⟩ := hanswer.cons_inv
    obtain ⟨u, hfill, hnone⟩ := hrest.cons_inv
    obtain rfl := hnone.nil_inv
    simp only [populate, hplan, carryOut_of_fill work hfill, abandon, List.append_assoc]
    rfl
  | @filled plan t u plans work fills =>
    refine ⟨⟨.done, some shell.id, some shell.shareUrl⟩, [.fillRequested shell.id plan,
      .moved .populating .done, .filled shell.id plan.length], ?_⟩
    intro τ c' s' t' hanswer past
    obtain ⟨v, (hplan : (c'.plan d).run s' = (.ok plan, v)), hrest⟩ := hanswer.cons_inv
    obtain ⟨u, hfill, hnone⟩ := hrest.cons_inv
    obtain rfl := hnone.nil_inv
    simp only [populate, hplan, carryOut_of_fill work hfill, List.append_assoc]
    rfl

/-- **The answers to its calls determine the report of a step**, up to the phase of its first transition and the
collaborators' state. -/
theorem Course.report (h : Course c d s exchanges result t) :
    ∃ after events, ∀ {τ : Type} {c' : Collaborators τ} {s' t' : τ}, c'.Answer s' exchanges t' →
      ∀ o : Orchestrator,
        create c' d o s' = ⟨after, t', result, .moved o.phase .idle :: events⟩ := by
  cases h with
  | @unsure failure t asks =>
    refine ⟨fresh, [], ?_⟩
    intro τ c' s' t' hanswer o
    obtain ⟨v, (hask : c'.isSignedIn.run s' = (.error failure, v)), hnone⟩ := hanswer.cons_inv
    obtain rfl := hnone.nil_inv
    rw [create, hask]
  | @signedOut t asks =>
    refine ⟨fresh, [], ?_⟩
    intro τ c' s' t' hanswer o
    obtain ⟨v, (hask : c'.isSignedIn.run s' = (.ok false, v)), hnone⟩ := hanswer.cons_inv
    obtain rfl := hnone.nil_inv
    rw [create, hask]
  | @unmade failure t u asks makes =>
    refine ⟨fresh, [.moved .idle .creating, .shellRequested d.title, .moved .creating .idle,
      .shellFailed failure.message], ?_⟩
    intro τ c' s' t' hanswer o
    obtain ⟨v, (hask : c'.isSignedIn.run s' = (.ok true, v)), hrest⟩ := hanswer.cons_inv
    obtain ⟨u, (hmake : (c'.createShell d.title).run v = (.error failure, u)), hnone⟩ :=
      hrest.cons_inv
    obtain rfl := hnone.nil_inv
    simp only [create, hask, hmake]
    rfl
  | @unnamed shell t u asks makes name =>
    refine ⟨fresh, [.moved .idle .creating, .shellRequested d.title, .moved .creating .idle], ?_⟩
    intro τ c' s' t' hanswer o
    obtain ⟨v, (hask : c'.isSignedIn.run s' = (.ok true, v)), hrest⟩ := hanswer.cons_inv
    obtain ⟨u, (hmake : (c'.createShell d.title).run v = (.ok shell, u)), hnone⟩ := hrest.cons_inv
    obtain rfl := hnone.nil_inv
    simp only [create, hask, hmake, if_pos name]
    rfl
  | @made shell t u v calls result asks makes name filling =>
    obtain ⟨after, events, hpopulate⟩ := filling.report
    refine ⟨after, [.moved .idle .creating, .shellRequested d.title,
      .moved .creating .populating] ++ events, ?_⟩
    intro τ c' s' t' hanswer o
    obtain ⟨v, (hask : c'.isSignedIn.run s' = (.ok true, v)), hrest⟩ := hanswer.cons_inv
    obtain ⟨u, (hmake : (c'.createShell d.title).run v = (.ok shell, u)), hcalls⟩ := hrest.cons_inv
    simp only [create, hask, hmake, if_neg name, hpopulate hcalls]
    rfl

/-! ### Recording changes nothing -/

/-- **A step runs with recorded collaborators as it runs without**, and its exchanges are recorded behind the
earlier ones. -/
theorem create_watched (h : Course c d s exchanges result t) (o : Orchestrator)
    (before : List Exchange) :
    create c.watched d o ⟨s, before⟩ = (create c d o s).seen (before ++ exchanges) := by
  obtain ⟨after, events, hreport⟩ := h.report
  rw [hreport h.answer, hreport (h.answer.watched before)]
  rfl

end Orchestrator
end Formwork
