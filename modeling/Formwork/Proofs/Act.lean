import Formwork.Act
import Mathlib.Tactic.Choose

/-!
# Running activities

`Act σ` is a lawful monad, and the run of a sequence is computed part by part.

`Act.Looks view` states that an activity reads the state only through a view and does not change it; `Act.Within
view` that its result, and the view of the state after it, are functions of the view before it.  Both are closed
under sequencing.
-/
namespace Formwork
namespace Act

/-- Activities with the same runs are equal. -/
theorem eq_of_run {σ α : Type} {act act' : Act σ α} (h : ∀ s, act.run s = act'.run s) : act = act' :=
  funext h

/-- Sequences of activities are associative, with `pure` as unit. -/
instance {σ : Type} : LawfulMonad (Act σ) :=
  LawfulMonad.mk' (Act σ)
    (fun act => eq_of_run fun s => by
      show (act >>= fun value => pure value).run s = act.run s
      rw [run_bind]
      rcases act.run s with ⟨failure | value, t⟩ <;> rfl)
    (fun _ _ => rfl)
    (fun act next further => eq_of_run fun s => by
      simp only [run_bind]
      rcases act.run s with ⟨failure | value, t⟩ <;> rfl)

variable {σ α β γ : Type} {view : σ → β} {act : Act σ α} {s t : σ}

theorem mapError_eq_ok {ε ε' : Type} {f : ε → ε'} {result : Except ε α} {value : α} :
    result.mapError f = .ok value ↔ result = .ok value := by
  cases result with
  | ok found =>
    exact ⟨fun h => congrArg Except.ok (Except.ok.inj h), fun h => congrArg Except.ok (Except.ok.inj h)⟩
  | error problem => exact ⟨nofun, nofun⟩

theorem run_ofProblem_eq_ok {result : Except Problem α} {value : α} :
    (ofProblem result).run s = (.ok value, t) ↔ result = .ok value ∧ t = s := by
  rw [ofProblem, run_ofExcept, Prod.mk.injEq, mapError_eq_ok, eq_comm (a := s)]

theorem run_bind_ofProblem (result : Except Problem α) (next : α → Act σ γ) (s : σ) :
    (ofProblem result >>= next).run s =
      match result with
      | .ok value => (next value).run s
      | .error problem => (.error ⟨problem, []⟩, s) := by
  cases result with
  | ok value => rfl
  | error problem => rfl

/-- A function applied to the result of an activity. -/
theorem run_bind_pure (act : Act σ α) (f : α → γ) (s : σ) :
    (act >>= fun value => pure (f value)).run s = ((act.run s).1.map f, (act.run s).2) := by
  rw [run_bind]
  rcases act.run s with ⟨failure | value, t⟩
  · rfl
  · rfl

theorem run_map (f : α → γ) (act : Act σ α) (s : σ) :
    (f <$> act).run s = ((act.run s).1.map f, (act.run s).2) :=
  run_bind_pure act f s

theorem run_map_eq_ok {f : α → γ} {result : γ} (h : (f <$> act).run s = (.ok result, t)) :
    ∃ value, act.run s = (.ok value, t) ∧ f value = result := by
  rw [run_map] at h
  rcases hact : act.run s with ⟨failure | value, s'⟩
  · rw [hact] at h
    cases h
  · rw [hact] at h
    cases h
    exact ⟨value, rfl, rfl⟩

theorem run_map_eq_error {f : α → γ} {failure : Failure}
    (h : (f <$> act).run s = (.error failure, t)) : act.run s = (.error failure, t) := by
  rw [run_map] at h
  rcases hact : act.run s with ⟨failure' | value, s'⟩
  · rw [hact] at h
    cases h
    rfl
  · rw [hact] at h
    cases h

theorem run_mapFailure (f : Failure → Failure) (act : Act σ α) (s : σ) :
    (act.mapFailure f).run s = ((act.run s).1.mapError f, (act.run s).2) := by
  unfold mapFailure run
  dsimp only
  rcases act s with ⟨failure | value, t⟩
  · rfl
  · rfl

/-! ### Activities that only read -/

/-- The result is a function of this view of the state, and the state is unchanged. -/
def Looks (view : σ → β) (act : Act σ α) : Prop :=
  ∃ f : β → Except Failure α, ∀ s, act.run s = (f (view s), s)

theorem looks_pure (view : σ → β) (value : α) : (pure value : Act σ α).Looks view :=
  ⟨fun _ => .ok value, fun _ => rfl⟩

theorem looks_ofProblem (view : σ → β) (result : Except Problem α) :
    (ofProblem result : Act σ α).Looks view :=
  ⟨fun _ => result.mapError (⟨·, []⟩), fun _ => rfl⟩

theorem looks_ofReading (view : σ → β) (model : String) (reading : Reading α) :
    (ofReading model reading : Act σ α).Looks view := by
  cases reading with
  | done value => exact looks_pure view value
  | failed issues => exact ⟨fun _ => .error (Problem.misshapen model issues), fun _ => rfl⟩

/-- An activity that reads the state only through the view. -/
theorem looks_state (next : β → Act σ α) (h : ∀ seen, (next seen).Looks view) :
    (state >>= fun s => next (view s)).Looks view := by
  choose f hf using h
  exact ⟨fun seen => f seen seen, fun s => hf (view s) s⟩

theorem Looks.bind {next : α → Act σ γ} (h : act.Looks view) (hnext : ∀ value, (next value).Looks view) :
    (act >>= next).Looks view := by
  obtain ⟨f, hf⟩ := h
  choose g hg using hnext
  refine ⟨fun seen =>
    match f seen with
    | .ok value => g value seen
    | .error failure => .error failure, fun s => ?_⟩
  rw [run_bind, hf]
  dsimp only
  rcases f (view s) with failure | value
  · rfl
  · exact hg value s

theorem Looks.run_eq (h : act.Looks view) (s : σ) : act.run s = ((act.run s).1, s) := by
  obtain ⟨f, hf⟩ := h
  rw [hf]

/-- In states with the same view the result is the same. -/
theorem Looks.congr (h : act.Looks view) (hview : view s = view t) :
    (act.run s).1 = (act.run t).1 := by
  obtain ⟨f, hf⟩ := h
  rw [hf, hf, hview]

/-! ### Activities within a view -/

/-- The result and the view of the state afterwards are functions of the view of the state before. -/
def Within (view : σ → β) (act : Act σ α) : Prop :=
  ∀ s t, view s = view t →
    (act.run s).1 = (act.run t).1 ∧ view (act.run s).2 = view (act.run t).2

/-- From states with the same view, the results and the views afterwards are the same. -/
theorem Within.runs (h : act.Within view) (hview : view s = view t) :
    ∃ result s' t', act.run s = (result, s') ∧ act.run t = (result, t') ∧ view s' = view t' := by
  obtain ⟨hresult, hafter⟩ := h s t hview
  exact ⟨(act.run s).1, (act.run s).2, (act.run t).2, rfl, by rw [hresult], hafter⟩

theorem within_ofExcept (view : σ → β) (result : Except Failure α) :
    (ofExcept result : Act σ α).Within view :=
  fun _ _ hview => ⟨rfl, hview⟩

/-- An activity that only reads what the view determines stays within the view. -/
theorem Looks.within {δ : Type} {seen : σ → δ} (h : act.Looks seen)
    (hseen : ∀ s t, view s = view t → seen s = seen t) : act.Within view := by
  intro s t hview
  refine ⟨h.congr (hseen s t hview), ?_⟩
  rw [h.run_eq s, h.run_eq t]
  exact hview

/-- An activity that depends on the state only through the view. -/
theorem within_state {next : σ → Act σ α} (hsame : ∀ s t, view s = view t → next s = next t)
    (hnext : ∀ s, (next s).Within view) : (state >>= next).Within view := by
  intro s t hview
  rw [run_bind_ok (run_state s), run_bind_ok (run_state t), hsame s t hview]
  exact hnext t s t hview

theorem Within.bind {next : α → Act σ γ} (h : act.Within view)
    (hnext : ∀ value, (next value).Within view) : (act >>= next).Within view := by
  intro s t hview
  obtain ⟨failure | value, s', t', hs, ht, hafter⟩ := h.runs hview
  · rw [run_bind_error hs, run_bind_error ht]
    exact ⟨rfl, hafter⟩
  · rw [run_bind_ok hs, run_bind_ok ht]
    exact hnext value s' t' hafter

theorem Within.mapFailure (h : act.Within view) (f : Failure → Failure) :
    (act.mapFailure f).Within view := by
  intro s t hview
  obtain ⟨result, s', t', hs, ht, hafter⟩ := h.runs hview
  rw [run_mapFailure, run_mapFailure, hs, ht]
  exact ⟨rfl, hafter⟩

/-! ### Failures of activities -/

/-- The activity fails only with problems of this kind. -/
def Raises (kind : Problem → Prop) (act : Act σ α) : Prop :=
  ∀ s failure t, act.run s = (.error failure, t) → kind failure.problem

variable {kind : Problem → Prop}

theorem raises_pure (kind : Problem → Prop) (value : α) : (pure value : Act σ α).Raises kind :=
  nofun

theorem raises_ofProblem {result : Except Problem α}
    (h : ∀ problem, result = .error problem → kind problem) :
    (ofProblem result : Act σ α).Raises kind := by
  intro s failure t hrun
  rcases result with problem | value
  · cases hrun
    exact h problem rfl
  · cases hrun

theorem raises_state {next : σ → Act σ α} (h : ∀ s, (next s).Raises kind) :
    (state >>= next).Raises kind :=
  fun s failure t hrun => h s s failure t hrun

theorem Raises.bind {next : α → Act σ γ} (h : act.Raises kind)
    (hnext : ∀ value, (next value).Raises kind) : (act >>= next).Raises kind := by
  intro s failure t hrun
  rcases hact : act.run s with ⟨failure' | value, s'⟩
  · rw [run_bind_error hact] at hrun
    obtain ⟨rfl, rfl⟩ : failure' = failure ∧ s' = t := by simpa using hrun
    exact h s failure' s' hact
  · rw [run_bind_ok hact] at hrun
    exact hnext value s' failure t hrun

end Act

end Formwork
