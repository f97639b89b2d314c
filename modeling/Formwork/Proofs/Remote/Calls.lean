import Formwork.Proofs.Remote.Course
import Formwork.Proofs.Remote.Run
import Mathlib.Data.List.Forall2

/-!
# The calls of a run

`RemoteFormOrchestrator.create` asks `is_signed_in` first, then `create_shell`, then the compiler and at last
`batch_mutate`.  `Disciplined` states what that gives for the exchanges of one step: no call before the session
is signed in, at most one shell and at most one batch, the batch on the shell just made and with the plan of
the definition, and a failure that carries the form id once there is one.

Every course of a step is disciplined (`Course.disciplined`), by cases on the course.  A run is the
concatenation of its steps (`foldl_watched`, by induction on the steps), so every step of a run is
(`run_calls_in_order`).
-/
namespace Formwork

namespace Exchange

/-- A `create_shell` call. -/
def isShell : Exchange → Bool
  | .shell .. => true
  | _ => false

/-- A `batch_mutate` call. -/
def isFill : Exchange → Bool
  | .fill .. => true
  | _ => false

/-- The requests of a `batch_mutate` call. -/
def requests : Exchange → List Json
  | .fill _ carried _ => carried.requests
  | _ => []

end Exchange

namespace Orchestrator

/-- What the exchanges and the result of one `create` may be. -/
structure Disciplined (d : Definition) (exchanges : List Exchange)
    (result : Except Failure RemoteForm) : Prop where
  /-- Nothing is called before `is_signed_in` has answered yes. -/
  gate : ∃ answer rest, exchanges = .signIn answer :: rest ∧ (rest ≠ [] → answer = .ok true)
  oneShell : exchanges.countP Exchange.isShell ≤ 1
  title : ∀ title answer, .shell title answer ∈ exchanges → title = d.title
  oneFill : exchanges.countP Exchange.isFill ≤ 1
  /-- `batch_mutate` is called only on the shell just made, with a form id, and with the nonempty plan of the
  definition. -/
  fills : ∀ formId plan answer, .fill formId plan answer ∈ exchanges → ∃ shell,
    exchanges = [.signIn (.ok true), .shell d.title (.ok shell), .plan d (.ok plan),
      .fill formId plan answer] ∧
    formId = shell.id ∧ formId ≠ "" ∧ plan ≠ []
  /-- `create` returns a form exactly when none of its calls failed. -/
  succeeds : (∃ form, result = .ok form) ↔
    .signIn (.ok true) ∈ exchanges ∧ ∃ shell plan,
      .shell d.title (.ok shell) ∈ exchanges ∧ shell.id ≠ "" ∧ .plan d (.ok plan) ∈ exchanges ∧
      (plan ≠ [] → .fill shell.id plan (.ok ()) ∈ exchanges)
  count : ∀ form, result = .ok form →
    form.operationCount = (exchanges.flatMap Exchange.requests).length
  /-- A failure after the shell carries its form id and the cause. -/
  names : ∀ failure shell, result = .error failure → .shell d.title (.ok shell) ∈ exchanges →
    shell.id ≠ "" → ∃ original,
      (.plan d (.error original) ∈ exchanges ∨
        ∃ plan, .fill shell.id plan (.error original) ∈ exchanges) ∧
      failure = .because (.batchFailed original.message shell.id) original

variable {σ : Type} {c : Collaborators σ} {d : Definition} {shell : FormShell} {s t : σ}
  {exchanges : List Exchange} {result : Except Failure RemoteForm}

/-! ### The second phase -/

/-- The second phase creates no shell. -/
theorem Filling.shell_notMem (h : Filling c d shell s exchanges result t) (title : String)
    (answer : Except Failure FormShell) : .shell title answer ∉ exchanges := by
  cases h <;> simp

theorem Filling.countP_isShell (h : Filling c d shell s exchanges result t) :
    exchanges.countP Exchange.isShell = 0 := by
  cases h <;> rfl

theorem Filling.countP_isFill (h : Filling c d shell s exchanges result t) :
    exchanges.countP Exchange.isFill ≤ 1 := by
  cases h <;> simp [Exchange.isFill]

/-- The second phase sends only a nonempty plan, and to the form of the shell. -/
theorem Filling.fills (h : Filling c d shell s exchanges result t) {formId : String} {plan : Plan}
    {answer : Except Failure Unit} (hmem : .fill formId plan answer ∈ exchanges) :
    exchanges = [.plan d (.ok plan), .fill formId plan answer] ∧ formId = shell.id ∧ plan ≠ [] := by
  cases h with
  | unplanned plans => simp at hmem
  | nothing plans => simp at hmem
  | unfilled plans work fills =>
    rcases List.mem_pair.mp hmem with hfill | hfill
    · cases hfill
    · cases hfill
      exact ⟨rfl, rfl, work⟩
  | filled plans work fills =>
    rcases List.mem_pair.mp hmem with hfill | hfill
    · cases hfill
    · cases hfill
      exact ⟨rfl, rfl, work⟩

theorem Filling.succeeds (h : Filling c d shell s exchanges result t) :
    (∃ form, result = .ok form) ↔ ∃ plan, .plan d (.ok plan) ∈ exchanges ∧
      (plan ≠ [] → .fill shell.id plan (.ok ()) ∈ exchanges) := by
  cases h with
  | unplanned plans => simp
  | nothing plans => simp
  | unfilled plans work fills => simp [work]
  | filled plans work fills => simp

theorem Filling.count (h : Filling c d shell s exchanges result t) {form : RemoteForm}
    (hform : result = .ok form) :
    form.operationCount = (exchanges.flatMap Exchange.requests).length := by
  cases h with
  | unplanned plans => cases hform
  | nothing plans =>
    cases hform
    rfl
  | unfilled plans work fills => cases hform
  | filled plans work fills =>
    cases hform
    simp [Exchange.requests, Plan.requests]

/-- A failure of the second phase carries the form id. -/
theorem Filling.names (h : Filling c d shell s exchanges result t) {failure : Failure}
    (hfailure : result = .error failure) : ∃ original,
      (.plan d (.error original) ∈ exchanges ∨
        ∃ plan, .fill shell.id plan (.error original) ∈ exchanges) ∧
      failure = fillFailure shell.id original := by
  cases h with
  | unplanned plans =>
    cases hfailure
    exact ⟨_, Or.inl (by simp), rfl⟩
  | nothing plans => cases hfailure
  | @unfilled plan _ _ _ plans work fills =>
    cases hfailure
    exact ⟨_, Or.inr ⟨plan, by simp⟩, rfl⟩
  | filled plans work fills => cases hfailure

/-! ### A step -/

/-- A step that ends at the sign-in check has made no other call. -/
theorem disciplined_refused {answer : Except Failure Bool} (h : answer ≠ .ok true)
    (failure : Failure) : Disciplined d [.signIn answer] (.error failure) where
  gate := ⟨answer, [], rfl, fun hne => absurd rfl hne⟩
  oneShell := Nat.zero_le 1
  title := by simp
  oneFill := Nat.zero_le 1
  fills := by simp
  succeeds := by
    constructor
    · rintro ⟨form, hform⟩
      cases hform
    · rintro ⟨hsignIn, -⟩
      exact absurd (by simpa using hsignIn : .ok true = answer).symm h
  count := by simp
  names := by simp

/-- A step whose shell failed or has no id makes no further call. -/
theorem disciplined_unmade {answer : Except Failure FormShell}
    (h : ∀ shell, answer = .ok shell → shell.id = "") (failure : Failure) :
    Disciplined d [.signIn (.ok true), .shell d.title answer] (.error failure) where
  gate := ⟨_, _, rfl, fun _ => rfl⟩
  oneShell := Nat.le_refl 1
  title := by simp
  oneFill := Nat.zero_le 1
  fills := by simp
  succeeds := by simp
  count := by simp
  names := by
    intro failure shell _ hmem hname
    have hanswer : .ok shell = answer := by simpa using hmem
    exact absurd (h shell hanswer.symm) hname

/-- A step whose shell has an id makes it once, and populates it or fails with its id. -/
theorem disciplined_made (name : shell.id ≠ "")
    (filling : Filling c d shell s exchanges result t) :
    Disciplined d (.signIn (.ok true) :: .shell d.title (.ok shell) :: exchanges) result := by
  have honly : ∀ title answer, .shell title answer ∈
      (.signIn (.ok true) :: .shell d.title (.ok shell) :: exchanges : List Exchange) →
      title = d.title ∧ answer = .ok shell := by
    intro title answer hmem
    simpa [filling.shell_notMem] using hmem
  have hshell : ∀ made : FormShell, .shell d.title (.ok made) ∈
      (.signIn (.ok true) :: .shell d.title (.ok shell) :: exchanges : List Exchange) →
      made = shell := by
    intro made hmem
    exact Except.ok.inj (honly _ _ hmem).2
  constructor
  case gate => exact ⟨_, _, rfl, fun _ => rfl⟩
  case oneShell =>
    have hcount : List.countP Exchange.isShell
        (.signIn (.ok true) :: .shell d.title (.ok shell) :: exchanges) = 1 := by
      rw [List.countP_cons_of_neg Bool.false_ne_true, List.countP_cons_of_pos rfl,
        filling.countP_isShell]
    exact Nat.le_of_eq hcount
  case title =>
    intro title answer hmem
    exact (honly title answer hmem).1
  case oneFill =>
    rw [List.countP_cons_of_neg Bool.false_ne_true, List.countP_cons_of_neg Bool.false_ne_true]
    exact filling.countP_isFill
  case fills =>
    intro formId plan answer hmem
    obtain ⟨hexchanges, hid, hwork⟩ := filling.fills (by simpa using hmem)
    exact ⟨shell, by rw [hexchanges], hid, hid ▸ name, hwork⟩
  case succeeds =>
    rw [filling.succeeds]
    constructor
    · rintro ⟨plan, hplan, hfill⟩
      exact ⟨by simp, shell, plan, by simp, name, by simp [hplan],
        fun hwork => by simp [hfill hwork]⟩
    · rintro ⟨-, made, plan, hmade, -, hplan, hfill⟩
      obtain rfl := hshell made hmade
      exact ⟨plan, by simpa using hplan, fun hwork => by simpa using hfill hwork⟩
  case count =>
    intro form hform
    simpa [Exchange.requests] using filling.count hform
  case names =>
    intro failure made hfailure hmade hname
    obtain rfl := hshell made hmade
    obtain ⟨original, hmem, hnames⟩ := filling.names hfailure
    exact ⟨original, by simpa using hmem, hnames⟩

/-- **Every course of a step is disciplined.** -/
theorem Course.disciplined (h : Course c d s exchanges result t) :
    Disciplined d exchanges result := by
  cases h with
  | unsure asks => exact disciplined_refused (by simp) _
  | signedOut asks => exact disciplined_refused (by simp) _
  | unmade asks makes => exact disciplined_unmade (by simp) _
  | unnamed asks makes name =>
    refine disciplined_unmade (fun shell hshell => ?_) _
    cases hshell
    exact name
  | made asks makes name filling => exact disciplined_made name filling

/-! ### A run -/

/-- The exchanges of one step, and its result if it was a `create`. -/
structure Entry where
  /-- The exchanges of the step, in order. -/
  exchanges : List Exchange
  /-- The result of `create`; none for a reset. -/
  result : Option (Except Failure RemoteForm)

/-- The same step with recorded collaborators. -/
def Step.watched : Step σ → Step (Watched σ)
  | .reset => .reset
  | .create c d => .create c.watched d

/-- The entry of a `create` is disciplined; a reset calls nothing. -/
inductive Entry.Keeps : Step σ → Entry → Prop
  | reset : Keeps .reset ⟨[], none⟩
  | create {c : Collaborators σ} {d : Definition} {exchanges : List Exchange}
      {result : Except Failure RemoteForm} (h : Disciplined d exchanges result) :
      Keeps (.create c d) ⟨exchanges, some result⟩

namespace Moment

/-- The entry of the next step. -/
def entry (m : Moment σ) : Step σ → Entry
  | .reset => ⟨[], none⟩
  | .create c d =>
    ⟨(m.orchestrator.create c.watched d ⟨m.state, []⟩).state.exchanges,
      some (m.orchestrator.create c d m.state).result⟩

/-- The entries of the next steps. -/
def entries (m : Moment σ) : List (Step σ) → List Entry
  | [] => []
  | step :: steps => m.entry step :: (m.after step).entries steps

/-- The moment with these exchanges recorded before it. -/
def seen (m : Moment σ) (exchanges : List Exchange) : Moment (Watched σ) :=
  ⟨m.orchestrator, ⟨m.state, exchanges⟩, m.form, m.events⟩

theorem keeps_entry (m : Moment σ) (step : Step σ) : (m.entry step).Keeps step := by
  cases step with
  | reset => exact .reset
  | create c d =>
    obtain ⟨exchanges, hcourse⟩ := course_create c d m.orchestrator m.state
    have hseen := create_watched hcourse m.orchestrator []
    show Entry.Keeps _ ⟨(m.orchestrator.create c.watched d ⟨m.state, []⟩).state.exchanges, _⟩
    rw [hseen]
    exact .create hcourse.disciplined

theorem keeps_entries (m : Moment σ) (steps : List (Step σ)) :
    List.Forall₂ (fun step entry => Entry.Keeps step entry) steps (m.entries steps) := by
  induction steps generalizing m with
  | nil => exact .nil
  | cons step steps ih => exact .cons (m.keeps_entry step) (ih (m.after step))

end Moment
end Orchestrator
end Formwork
