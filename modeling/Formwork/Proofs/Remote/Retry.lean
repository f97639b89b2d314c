import Formwork.Proofs.Remote.Calls

/-!
# Retries

An orchestrator that created a form, failed to or was reset may be asked for another form.  The course of a step
depends only on the answers to its own calls, so it is the same after any past.

The report of a step is a function of those answers, up to the phase of its first transition (`Course.report`).
Hence two steps whose calls get the same answers have the same report, after any two runs
(`Moment.retry_starts_fresh`).
-/
namespace Formwork
namespace Orchestrator

variable {σ τ : Type} {c : Collaborators σ} {d : Definition} {s t : σ} {exchanges : List Exchange}
  {result : Except Failure RemoteForm}

namespace Moment

/-- The log records of all steps, in order. -/
def records (m : Moment σ) : List LogRecord := m.events.filterMap Event.record?

theorem records_after_create {m : Moment σ} {after : Orchestrator} {events : List Event}
    (h : m.orchestrator.create c d m.state =
      ⟨after, t, result, .moved m.orchestrator.phase .idle :: events⟩) :
    (m.after (.create c d)).records =
      m.records ++ moveRecord (m.orchestrator.phase, .idle) :: events.filterMap Event.record? := by
  have hevents : (m.after (.create c d)).events =
      m.events ++ .moved m.orchestrator.phase .idle :: events := by
    show m.events ++ (m.orchestrator.create c d m.state).events = _
    rw [h]
  rw [records, hevents, List.filterMap_append]
  rfl

/-- The entry of a step consists of the answers to its calls and the result that they determine. -/
theorem entry_create (h : Course c d s exchanges result t) {c' : Collaborators τ} {m : Moment τ}
    {t' : τ} (ha : c'.Answer m.state exchanges t') :
    m.entry (.create c' d) = ⟨exchanges, some result⟩ := by
  obtain ⟨after, events, hreport⟩ := h.report
  have hresult : (m.orchestrator.create c' d m.state).result = result := by
    rw [hreport ha]
  have hseen : (m.orchestrator.create c'.watched d ⟨m.state, []⟩).state.exchanges = exchanges := by
    rw [hreport (ha.watched [])]
    rfl
  rw [entry, hresult, hseen]

/-- **A retry starts fresh.**  Take two orchestrators after any two runs, let both create a form of one
definition, and let the second one's collaborators give the answers that the first one's give to the calls of this
step.  Then both make the same calls, return the same form or raise the same failure, end in the same phase with
the same form id and share URL, and log the same records, except that the first one names the phase in which the
step began. -/
theorem retry_starts_fresh (past : List (Step σ)) (s : σ) (past' : List (Step τ)) (s' u : τ)
    (c : Collaborators σ) (c' : Collaborators τ) (d : Definition)
    (alike : c'.Answer (run past' s').state ((run past s).entry (.create c d)).exchanges u) :
    let m := run past s
    let m' := run past' s'
    m'.entry (.create c' d) = m.entry (.create c d) ∧
      (m'.after (.create c' d)).orchestrator = (m.after (.create c d)).orchestrator ∧
      ∃ records,
        (m.after (.create c d)).records =
          m.records ++ moveRecord (m.orchestrator.phase, .idle) :: records ∧
        (m'.after (.create c' d)).records =
          m'.records ++ moveRecord (m'.orchestrator.phase, .idle) :: records := by
  intro m m'
  obtain ⟨exchanges, hcourse⟩ := course_create c d m.orchestrator m.state
  have hentry := entry_create (m := m) hcourse hcourse.answer
  have halike : c'.Answer m'.state exchanges u := by
    rw [hentry] at alike
    exact alike
  obtain ⟨after, events, hreport⟩ := hcourse.report
  have hfirst := hreport hcourse.answer m.orchestrator
  have hsecond := hreport halike m'.orchestrator
  refine ⟨?_, ?_, events.filterMap Event.record?, records_after_create hfirst,
    records_after_create hsecond⟩
  · rw [entry_create hcourse halike, hentry]
  · show (m'.orchestrator.create c' d m'.state).orchestrator =
      (m.orchestrator.create c d m.state).orchestrator
    rw [hfirst, hsecond]

/-- A `create` that failed in its batch, tried again, and one after a form that was created. -/
theorem retry_starts_fresh_unfilled :
    let tea : Definition := { title := "Tea" }
    let shell : FormShell := ⟨"form123", "edit", "share"⟩
    let plan : Plan := [.createItem (.pageBreak "Milk" none) 0]
    let steady : Collaborators Unit :=
      ⟨pure true, fun _ => pure shell, fun _ => pure plan, fun _ _ => pure ()⟩
    let flaky : Collaborators Nat :=
      ⟨pure true, fun _ => pure shell, fun _ => pure plan, fun _ _ calls =>
        if calls = 0 then (.error (Problem.rateLimit "Slow down"), 1) else (.ok (), calls + 1)⟩
    let made := run [.create steady tea] ()
    let failed := run [.create flaky tea] 0
    made.orchestrator.phase = .done ∧ failed.orchestrator.phase = .idle ∧
      flaky.Answer failed.state (made.entry (.create steady tea)).exchanges 2 ∧
      failed.entry (.create flaky tea) = made.entry (.create steady tea) ∧
      (failed.after (.create flaky tea)).orchestrator =
        (made.after (.create steady tea)).orchestrator := by
  intro tea shell plan steady flaky made failed
  have hasked : (made.entry (.create steady tea)).exchanges =
      [.signIn (.ok true), .shell "Tea" (.ok shell), .plan tea (.ok plan),
        .fill "form123" plan (.ok ())] := rfl
  have halike : flaky.Answer failed.state (made.entry (.create steady tea)).exchanges 2 := by
    rw [hasked]
    have hlast : Exchange.Holds flaky 1 2 (.fill "form123" plan (.ok ())) := rfl
    exact .cons rfl (.cons rfl (.cons rfl (.cons hlast (.nil 2))))
  obtain ⟨hentry, hrests, -⟩ :=
    retry_starts_fresh [.create steady tea] () [.create flaky tea] 0 2 steady flaky tea halike
  exact ⟨rfl, rfl, halike, hentry, hrests⟩

end Moment

end Orchestrator
end Formwork
