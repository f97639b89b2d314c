import Formwork.Service.Server

/-!
# Routing

The path of a request selects an endpoint, its body is read, and the result of the endpoint's activity is the response.
A failure never has status 200.
-/
namespace Formwork

namespace Response

theorem le_generationFailed_status (reason : GenerationFailure) (message : String) :
    400 ≤ (generationFailed reason message).status := by
  show 400 ≤ if reason = .invalidKey then 401 else 502
  split
  · decide
  · decide

/-- The response to a failure has an error status. -/
theorem le_ofFailure_status (failure : Failure) : 400 ≤ (ofFailure failure).status := by
  unfold ofFailure
  split
  all_goals simp [error, unforeseen, le_generationFailed_status]

/-- The response to a failure does not have status 200. -/
theorem ofFailure_status_ne (failure : Failure) : (ofFailure failure).status ≠ 200 := by
  have hle := le_ofFailure_status failure
  omega

theorem rejected_status_ne (issues : List Issue) : (rejected issues).status ≠ 200 := by
  unfold rejected
  split
  · intro h
    cases h
  · intro h
    cases h

end Response

/-- The response of a result. -/
def Response.ofResult : Except Failure Response → Response
  | .ok response => response
  | .error failure => .ofFailure failure

/-- A POST request with a JSON body. -/
def Request.posting (path : String) (query : List (String × String)) (origin : String) (json : Json) :
    Request :=
  ⟨"POST", path, query, origin, .value json⟩

namespace Endpoint

variable {α : Type} {request : Request} {read : Json → Reading α} {json : Json}
  {answer : α → Act World Response}

theorem withBody_of_done {value : α} (hbody : request.body = .value json)
    (hread : read json = .done value) : withBody read request answer = answer value := by
  unfold withBody
  rw [hbody]
  dsimp only
  rw [hread]
  rfl

theorem withBody_of_failed {issues : List Issue} (hbody : request.body = .value json)
    (hread : read json = .failed issues) :
    withBody read request answer = pure (.rejected (issues.map (Issue.under (.key "body")))) := by
  unfold withBody
  rw [hbody]
  dsimp only
  rw [hread]
  rfl

end Endpoint

namespace Server

theorem settle_eq (act : Act World Response) (w : World) :
    settle act w = (.ofResult (act.run w).1, (act.run w).2) := by
  unfold settle
  rcases act.run w with ⟨failure | response, v⟩
  · rfl
  · rfl

/-- A request with the path and the method of an endpoint is answered by it. -/
theorem serve_eq {request : Request} {endpoint : Endpoint}
    (hpath : Endpoint.ofPath? request.path = some endpoint)
    (hmethod : request.method = endpoint.method) (w : World) :
    serve request w = settle (endpoint.answer request) w := by
  unfold serve
  rw [hpath]
  exact if_pos hmethod

end Server
end Formwork
