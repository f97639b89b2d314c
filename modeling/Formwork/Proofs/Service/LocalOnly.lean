import Formwork.Proofs.Service.Session

/-!
# Requests of clients on other machines

`Server.serveLocally` is the outer application with its `LocalhostOnlyMiddleware`: a request whose client is not
on the same machine is answered 403 before it is routed.  No path is looked up, no body is read and no scripted
answer is consumed, so such requests may be inserted anywhere into a session without changing any other turn
(`nonLocal_requests_change_nothing`).

The only trace of a refused request is the time at which it came, and every turn of a session sets the time for
itself (`Turn.observe_at`).
-/
namespace Formwork

/-! ### Turns of a session -/

/-- A request to the outer application from a client that is not on the same machine, or that is not known. -/
structure NonLocalRequest where
  time : Moment
  client : Option String
  request : Request
  /-- The client is none of the local ones. -/
  notLocal : ∀ name ∈ Server.localClients, client ≠ some name

/-- A turn of a session. -/
inductive Turn
  /-- A request or a tool call. -/
  | stepped (step : SessionStep)
  /-- Any other activity at some time: a file is written, a variable is set, a token is looked up. -/
  | other (time : Moment) (act : Act World Json)
  /-- A request of a client that is not local. -/
  | nonLocal (caller : NonLocalRequest)

/-- Whether a turn is a request of a client that is not local. -/
def Turn.isNonLocal : Turn → Bool
  | nonLocal _ => true
  | _ => false

/-- The result of a turn. -/
inductive Reply
  | response (response : Response)
  /-- The value or the failure of a tool or of another activity. -/
  | result (result : Except Failure Json)

/-- The reply to an interaction. -/
def Interaction.reply (w : World) : Interaction → Reply
  | ask request => .response (Server.serve request w).1
  | askLocally client request => .response (Server.serveLocally client request w).1
  | use tool given => .result ((tool.call given).run w).1

/-- The request as a step of a session. -/
def NonLocalRequest.step (caller : NonLocalRequest) : SessionStep :=
  ⟨caller.time, .askLocally caller.client caller.request⟩

namespace Turn

/-- The reply to a turn. -/
def reply (w : World) : Turn → Reply
  | stepped step => step.interaction.reply { w with now := step.time }
  | other time act => .result (act.run { w with now := time }).1
  | nonLocal caller => caller.step.interaction.reply { w with now := caller.time }

/-- The world after a turn. -/
def after (w : World) : Turn → World
  | stepped step => step.after w
  | other time act => (act.run { w with now := time }).2
  | nonLocal caller => caller.step.after w

end Turn

/-- What can be observed of a turn. -/
structure Observation where
  reply : Reply
  /-- The calls that are made in it. -/
  calls : List Call
  /-- The records that are logged in it. -/
  records : List LogRecord
  /-- The files after it, the store of credentials among them. -/
  files : Files

/-- The observation of a turn that begins in a world. -/
def Turn.observe (turn : Turn) (w : World) : Observation where
  reply := turn.reply w
  calls := (turn.after w).calls.drop w.calls.length
  records := (turn.after w).records.drop w.records.length
  files := (turn.after w).files

/-- The turns of a session with their observations. -/
def observations : List Turn → World → List (Turn × Observation)
  | [], _ => []
  | turn :: turns, w => (turn, turn.observe w) :: observations turns (turn.after w)

/-! ### The refusal -/

theorem Server.status_head (request : Request) (response : Response) :
    (head request response).status = response.status := by
  unfold head
  split
  · split
    · rfl
    · rfl
  · rfl

/-- The middleware answers 403 and leaves the world as it is. -/
theorem Server.serveLocally_nonLocal (caller : NonLocalRequest) (w : World) :
    serveLocally caller.client caller.request w =
      (head caller.request (.error 403 "forbidden" "Localhost access only" []), w) := by
  have hnone : ¬ localClients.any fun name => caller.client = some name := by
    rw [List.any_eq_true]
    rintro ⟨name, hname, hclient⟩
    exact caller.notLocal name hname (of_decide_eq_true hclient)
  rw [serveLocally, if_neg hnone]

namespace Turn

variable {caller : NonLocalRequest} {w : World}

theorem reply_nonLocal (caller : NonLocalRequest) (w : World) :
    ∃ response, (nonLocal caller).reply w = .response response ∧ response.status = 403 := by
  refine ⟨_, ?_, Server.status_head caller.request (.error 403 "forbidden" "Localhost access only" [])⟩
  show Reply.response (Server.serveLocally _ _ _).1 = _
  rw [Server.serveLocally_nonLocal]

theorem after_nonLocal (caller : NonLocalRequest) (w : World) :
    (nonLocal caller).after w = { w with now := caller.time } := by
  show (Server.serveLocally _ _ _).2 = _
  rw [Server.serveLocally_nonLocal]
  rfl

/-! ### The time of a turn -/

theorem after_at (turn : Turn) (w : World) (time : Moment) :
    turn.after { w with now := time } = turn.after w := by
  cases turn <;> rfl

theorem observe_at (turn : Turn) (w : World) (time : Moment) :
    turn.observe { w with now := time } = turn.observe w := by
  cases turn <;> rfl

end Turn

/-- The time at which a session begins does not matter, since every turn sets its own. -/
theorem observations_at (turns : List Turn) (w : World) (time : Moment) :
    observations turns { w with now := time } = observations turns w := by
  cases turns with
  | nil => rfl
  | cons turn turns => rw [observations, observations, turn.observe_at, turn.after_at]

/-! ### Sessions -/

/-- The observations of all other turns are those of the session without the refused requests. -/
theorem filter_observations (turns : List Turn) (w : World) :
    (observations turns w).filter (fun seen => !seen.1.isNonLocal) =
      observations (turns.filter fun turn => !turn.isNonLocal) w := by
  induction turns generalizing w with
  | nil => rfl
  | cons turn turns ih =>
    rw [observations]
    cases turn with
    | nonLocal caller =>
      -- only the time has changed, and the turns that follow do not look at it
      rw [List.filter_cons_of_neg (by simp [Turn.isNonLocal]),
        List.filter_cons_of_neg (by simp [Turn.isNonLocal]), ih, Turn.after_nonLocal, observations_at]
    | stepped step =>
      rw [List.filter_cons_of_pos rfl, List.filter_cons_of_pos rfl, ih, observations]
    | other time act =>
      rw [List.filter_cons_of_pos rfl, List.filter_cons_of_pos rfl, ih, observations]

/-- Every observation of a session is that of its turn in some world. -/
theorem exists_of_mem_observations {turns : List Turn} {w : World} {turn : Turn} {observation : Observation}
    (h : (turn, observation) ∈ observations turns w) : ∃ v, observation = turn.observe v := by
  induction turns generalizing w with
  | nil => cases h
  | cons first turns ih =>
    rw [observations, List.mem_cons] at h
    rcases h with h | h
    · cases h
      exact ⟨w, rfl⟩
    · exact ih h

theorem map_fst_observations (turns : List Turn) (w : World) :
    (observations turns w).map Prod.fst = turns := by
  induction turns generalizing w with
  | nil => rfl
  | cons turn turns ih => rw [observations, List.map_cons, ih]

/-- **Requests from other machines change nothing.**  In a session of any turns, every turn has an observation;
every request of a client that is not local is answered 403, without a call and without a log record; and all
other turns have the replies, calls, log records and files that they have in the session without these requests. -/
theorem nonLocal_requests_change_nothing (turns : List Turn) (w : World) :
    (observations turns w).map Prod.fst = turns ∧
      (∀ caller observation, (.nonLocal caller, observation) ∈ observations turns w →
        (∃ response, observation.reply = .response response ∧ response.status = 403) ∧
          observation.calls = [] ∧ observation.records = []) ∧
      (observations turns w).filter (fun seen => !seen.1.isNonLocal) =
        observations (turns.filter fun turn => !turn.isNonLocal) w := by
  refine ⟨map_fst_observations turns w, fun caller observation hseen => ?_, filter_observations turns w⟩
  obtain ⟨v, rfl⟩ := exists_of_mem_observations hseen
  refine ⟨Turn.reply_nonLocal caller v, ?_, ?_⟩
  · rw [Turn.observe, Turn.after_nonLocal]
    exact List.drop_length
  · rw [Turn.observe, Turn.after_nonLocal]
    exact List.drop_length

end Formwork
