import Formwork.Proofs.Remote.Making

/-!
# Independence of the log

The log is written and never read.  So from worlds that agree but for their logs an activity has the same result, and
ends in worlds that agree but for their logs.  This is proved step by step for `create_remote_form`, which has
every effect on the world that there is (`Account.within_createForm`).
-/
namespace Formwork

/-! ### Steps in the world -/

namespace World

/-- The world without its log. -/
def unlogged (world : World) : World := { world with records := [] }

theorem unlogged_logged (records : List LogRecord) (world : World) :
    (world.logged records).unlogged = world.unlogged := rfl

/-- It suffices to compare each world with the one without its log. -/
theorem within_unlogged {α : Type} {act : Act World α}
    (h : ∀ world : World, (act.run world).1 = (act.run world.unlogged).1 ∧
      (act.run world).2.unlogged = (act.run world.unlogged).2.unlogged) : act.Within unlogged := by
  intro w v hview
  rw [(h w).1, (h v).1, (h w).2, (h v).2, hview]
  exact ⟨rfl, rfl⟩

theorem within_request {α : Type} (call : Call) (replies : Answers → Replies α)
    (keep : Replies α → Answers → Answers) : (request call replies keep).Within unlogged :=
  within_unlogged fun _ => ⟨rfl, rfl⟩

theorem within_takeItemNames (count : Nat) : (takeItemNames count).Within unlogged :=
  within_unlogged fun _ => ⟨rfl, rfl⟩

/-- An activity that reads only the files and the clock is independent of the log. -/
theorem within_of_looks {α : Type} {act : Act World α} (h : act.Looks outside) :
    act.Within unlogged := by
  refine h.within fun w v hview => ?_
  show w.unlogged.outside = v.unlogged.outside
  rw [hview]

theorem within_currentSettings : currentSettings.Within unlogged := by
  refine within_unlogged fun world => ?_
  have hnow : world.unlogged.settingsNow = world.settingsNow := rfl
  rw [run_currentSettings, run_currentSettings, hnow]
  rcases world.settingsNow with failure | settings
  · exact ⟨rfl, rfl⟩
  · exact ⟨rfl, rfl⟩

theorem within_saveText (name text : String) : (saveText name text).Within unlogged := by
  refine within_unlogged fun world => ?_
  have hfiles : world.unlogged.files = world.files := rfl
  rw [run_saveText, run_saveText, hfiles]
  rcases world.files.save name text with problem | files
  · exact ⟨rfl, rfl⟩
  · exact ⟨rfl, rfl⟩

end World

/-! ### Tokens -/

theorem TokenStore.within_current : TokenStore.current.Within World.unlogged := by
  refine World.within_currentSettings.bind fun settings => ?_
  refine Act.within_state (fun w v hview => ?_) fun w => Act.within_ofExcept _ _
  have hlimits : w.unlogged.limits = v.unlogged.limits := congrArg World.limits hview
  exact congrArg (fun limits => pure (ofSettings limits settings)) hlimits

theorem TokenStore.within_save (store : TokenStore) (key : String) (value : Json) :
    (store.save key value).Within World.unlogged :=
  (World.within_of_looks store.looks_stored).bind fun _ =>
    (Act.within_ofExcept _ _).bind fun _ =>
      (Act.within_ofExcept _ _).bind fun _ => World.within_saveText _ _

theorem Account.within_credentials (account : String) :
    (credentials account).Within World.unlogged := by
  rw [credentials_eq]
  refine TokenStore.within_current.bind fun store => ?_
  refine (World.within_of_looks (store.looks_findCredentials _)).bind fun found => ?_
  split
  · exact Act.within_ofExcept _ _
  · refine (World.within_request _ _ _).bind fun grant => ?_
    exact (store.within_save _ _).bind fun _ => Act.within_ofExcept _ _
  · exact Act.within_ofExcept _ _

/-! ### The forms service -/

namespace Connection

/-- The connection in the world without its log. -/
def unlogged (connection : Connection) : Connection :=
  { connection with world := connection.world.unlogged }

theorem unlogged_isOpen (connection : Connection) : connection.unlogged.isOpen = connection.isOpen :=
  rfl

theorem within_inWorld {α : Type} {act : Act World α} (h : act.Within World.unlogged) :
    (inWorld act).Within unlogged := by
  rintro ⟨w, isOpen⟩ ⟨v, isOpen'⟩ hview
  obtain ⟨hworld, rfl⟩ := Connection.mk.inj hview
  obtain ⟨hresult, hafter⟩ := h w v hworld
  rw [run_inWorld, run_inWorld]
  exact ⟨hresult, congrArg (Connection.mk · isOpen) hafter⟩

theorem within_connect (account : String) : (connect (.account account)).Within unlogged := by
  unfold connect
  refine Act.within_state (fun c c' hview => ?_) fun c => ?_
  · rw [← unlogged_isOpen c, hview, unlogged_isOpen]
  split
  · exact Act.within_ofExcept _ _
  · have htoken : (Account.token account).Within World.unlogged :=
      (Account.within_credentials account).bind fun _ => Act.within_ofExcept _ _
    refine ((within_inWorld htoken).mapFailure _).bind fun token => ?_
    have hcall : (Act.change (World.called (.connect token))).Within World.unlogged :=
      World.within_unlogged fun _ => ⟨rfl, rfl⟩
    refine (within_inWorld hcall).bind fun _ => ?_
    exact fun _ _ hview => ⟨rfl, congrArg (fun c : Connection => { c with isOpen := true }) hview⟩

theorem within_createShell (account title : String) :
    (createShell (.account account) title).Within unlogged :=
  (within_connect account).bind fun _ =>
    ((within_inWorld (World.within_request _ _ _)).mapFailure _).bind fun answer =>
      (FormsService.looks_shell answer).within fun _ _ _ => rfl

theorem within_fill (account formId : String) (plan : Plan) :
    (fill (.account account) formId plan).Within unlogged :=
  (within_connect account).bind fun _ =>
    ((within_inWorld (World.within_request _ _ _)).mapFailure _).bind fun _ =>
      Act.within_ofExcept _ _

end Connection

/-! ### Remote forms -/

/-- Every collaborator stays within a view of the state. -/
structure Collaborators.Within {σ β : Type} (view : σ → β) (c : Collaborators σ) : Prop where
  isSignedIn : c.isSignedIn.Within view
  createShell : ∀ title, (c.createShell title).Within view
  plan : ∀ d, (c.plan d).Within view
  fill : ∀ formId plan, (c.fill formId plan).Within view

namespace Orchestrator

variable {σ β : Type} {view : σ → β} {c : Collaborators σ} {s t : σ}

theorem populate_within (h : c.Within view) (d : Definition) (shell : FormShell) (past : List Event)
    (hview : view s = view t) :
    (populate c d shell s past).result = (populate c d shell t past).result ∧
      view (populate c d shell s past).state = view (populate c d shell t past).state := by
  unfold populate
  obtain ⟨failure | plan, s', t', hs, ht, hafter⟩ := (h.plan d).runs hview
  · rw [hs, ht]
    exact ⟨rfl, hafter⟩
  · rw [hs, ht]
    by_cases hwork : plan = []
    · simp only [carryOut, if_pos hwork]
      exact ⟨trivial, hafter⟩
    · simp only [carryOut, if_neg hwork]
      obtain ⟨failure | ⟨⟩, s'', t'', hs', ht', hfilled⟩ := (h.fill shell.id plan).runs hafter
      · rw [hs', ht']
        exact ⟨rfl, hfilled⟩
      · rw [hs', ht']
        exact ⟨rfl, hfilled⟩

/-- **The orchestrator stays within every view that its collaborators stay within.** -/
theorem create_within (h : c.Within view) (d : Definition) (o : Orchestrator)
    (hview : view s = view t) :
    (create c d o s).result = (create c d o t).result ∧
      view (create c d o s).state = view (create c d o t).state := by
  unfold create
  obtain ⟨failure | signedIn, s', t', hs, ht, hafter⟩ := h.isSignedIn.runs hview
  · rw [hs, ht]
    exact ⟨rfl, hafter⟩
  rw [hs, ht]
  cases signedIn with
  | false => exact ⟨rfl, hafter⟩
  | true =>
    obtain ⟨failure | shell, s'', t'', hs', ht', hmade⟩ := (h.createShell d.title).runs hafter
    · simp only [hs', ht']
      exact ⟨trivial, hmade⟩
    · simp only [hs', ht']
      by_cases hname : shell.id = ""
      · simp only [if_pos hname]
        exact ⟨trivial, hmade⟩
      · simp only [if_neg hname]
        exact populate_within h d shell _ hmade

end Orchestrator

theorem Connection.within_collaborators (session : AccountSession) :
    (collaborators session).Within unlogged where
  isSignedIn := within_inWorld (World.within_of_looks (session.store.looks_isUsable _))
  createShell := within_createShell session.account
  plan _ := Act.within_ofExcept _ _
  fill := within_fill session.account

/-- The world after an operation whose events are logged. -/
theorem Account.run_reported (work : World → Report Connection) (w : World) :
    (do
      let world ← Act.state
      let report := work world
      .change fun _ => report.state.world
      World.log (report.events.filterMap Event.record?)
      .ofExcept report.result : Act World RemoteForm).run w =
      ((work w).result, (work w).state.world.logged ((work w).events.filterMap Event.record?)) :=
  rfl

/-- **`create_remote_form` is independent of the log.** -/
theorem Account.within_createForm (account : String) (d : Definition) :
    (createForm account d).Within World.unlogged := by
  unfold createForm AccountSession.start
  refine (TokenStore.within_current.bind fun _ => Act.within_ofExcept _ _).bind fun session => ?_
  intro w v hview
  have hconnection : Connection.unlogged ⟨w, false⟩ = Connection.unlogged ⟨v, false⟩ :=
    congrArg (Connection.mk · false) hview
  obtain ⟨hresult, hafter⟩ :=
    Orchestrator.create_within (Connection.within_collaborators session) d .fresh hconnection
  have hrun := Account.run_reported fun world =>
    Orchestrator.create (Connection.collaborators session) d .fresh ⟨world, false⟩
  rw [hrun w, hrun v]
  refine ⟨hresult, ?_⟩
  rw [World.unlogged_logged, World.unlogged_logged]
  exact congrArg Connection.world hafter

end Formwork
