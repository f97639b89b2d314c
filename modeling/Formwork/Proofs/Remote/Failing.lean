import Formwork.Proofs.Remote.Making

/-!
# Why a remote form is not created

The failures of `create_remote_form` for a valid definition.  Settings that cannot be loaded are reported as
they are (`Account.run_createForm_unsettled`).  Otherwise the failure is one of four (`RemoteForm.Unmade`): the
sign-in check fails, and then the problem lies with the token file (`Problem.OfStore`); the session is not signed
in; the shell is not created; or the batch fails (`Account.unmade_createForm`).
-/
namespace Formwork

/-! ### Problems of the token file -/

/-- Problems of the token file or of an entry in it. -/
inductive Problem.OfStore : Problem → Prop
  | badFile (fault : FileFault) (name : String) : OfStore (.badFile fault name)
  | malformedJson (fault : Json.Malformed) : OfStore (.malformedJson fault)
  | noAttribute (typeName wanted : String) : OfStore (.noAttribute typeName wanted)
  | badValue (message : String) : OfStore (.badValue message)
  | outsideCalendar : OfStore .outsideCalendar

open Problem (OfStore)

variable {problem : Problem}

namespace Files

variable {files : Files} {name : String}

theorem ofStore_isThere (h : files.isThere name = .error problem) : problem.OfStore := by
  unfold isThere at h
  split at h
  · cases h
  · cases h
    exact .badFile _ _
  · cases h

theorem ofStore_filePlace (h : files.filePlace name = .error problem) : problem.OfStore := by
  unfold filePlace at h
  split at h
  · split at h
    · cases h
      exact .badFile _ _
    · cases h
  · cases h
    exact .badFile _ _

theorem ofStore_read (h : files.read name = .error problem) : problem.OfStore := by
  unfold read at h
  rcases hplace : files.filePlace name with fault | place
  · rw [hplace] at h
    cases h
    exact ofStore_filePlace hplace
  · rw [hplace] at h
    rcases htext : files.text? place with _ | text
    · simp only [bind, Except.bind, htext] at h
      cases h
      exact .badFile _ _
    · simp only [bind, Except.bind, htext] at h
      cases h

end Files

theorem Json.ofStore_fieldsFor {wanted : String} {value : Json}
    (h : value.fieldsFor wanted = .error problem) : problem.OfStore := by
  cases value with
  | obj fields => cases h
  | _ =>
    cases h
    exact .noAttribute _ _

theorem Stored.ofStore_get {key : String} {stored : Json} (h : get key stored = .error problem) :
    problem.OfStore := by
  unfold get at h
  rcases hfields : stored.fieldsFor "get" with fault | fields
  · rw [hfields] at h
    cases h
    exact Json.ofStore_fieldsFor hfields
  · rw [hfields] at h
    cases h

namespace Credentials

theorem ofStore_timeProblem (text : String) (fault : Moment.Fault) :
    (timeProblem text fault).OfStore := by
  cases fault <;> exact .badValue _

theorem ofStore_readExpiry {value : Json} (h : readExpiry value = .error problem) :
    problem.OfStore := by
  unfold readExpiry at h
  by_cases htruthy : value.truthy = true
  · rw [if_pos htruthy] at h
    cases value with
    | str text =>
      rcases hread : Moment.read (bareTime text) with fault | moment
      · simp only [hread] at h
        cases h
        exact ofStore_timeProblem _ _
      · simp only [hread] at h
        cases h
    | _ =>
      cases h
      exact .noAttribute _ _
  · rw [if_neg htruthy] at h
    cases h

theorem ofStore_read {value : Json} (h : read value = .error problem) : problem.OfStore := by
  unfold read at h
  rcases hfields : value.fieldsFor "keys" with fault | fields
  · rw [hfields] at h
    cases h
    exact Json.ofStore_fieldsFor hfields
  · rw [hfields] at h
    simp only [bind, Except.bind] at h
    split at h
    · rcases hexpiry : readExpiry ((Fields.get? "expiry" fields).getD .null) with fault | expiry
      · rw [hexpiry] at h
        cases h
        exact ofStore_readExpiry hexpiry
      · rw [hexpiry] at h
        cases h
    · cases h
      exact .badValue _

theorem ofStore_use {now : Moment} {c : Credentials} (h : c.use now = .error problem) :
    problem.OfStore := by
  unfold use isExpired at h
  split at h
  · cases h
  · split at h
    · cases h
      exact .outsideCalendar
    · cases h

end Credentials

namespace TokenStore

theorem raises_stored (store : TokenStore) : store.stored.Raises OfStore := by
  refine Act.Raises.bind ?_ fun there => ?_
  · exact Act.raises_state fun w => Act.raises_ofProblem fun _ => Files.ofStore_isThere
  split
  · refine Act.Raises.bind ?_ fun text => Act.raises_ofProblem fun problem h => ?_
    · exact Act.raises_state fun w => Act.raises_ofProblem fun _ => Files.ofStore_read
    · rw [Json.Codec.decode] at h
      rcases hparse : Json.parseWithin store.codec.reads text with fault | value
      · rw [hparse] at h
        cases h
        exact .malformedJson _
      · rw [hparse] at h
        cases h
  · exact Act.raises_pure _ _

/-- A failure of `has_valid_token` is a problem of the token file. -/
theorem raises_isUsable (store : TokenStore) (key : String) :
    (store.isUsable key).Raises OfStore := by
  have hget : (store.get key).Raises OfStore :=
    store.raises_stored.bind fun _ => Act.raises_ofProblem fun _ => Stored.ofStore_get
  refine hget.bind fun value => ?_
  split
  · refine (Act.raises_ofProblem fun _ => Credentials.ofStore_read).bind fun c => ?_
    refine Act.raises_state fun w => ?_
    exact (Act.raises_ofProblem fun _ => Credentials.ofStore_use).bind fun _ => Act.raises_pure _ _
  · exact Act.raises_pure _ _

end TokenStore

/-! ### Failures of the whole operation -/

/-- The failures of `create_remote_form` once the settings are loaded. -/
inductive RemoteForm.Unmade : Failure → Prop
  /-- The sign-in check failed. -/
  | unsure {failure : Failure} (store : failure.problem.OfStore) : Unmade failure
  /-- The session is not signed in. -/
  | signedOut : Unmade ⟨Orchestrator.notSignedIn, []⟩
  /-- The shell is not created, or has no id. -/
  | uncreated (message : String) (causes : List Problem) : Unmade ⟨.creationFailed message, causes⟩
  /-- The batch failed. -/
  | unfilled (message formId : String) (causes : List Problem) :
      Unmade ⟨.batchFailed message formId, causes⟩

namespace Account

variable {account : String} {d : Definition} {w v : World} {failure : Failure}

theorem run_createForm_unsettled (h : w.settingsNow = .error failure) :
    (createForm account d).run w = (.error failure, w) := by
  have hsettings : World.currentSettings.run w = (.error failure, w) := by
    rw [World.run_currentSettings, h]
  have hstart : (AccountSession.start account).run w = (.error failure, w) :=
    Act.run_bind_error (Act.run_bind_error hsettings)
  exact Act.run_bind_error hstart

/-- A course that ends without a form ends in one of these failures. -/
theorem unmade_of_course {session : AccountSession} {t : Connection} {exchanges : List Exchange}
    (h : Orchestrator.Course (Connection.collaborators session) d ⟨v, false⟩ exchanges
      (.error failure) t) :
    RemoteForm.Unmade failure := by
  cases h with
  | unsure asks =>
    exact .unsure (session.store.raises_isUsable _ v failure v (run_isSignedIn asks).1)
  | signedOut asks => exact .signedOut
  | unmade asks makes => exact .uncreated _ _
  | unnamed asks makes name => exact .uncreated _ _
  | made asks makes name filling =>
    cases filling with
    | unplanned plans => exact .unfilled _ _ _
    | unfilled plans work fills => exact .unfilled _ _ _

/-- **Once the settings are loaded, every failure of `create_remote_form` is one of these.** -/
theorem unmade_createForm {settings : Settings} (hsettings : w.settingsNow = .ok settings)
    (h : (createForm account d).run w = (.error failure, v)) : RemoteForm.Unmade failure := by
  have hlook : World.currentSettings.run w = (.ok settings, w.keeping settings) := by
    rw [World.run_currentSettings, hsettings]
  obtain ⟨session, hstart⟩ : ∃ session,
      (AccountSession.start account).run w = (.ok session, w.keeping settings) :=
    ⟨_, Act.run_bind_ok (Act.run_bind_ok hlook)⟩
  rw [createForm, Act.run_bind_ok hstart] at h
  obtain ⟨exchanges, hcourse⟩ := Orchestrator.course_create (Connection.collaborators session) d
    .fresh ⟨w.keeping settings, false⟩
  have hresult : (Orchestrator.create (Connection.collaborators session) d .fresh
      ⟨w.keeping settings, false⟩).result = .error failure := congrArg Prod.fst h
  rw [hresult] at hcourse
  exact unmade_of_course hcourse

end Account
end Formwork
