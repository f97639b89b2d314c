import Formwork.Proofs.Act
import Formwork.World.Basic

/-!
# Effects in the world

The effect of an activity on the world.  What precedes a call to a service mostly reads: the files, the clock and
the settings.  A call is recorded and takes the next answer, and a save changes the files.

The settings are cached once they have been loaded (`run_currentSettings`).  `Alike` worlds differ at most in their
logs and in that cache.
-/
namespace Formwork

namespace World

/-- The files and the time. -/
def outside (world : World) : Files × Moment := (world.files, world.now)

theorem looks_isThere (name : String) : (isThere name).Looks outside :=
  Act.looks_state (fun seen : Files × Moment => .ofProblem (seen.1.isThere name))
    fun seen => Act.looks_ofProblem outside (seen.1.isThere name)

theorem looks_fileText (name : String) : (fileText name).Looks outside :=
  Act.looks_state (fun seen : Files × Moment => .ofProblem (seen.1.read name))
    fun seen => Act.looks_ofProblem outside (seen.1.read name)

/-! ### Calls and files -/

/-- The world after a call was recorded and answered, with these answers remaining. -/
def answered (call : Call) (remaining : Answers) (world : World) : World :=
  { world.called call with answers := remaining }

theorem run_request {α : Type} (call : Call) (replies : Answers → Replies α)
    (keep : Replies α → Answers → Answers) (world : World) :
    (request call replies keep).run world =
      ((replies world.answers).take.1.mapError (⟨·, []⟩),
        world.answered call (keep (replies world.answers).take.2 world.answers)) := rfl

/-- The world with other files. -/
def withFiles (files : Files) (world : World) : World := { world with files }

theorem run_saveText (name text : String) (world : World) :
    (saveText name text).run world =
      match world.files.save name text with
      | .ok files => (.ok (), world.withFiles files)
      | .error problem => (.error ⟨problem, []⟩, world) := by
  show (Act.ofProblem (world.files.save name text) >>= fun files =>
    Act.change (withFiles files)).run world = _
  rw [Act.run_bind]
  rcases hsave : world.files.save name text with problem | files
  · rfl
  · rfl

/-! ### Settings -/

/-- The settings of a world: the cached ones, or else those that are loaded. -/
def settingsNow (world : World) : Except Failure Settings :=
  match world.settings with
  | some settings => .ok settings
  | none =>
    match Settings.load world.environment (world.files.read envFile).toOption with
    | .done settings => .ok settings
    | .failed issues => .error (Problem.misshapen "Settings" issues)

/-- Settings that are not cached are loaded. -/
theorem settingsNow_of_load {w : World} {settings : Settings} (hkept : w.settings = none)
    (h : Settings.load w.environment (w.files.read envFile).toOption = .done settings) :
    w.settingsNow = .ok settings := by
  rw [settingsNow, hkept]
  simp only [h]

/-- Settings that fail to load fail with a validation error. -/
theorem misshapen_of_settingsNow {w : World} {failure : Failure}
    (h : w.settingsNow = .error failure) :
    ∃ issues, failure = Problem.misshapen "Settings" issues := by
  unfold settingsNow at h
  split at h
  · cases h
  · split at h
    · cases h
    · cases h
      exact ⟨_, rfl⟩

/-- The world with these settings cached. -/
def keeping (settings : Settings) (world : World) : World :=
  { world with settings := some settings }

/-- The first use of the settings caches them, and changes nothing else. -/
theorem run_currentSettings (world : World) :
    currentSettings.run world =
      match world.settingsNow with
      | .ok settings => (.ok settings, world.keeping settings)
      | .error failure => (.error failure, world) := by
  obtain ⟨files, environment, settings, answers, itemNames, now, calls, records⟩ := world
  rcases settings with _ | settings
  · show (Act.ofReading "Settings" (Settings.load environment (files.read envFile).toOption) >>= _ :
      Act World Settings).run _ = _
    unfold settingsNow
    simp only
    cases Settings.load environment (files.read envFile).toOption <;> rfl
  · rfl

/-! ### Alike worlds -/

/-- The worlds agree but for their logs and for whether the settings are cached. -/
structure Alike (w v : World) : Prop where
  settings : v.settingsNow = w.settingsNow
  limits : v.limits = w.limits
  outside : v.outside = w.outside
  answers : v.answers = w.answers
  calls : v.calls = w.calls

theorem alike_refl (w : World) : w.Alike w := ⟨rfl, rfl, rfl, rfl, rfl⟩

theorem Alike.trans {u v w : World} (h : u.Alike v) (h' : v.Alike w) : u.Alike w :=
  ⟨h'.settings.trans h.settings, h'.limits.trans h.limits, h'.outside.trans h.outside,
    h'.answers.trans h.answers, h'.calls.trans h.calls⟩

theorem alike_logged (records : List LogRecord) (w : World) : w.Alike (w.logged records) :=
  ⟨rfl, rfl, rfl, rfl, rfl⟩

theorem alike_keeping {w : World} {settings : Settings} (h : w.settingsNow = .ok settings) :
    w.Alike (w.keeping settings) :=
  ⟨h.symm, rfl, rfl, rfl, rfl⟩

/-- Using the settings keeps the world alike. -/
theorem alike_currentSettings {w v : World} {result : Except Failure Settings}
    (h : currentSettings.run w = (result, v)) : w.Alike v ∧ result = w.settingsNow := by
  rw [run_currentSettings] at h
  rcases hsettings : w.settingsNow with failure | settings
  · rw [hsettings] at h
    cases h
    exact ⟨alike_refl w, rfl⟩
  · rw [hsettings] at h
    cases h
    exact ⟨alike_keeping hsettings, rfl⟩

end World
end Formwork
