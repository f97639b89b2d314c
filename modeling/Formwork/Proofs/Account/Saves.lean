import Formwork.Proofs.Account.Content
import Mathlib.Data.Bool.Count
import Mathlib.Logic.Function.Basic

/-!
# Concurrent saves

`TokenStore.save` reads the whole file and then writes the whole file.  There is no lock between the two, so when
requests are served concurrently, the write of a save may come after the reads and writes of other saves.  `Saves` are
saves under way in one world, each of which takes two turns, its read and its write; a schedule is the order of the
turns, and two turns in a row are a save (`Saves.run_pair`).

Each call has its own reader and writer, since their limits may differ from call to call; what is saved keeps within
limits that all of them reach (`SaveCall.Within`).  Whatever the schedule, the file then holds its initial members with
some of the entries set in them, and no save fails (`Follows.run`).  Which entries these are does not depend on the
entries: a `Ledger` computes it from the schedule alone.  A save is kept if no other save was between its turns when it
began, and it ended before any other began (`save_alone_kept`).  Of two saves the one that writes last is kept, and the
other one is kept just if it ended before that one began (`two_saves`).
-/
namespace Formwork
namespace TokenStore

/-! ### Saves and schedules -/

/-- A call of `save`. -/
structure SaveCall where
  /-- The key. -/
  key : String
  /-- The value. -/
  value : Json
  /-- The reader and the writer of the file in this call. -/
  codec : Json.Codec := {}

/-- The store of the call. -/
def SaveCall.store (file : String) (call : SaveCall) : TokenStore := ⟨file, call.codec⟩

/-- Within these limits the call can read the file, and can write it with its own value. -/
structure SaveCall.Within (limits : Json.Limits) (call : SaveCall) : Prop where
  value : call.value.Storable limits
  codec : call.codec.Covers limits

/-- The stage of a save. -/
inductive Stage (σ ρ : Type)
  /-- The save has not read the file yet. -/
  | begun
  /-- The save has read this. -/
  | seen (stored : σ)
  /-- The save has ended with this result. -/
  | ended (result : ρ)
deriving DecidableEq

/-- The stage with functions applied to what was read and to the result. -/
def Stage.map {σ σ' ρ ρ' : Type} (f : σ → σ') (g : ρ → ρ') : Stage σ ρ → Stage σ' ρ'
  | .begun => .begun
  | .seen stored => .seen (f stored)
  | .ended result => .ended (g result)

/-- Saves under way in one world. -/
structure Saves (ι : Type) where
  /-- The world. -/
  world : World
  /-- The stage of each save. -/
  stage : ι → Stage Json (Except Failure Unit)

variable {ι : Type} [DecidableEq ι] {call : ι → SaveCall} {i : ι} {file : String} {limits : Json.Limits}
  {fields : Fields} {w : World}

namespace Saves

/-- Saves that have yet to begin. -/
def start (w : World) : Saves ι := ⟨w, fun _ => .begun⟩

/-- The saves after a turn of one of them. -/
def advance (file : String) (call : ι → SaveCall) (saves : Saves ι) (i : ι) : Saves ι :=
  match saves.stage i with
  | .begun =>
    match ((call i).store file).stored.run saves.world with
    | (.ok stored, w) => ⟨w, Function.update saves.stage i (.seen stored)⟩
    | (.error failure, w) => ⟨w, Function.update saves.stage i (.ended (.error failure))⟩
  | .seen stored =>
    match (((call i).store file).put (call i).key (call i).value stored).run saves.world with
    | (result, w) => ⟨w, Function.update saves.stage i (.ended result)⟩
  | .ended _ => saves

/-- The saves after the turns of a schedule. -/
def run (file : String) (call : ι → SaveCall) (saves : Saves ι) (schedule : List ι) : Saves ι :=
  schedule.foldl (advance file call) saves

variable {saves : Saves ι}

theorem advance_begun {stored : Json} {v : World} (h : saves.stage i = .begun)
    (hrun : ((call i).store file).stored.run saves.world = (.ok stored, v)) :
    saves.advance file call i = ⟨v, Function.update saves.stage i (.seen stored)⟩ := by
  simp only [advance, h, hrun]

theorem advance_seen {stored : Json} {result : Except Failure Unit} {v : World}
    (h : saves.stage i = .seen stored)
    (hrun : (((call i).store file).put (call i).key (call i).value stored).run saves.world = (result, v)) :
    saves.advance file call i = ⟨v, Function.update saves.stage i (.ended result)⟩ := by
  simp only [advance, h, hrun]

theorem advance_ended {result : Except Failure Unit} (h : saves.stage i = .ended result) :
    saves.advance file call i = saves := by
  simp only [advance, h]

/-- **Two turns in a row are a save**, with its world and its result. -/
theorem run_pair {result : Except Failure Unit} {v : World} (h : saves.stage i = .begun)
    (hsave : (((call i).store file).save (call i).key (call i).value).run saves.world = (result, v)) :
    saves.run file call [i, i] = ⟨v, Function.update saves.stage i (.ended result)⟩ := by
  rw [save_eq_put, Act.run_bind] at hsave
  show (saves.advance file call i).advance file call i = _
  rcases hrun : ((call i).store file).stored.run saves.world with ⟨failure | stored, u⟩
  · have hfirst : saves.advance file call i =
        ⟨u, Function.update saves.stage i (.ended (.error failure))⟩ := by
      simp only [advance, h, hrun]
    rw [hrun] at hsave
    cases hsave
    rw [hfirst, advance_ended (Function.update_self ..)]
  · rw [hrun] at hsave
    rw [advance_begun h hrun, advance_seen (Function.update_self ..) hsave, Function.update_idem]

end Saves

/-! ### The ledger -/

/-- The saves without their entries: whose entries the file holds beside its initial members, in the order in
which they were set, and the stage of each save. -/
structure Ledger (ι : Type) where
  /-- Whose entries are in the file. -/
  kept : List ι
  /-- The stage of each save, with whose entries it has read. -/
  stage : ι → Stage (List ι) Unit

namespace Ledger

/-- Saves that have yet to begin. -/
def start : Ledger ι := ⟨[], fun _ => .begun⟩

/-- The ledger after a turn. -/
def advance (ledger : Ledger ι) (i : ι) : Ledger ι :=
  match ledger.stage i with
  | .begun => { ledger with stage := Function.update ledger.stage i (.seen ledger.kept) }
  | .seen found => ⟨found ++ [i], Function.update ledger.stage i (.ended ())⟩
  | .ended _ => ledger

/-- The ledger after the turns of a schedule. -/
def run (ledger : Ledger ι) (schedule : List ι) : Ledger ι := schedule.foldl advance ledger

variable {ledger : Ledger ι} {found : List ι}

theorem advance_begun (h : ledger.stage i = .begun) :
    ledger.advance i = ⟨ledger.kept, Function.update ledger.stage i (.seen ledger.kept)⟩ := by
  simp only [advance, h]

theorem advance_seen (h : ledger.stage i = .seen found) :
    ledger.advance i = ⟨found ++ [i], Function.update ledger.stage i (.ended ())⟩ := by
  simp only [advance, h]

theorem advance_ended (h : ledger.stage i = .ended ()) : ledger.advance i = ledger := by
  simp only [advance, h]

end Ledger

/-- Members with the values of some calls set in them, one after the other. -/
def entered (fields : Fields) (calls : List SaveCall) : Fields :=
  calls.foldl (fun fields call => fields.set call.key call.value) fields

theorem entered_append_singleton (fields : Fields) (calls : List SaveCall) (call : SaveCall) :
    entered fields (calls ++ [call]) = (entered fields calls).set call.key call.value := by
  rw [entered, List.foldl_append]
  rfl

theorem readable_entered (h : Json.Readable limits (.obj fields)) {calls : List SaveCall}
    (hcalls : ∀ call ∈ calls, call.value.Storable limits) :
    Json.Readable limits (.obj (entered fields calls)) := by
  induction calls generalizing fields with
  | nil => exact h
  | cons call rest ih =>
    obtain ⟨hcall, hrest⟩ := List.forall_mem_cons.mp hcalls
    exact ih (h.set hcall call.key) hrest

/-- The ledger describes the saves. -/
structure Follows (limits : Json.Limits) (file : String) (fields : Fields) (call : ι → SaveCall)
    (ledger : Ledger ι) (saves : Saves ι) : Prop where
  holds : saves.world.files.HoldsWithin limits file (entered fields (ledger.kept.map call))
  stage : saves.stage = fun i => (ledger.stage i).map
    (fun found => .obj (entered fields (found.map call))) fun _ => .ok ()

variable {ledger : Ledger ι} {saves : Saves ι}

omit [DecidableEq ι] in
theorem Follows.stage_eq (h : Follows limits file fields call ledger saves) (i : ι) :
    saves.stage i = (ledger.stage i).map
      (fun found => .obj (entered fields (found.map call))) fun _ => .ok () :=
  congrFun h.stage i

omit [DecidableEq ι] in
theorem follows_start (hholds : w.files.HoldsWithin limits file fields) :
    Follows limits file fields call .start (.start w : Saves ι) :=
  ⟨hholds, funext fun _ => rfl⟩

/-- Mapping stages after one of them was updated. -/
theorem map_update {σ σ' ρ ρ' : Type} (f : σ → σ') (g : ρ → ρ') (stage : ι → Stage σ ρ) (i : ι)
    (new : Stage σ ρ) : (fun j => (Function.update stage i new j).map f g) =
      Function.update (fun j => (stage j).map f g) i (new.map f g) :=
  Function.comp_update (Stage.map f g) stage i new

/-- **The ledger describes the saves after each turn.** -/
theorem Follows.advance (h : Follows limits file fields call ledger saves)
    (hstart : w.files.HoldsWithin limits file fields) (hcalls : ∀ i, (call i).Within limits) (i : ι) :
    Follows limits file fields call (ledger.advance i) (saves.advance file call i) := by
  have hstage := h.stage_eq i
  cases hledger : ledger.stage i with
  | begun =>
    replace hstage : saves.stage i = .begun := by rw [hstage, hledger]; rfl
    have hrun := ((call i).store file).run_stored h.holds (hcalls i).codec.reads
    rw [Ledger.advance_begun hledger, Saves.advance_begun hstage hrun]
    exact ⟨h.holds, by rw [map_update, h.stage]; rfl⟩
  | seen found =>
    replace hstage : saves.stage i = .seen (.obj (entered fields (found.map call))) := by
      rw [hstage, hledger]
      rfl
    have hfound : Json.Readable limits (.obj (entered fields (found.map call))) :=
      readable_entered (hstart.readable (hcalls i).value.readable_obj_nil) fun other hother => by
        obtain ⟨j, -, rfl⟩ := List.mem_map.mp hother
        exact (hcalls j).value
    -- The file takes what was found then and the entry; what was set in it in the meantime is gone.
    obtain ⟨files, hput, hholds⟩ := ((call i).store file).run_put h.holds (hcalls i).codec hfound
      (hcalls i).value (call i).key
    rw [Ledger.advance_seen hledger, Saves.advance_seen hstage hput]
    refine ⟨?_, by rw [map_update, h.stage]; rfl⟩
    rw [List.map_append, List.map_singleton, entered_append_singleton]
    exact hholds
  | ended result =>
    replace hstage : saves.stage i = .ended (.ok ()) := by rw [hstage, hledger]; rfl
    rw [Ledger.advance_ended hledger, Saves.advance_ended hstage]
    exact h

/-- **The ledger describes the saves after any schedule**: the file holds its initial members, with the entries
set in them that the ledger says are kept. -/
theorem Follows.run (h : Follows limits file fields call ledger saves)
    (hstart : w.files.HoldsWithin limits file fields) (hcalls : ∀ i, (call i).Within limits)
    (schedule : List ι) :
    Follows limits file fields call (ledger.run schedule) (saves.run file call schedule) := by
  induction schedule generalizing ledger saves with
  | nil => exact h
  | cons i rest ih => exact ih (h.advance hstart hcalls i)

/-! ### A save without overlap -/

/-- The entry is in the file, and every save between its turns has read it. -/
structure Ledger.Has (ledger : Ledger ι) (i : ι) : Prop where
  kept : i ∈ ledger.kept
  found : ∀ j found, ledger.stage j = .seen found → i ∈ found

theorem Ledger.Has.advance (h : ledger.Has i) (j : ι) : (ledger.advance j).Has i := by
  have hupdate : ∀ {stage found k}, Function.update ledger.stage j stage k = .seen found →
      stage = .seen found ∨ ledger.stage k = .seen found := by
    intro stage found k hk
    by_cases hkj : k = j
    · rw [hkj, Function.update_self] at hk
      exact Or.inl hk
    · rw [Function.update_of_ne hkj] at hk
      exact Or.inr hk
  cases hj : ledger.stage j with
  | begun =>
    rw [advance_begun hj]
    refine ⟨h.kept, fun k other hk => ?_⟩
    rcases hupdate hk with hnew | hold
    · cases hnew
      exact h.kept
    · exact h.found k other hold
  | seen found =>
    rw [advance_seen hj]
    refine ⟨List.mem_append_left _ (h.found j found hj), fun k other hk => ?_⟩
    rcases hupdate hk with hnew | hold
    · cases hnew
    · exact h.found k other hold
  | ended result =>
    rw [advance_ended hj]
    exact h

theorem Ledger.Has.run (h : ledger.Has i) (schedule : List ι) : (ledger.run schedule).Has i := by
  induction schedule generalizing ledger with
  | nil => exact h
  | cons j rest ih => exact ih (h.advance j)

/-- The entry of a save that takes both turns while no other save is between its turns is kept, whatever follows. -/
theorem Ledger.has_of_alone (hbegun : ledger.stage i = .begun)
    (halone : ∀ j found, ledger.stage j ≠ .seen found) (schedule : List ι) :
    (ledger.run (i :: i :: schedule)).Has i := by
  have hboth : (ledger.advance i).advance i =
      ⟨ledger.kept ++ [i], Function.update ledger.stage i (.ended ())⟩ := by
    rw [advance_begun hbegun, advance_seen (Function.update_self ..), Function.update_idem]
  have hnow : ((ledger.advance i).advance i).Has i := by
    rw [hboth]
    refine ⟨List.mem_append_right _ (List.mem_singleton_self i), fun j found hj => ?_⟩
    by_cases hji : j = i
    · rw [hji] at hj
      simp only [Function.update_self] at hj
      cases hj
    · simp only [Function.update_of_ne hji] at hj
      exact absurd hj (halone j found)
  exact hnow.run schedule

omit [DecidableEq ι] in
/-- An entry with a key of its own is found if it is among those that were set, whatever was set after it. -/
theorem get?_entered (hkeys : ∀ j, (call j).key = (call i).key → j = i) {kept : List ι} (h : i ∈ kept) :
    (entered fields (kept.map call)).get? (call i).key = some (call i).value := by
  induction kept using List.reverseRecOn with
  | nil => cases h
  | append_singleton before j ih =>
    rw [List.map_append, List.map_singleton, entered_append_singleton, Json.get?_set]
    split
    · rename_i hkey
      rw [hkeys j hkey.symm]
    · rename_i hkey
      rcases List.mem_append.mp h with h | h
      · exact ih h
      · rw [List.mem_singleton.mp h] at hkey
        exact absurd rfl hkey

/-- **A save without overlap is kept**: its entry is found in the end, however many saves come before and after
it, if no other save was between its turns when it began and it ended before any other began. -/
theorem save_alone_kept (hholds : w.files.HoldsWithin limits file fields)
    (hcalls : ∀ i, (call i).Within limits) (hkeys : ∀ j, (call j).key = (call i).key → j = i)
    {before : List ι} (hsaves : saves = (Saves.start w).run file call before)
    (hbegun : saves.stage i = .begun) (halone : ∀ j stored, saves.stage j ≠ .seen stored) (after : List ι)
    {codec : Json.Codec} (hreads : limits.Reaches codec.reads) :
    ((TokenStore.get ⟨file, codec⟩ (call i).key).run (saves.run file call (i :: i :: after)).world).1 =
      .ok (call i).value := by
  have h : Follows limits file fields call (Ledger.start.run before) saves :=
    hsaves ▸ (follows_start hholds).run hholds hcalls before
  have hfirst : (Ledger.start.run before).stage i = .begun := by
    rw [h.stage_eq] at hbegun
    cases hledger : (Ledger.start.run before).stage i with
    | begun => rfl
    | _ => rw [hledger] at hbegun; cases hbegun
  have hnone : ∀ j found, (Ledger.start.run before).stage j ≠ .seen found := by
    intro j found hledger
    refine halone j (.obj (entered fields (found.map call))) ?_
    rw [h.stage_eq, hledger]
    rfl
  have hhas := Ledger.has_of_alone hfirst hnone after
  have hend := (h.run hholds hcalls (i :: i :: after)).holds
  rw [run_get ⟨file, codec⟩ hend hreads, get?_entered hkeys hhas.kept]
  rfl

/-! ### Two saves -/

/-- Two saves with two turns each: both end, the one that writes last is kept, and the other one is kept if it
ended before that one began. -/
theorem Ledger.run_two {schedule : List Bool} (hturns : ∀ i, schedule.count i = 2) :
    ∃ last, schedule.getLast? = some last ∧
      (Ledger.start.run schedule).kept =
        (if schedule = [!last, !last, last, last] then [!last, last] else [last]) ∧
      ∀ i, (Ledger.start.run schedule).stage i = .ended () := by
  have hlength : schedule.length = 4 := by
    rw [← List.count_true_add_count_false, hturns, hturns]
  match schedule, hlength with
  | [a, b, c, d], _ =>
    revert a b c d
    decide

/-- **Of two concurrent saves, the one that writes last is kept**, and the other one is lost without a failure
unless it ended before that one began.  All other entries stay as they were. -/
theorem two_saves {call : Bool → SaveCall} {schedule : List Bool}
    (hholds : w.files.HoldsWithin limits file fields) (hcalls : ∀ i, (call i).Within limits)
    (hturns : ∀ i, schedule.count i = 2) :
    ∃ last v, schedule.getLast? = some last ∧
      (Saves.start w).run file call schedule = ⟨v, fun _ => .ended (.ok ())⟩ ∧
      ∀ codec : Json.Codec, limits.Reaches codec.reads → ∀ key, (TokenStore.get ⟨file, codec⟩ key).run v =
        (.ok (if key = (call last).key then (call last).value
          else if key = (call !last).key ∧ schedule = [!last, !last, last, last] then (call !last).value
          else (fields.get? key).getD .null), v) := by
  have h : Follows limits file fields call (Ledger.start.run schedule)
      ((Saves.start w).run file call schedule) :=
    (follows_start hholds).run hholds hcalls schedule
  obtain ⟨last, hlast, hkept, hended⟩ := Ledger.run_two hturns
  have hstage : ((Saves.start w).run file call schedule).stage = fun _ => .ended (.ok ()) := by
    rw [h.stage]
    exact funext fun i => by rw [hended i]; rfl
  refine ⟨last, ((Saves.start w).run file call schedule).world, hlast, ?_, fun codec hreads key => ?_⟩
  · rw [← hstage]
  rw [run_get ⟨file, codec⟩ h.holds hreads, hkept]
  by_cases hserial : schedule = [!last, !last, last, last]
  · have hboth : entered fields ([!last, last].map call) =
        (fields.set (call !last).key (call !last).value).set (call last).key (call last).value := rfl
    rw [if_pos hserial, hboth, Json.get?_set, Json.get?_set]
    simp only [and_iff_left hserial]
    split_ifs <;> rfl
  · have hone : entered fields ([last].map call) = fields.set (call last).key (call last).value := rfl
    rw [if_neg hserial, hone, Json.get?_set]
    simp only [hserial, and_false, if_false]
    split_ifs <;> rfl

/-- Two accounts are saved concurrently into a new file, the second one by a writer with limits. -/
theorem two_saves_sign_in :
    let call : Bool → SaveCall := fun second =>
      if second then ⟨"forms:work", .obj [("token", .str "b")], ⟨⟨50, 4300⟩, some ⟨40, 4300⟩⟩⟩
      else ⟨"forms", .obj [("token", .str "a")], ⟨⟨60, 4300⟩, none⟩⟩
    let store : TokenStore := ⟨"tokens.json", ⟨⟨70, 4300⟩, none⟩⟩
    ∃ v, (Saves.start { now := Moment.epoch }).run store.file call [false, true, false, true] =
        ⟨v, fun _ => .ended (.ok ())⟩ ∧
      (store.get "forms:work").run v = (.ok (.obj [("token", .str "b")]), v) ∧
      (store.get "forms").run v = (.ok .null, v) := by
  intro call store
  have hplace : Files.filePlace [] store.file = .ok "tokens.json" := by decide +kernel
  have hholds : Files.HoldsWithin ⟨40, 4300⟩ [] store.file [] :=
    .absent (by decide +kernel) hplace
  have hstorable : ∀ text, (Json.obj [("token", .str text)]).Storable ⟨40, 4300⟩ := fun text =>
    Json.storable_obj (List.pairwise_singleton _ _)
      (List.forall_mem_singleton.mpr (Json.readable_str _ text))
  have hcalls : ∀ i, (call i).Within ⟨40, 4300⟩ := by
    intro i
    cases i
    · exact ⟨hstorable "a", ⟨⟨by decide, by decide⟩, nofun⟩⟩
    · refine ⟨hstorable "b", ⟨⟨by decide, by decide⟩, ?_⟩⟩
      rintro _ ⟨⟩
      exact ⟨by decide, by decide⟩
  have hturns : ∀ i, [false, true, false, true].count i = 2 := by decide
  obtain ⟨last, v, hlast, hrun, hget⟩ :=
    two_saves (w := { now := Moment.epoch }) hholds hcalls hturns
  obtain rfl : last = true := (Option.some.inj hlast).symm
  have hread := hget store.codec ⟨by decide, by decide⟩
  exact ⟨v, hrun, hread "forms:work", hread "forms"⟩

/-- Two saves that read before either writes: the first one to write is lost. -/
theorem two_saves_lose_one :
    let store : TokenStore := { file := "tokens.json" }
    let w : World := { now := Moment.epoch, files := [("tokens.json", "\x7b\x7d")] }
    let call : Bool → SaveCall := fun second =>
      if second then { key := "forms:work", value := .obj [("token", .str "b")] }
      else { key := "forms", value := .obj [("token", .str "a")] }
    let schedule := [false, true, false, true]
    let saves := (Saves.start w).run store.file call schedule
    (store.stored.run w).1 = .ok (.obj []) ∧ (call false).key ≠ (call true).key ∧
      (∀ i, schedule.count i = 2) ∧ (∀ i, saves.stage i = .ended (.ok ())) ∧
      ((store.get (call false).key).run saves.world).1 ≠ .ok (call false).value := by
  decide +kernel

end TokenStore
end Formwork
