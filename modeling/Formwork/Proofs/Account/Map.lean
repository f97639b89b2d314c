import Formwork.Proofs.Account.Name
import Formwork.Proofs.Account.Saves

/-!
# The token store is a map

Every save reads the whole token file and writes it again.  The store is a map all the same: after any sequence of
saves, the last value that was saved under a key is found there, and the initial members are found under all other
keys (`store_is_map`).  The accounts are listed in the order in which their keys came into the file.

This holds within any limits that the reader and the writer of every call reach.  Keys, values and the file are strings
of Unicode characters, without halves of surrogate pairs.  Where the file holds no object that the reader reads, a save
fails and changes nothing (`run_save_of_no_object`).
-/
namespace Formwork
namespace TokenStore

variable {store : TokenStore} {file : String} {limits : Json.Limits} {fields : Fields} {w v : World}
  {calls : List SaveCall}

/-! ### Members -/

/-- The last value that was saved under a key, if any was. -/
def lastSaved (calls : List SaveCall) (key : String) : Option Json :=
  (calls.filter (·.key = key)).getLast?.map SaveCall.value

theorem lastSaved_append_singleton (calls : List SaveCall) (call : SaveCall) (key : String) :
    lastSaved (calls ++ [call]) key =
      if key = call.key then some call.value else lastSaved calls key := by
  rw [lastSaved, List.filter_append]
  by_cases h : key = call.key
  · have hlast : [call].filter (·.key = key) = [call] := List.filter_eq_self.mpr (by simp [h])
    rw [if_pos h, hlast, List.getLast?_concat]
    rfl
  · have hnone : [call].filter (·.key = key) = [] := List.filter_eq_nil_iff.mpr (by simp [Ne.symm h])
    rw [if_neg h, hnone, List.append_nil]
    rfl

/-- The value under a key is the one that was set last, or else the initial one. -/
theorem get?_entered_eq (fields : Fields) (calls : List SaveCall) (key : String) :
    (entered fields calls).get? key = (lastSaved calls key).or (fields.get? key) := by
  induction calls using List.reverseRecOn with
  | nil => rfl
  | append_singleton calls call ih =>
    rw [entered_append_singleton, Json.get?_set, lastSaved_append_singleton, ih]
    split
    · rfl
    · rfl

/-- The keys that are new, in the order of their first calls. -/
def newKeys (fields : Fields) (calls : List SaveCall) : List String :=
  ((calls.map SaveCall.key).filter (· ∉ fields.names)).eraseDups

theorem newKeys_append_singleton (fields : Fields) (calls : List SaveCall) (call : SaveCall) :
    newKeys fields (calls ++ [call]) =
      if call.key ∈ fields.names ++ newKeys fields calls then newKeys fields calls
      else newKeys fields calls ++ [call.key] := by
  rw [newKeys, List.map_append, List.filter_append]
  by_cases hold : call.key ∈ fields.names
  · rw [if_pos (List.mem_append_left _ hold)]
    simp [newKeys, hold]
  · have hmem : call.key ∈ fields.names ++ newKeys fields calls ↔
        call.key ∈ (calls.map SaveCall.key).filter (· ∉ fields.names) := by
      rw [List.mem_append, or_iff_right hold, newKeys, List.mem_eraseDups]
    have hnew : ([call].map SaveCall.key).filter (· ∉ fields.names) = [call.key] := by simp [hold]
    rw [hnew, Stored.eraseDups_append_singleton]
    simp only [hmem]
    rfl

/-- New keys come behind the initial ones. -/
theorem names_entered (fields : Fields) (calls : List SaveCall) :
    (entered fields calls).names = fields.names ++ newKeys fields calls := by
  induction calls using List.reverseRecOn with
  | nil => exact (List.append_nil _).symm
  | append_singleton calls call ih =>
    rw [entered_append_singleton, newKeys_append_singleton]
    by_cases hmem : call.key ∈ fields.names ++ newKeys fields calls
    · rw [if_pos hmem, ← ih]
      exact Json.names_set_of_mem (ih ▸ hmem)
    · rw [if_neg hmem, ← List.append_assoc, ← ih, Json.set_of_notMem (ih ▸ hmem), Fields.names, List.map_append]
      rfl

/-! ### Runs -/

/-- Saves one after the other, each of which succeeds. -/
inductive Saved (file : String) : World → List SaveCall → World → Prop
  | nil (w : World) : Saved file w [] w
  | cons {w u v : World} {call : SaveCall} {rest : List SaveCall}
      (save : ((call.store file).save call.key call.value).run w = (.ok (), u)) (more : Saved file u rest v) :
      Saved file w (call :: rest) v

/-- A save succeeds where the file holds an object, and sets a member of it. -/
theorem exists_run_save {call : SaveCall} (hholds : w.files.HoldsWithin limits file fields)
    (hcall : call.Within limits) :
    ∃ v, ((call.store file).save call.key call.value).run w = (.ok (), v) ∧
      v.files.HoldsWithin limits file (fields.set call.key call.value) := by
  have hfields := hholds.readable hcall.value.readable_obj_nil
  obtain ⟨files, hput, hset⟩ := (call.store file).run_put hholds hcall.codec hfields hcall.value call.key
  refine ⟨w.withFiles files, ?_, hset⟩
  rw [save_eq_put, Act.run_bind_ok ((call.store file).run_stored hholds hcall.codec.reads)]
  exact hput

/-- **Any sequence of saves succeeds**, and sets one member after the other. -/
theorem exists_saved (hholds : w.files.HoldsWithin limits file fields)
    (hcalls : ∀ call ∈ calls, call.Within limits) :
    ∃ v, Saved file w calls v ∧ v.files.HoldsWithin limits file (entered fields calls) := by
  induction calls generalizing w fields with
  | nil => exact ⟨w, .nil w, hholds⟩
  | cons call rest ih =>
    obtain ⟨hcall, hrest⟩ := List.forall_mem_cons.mp hcalls
    obtain ⟨u, hsave, hset⟩ := exists_run_save hholds hcall
    obtain ⟨v, hsaved, hend⟩ := ih hset hrest
    exact ⟨v, .cons hsave hsaved, hend⟩

theorem run_accounts (store : TokenStore) (h : w.files.HoldsWithin limits store.file fields)
    (hreads : limits.Reaches store.codec.reads) :
    store.accounts.run w = (.ok (fields.names.filterMap Account.ofKey?), w) := by
  rw [accounts, Act.run_bind_ok (store.run_stored h hreads), Stored.accounts_obj]
  rfl

/-- **Where the file holds no object that can be read, a save fails** and leaves the world as it is. -/
theorem run_save_of_no_object {text : String} (hread : w.files.read store.file = .ok text)
    (h : ∀ fields, Json.parseWithin store.codec.reads text ≠ .ok (.obj fields)) (key : String) (value : Json) :
    ∃ failure, (store.save key value).run w = (.error failure, w) := by
  rcases hrun : (store.save key value).run w with ⟨result, v⟩
  rcases save_cases hrun with ⟨rfl, failure, rfl⟩ | ⟨fields, files, -, -, hstored, -⟩
  · exact ⟨failure, rfl⟩
  · obtain ⟨-, ⟨habsent, -⟩ | ⟨found, hfound, hparse⟩⟩ := run_stored_eq_ok.mp hstored
    · cases habsent.symm.trans (Files.isThere_of_read hread)
    · cases hread.symm.trans hfound
      exact absurd hparse (h fields)

/-! ### The map -/

/-- **The token store is a map.**  Where its file can be made or holds an object, any saves succeed that keep
within limits which each call reaches, and afterwards the value under each key is the one that was saved last, or
else the initial one.  The accounts are listed in the order of their keys: the initial ones, and then the new ones
as they came.  Where the file holds no object that can be read, a save fails and the world stays as it is. -/
theorem store_is_map (file : String) (w : World) :
    (∀ limits fields calls, w.files.HoldsWithin limits file fields → (∀ call ∈ calls, call.Within limits) →
      ∃ v, Saved file w calls v ∧ ∀ codec : Json.Codec, limits.Reaches codec.reads →
        (∀ key, (TokenStore.get ⟨file, codec⟩ key).run v =
          (.ok (((lastSaved calls key).or (fields.get? key)).getD .null), v)) ∧
        (TokenStore.accounts ⟨file, codec⟩).run v =
          (.ok ((fields.names ++ newKeys fields calls).filterMap Account.ofKey?), v)) ∧
    (Account.ofKey? "forms" = some "default" ∧ (∀ rest, Account.ofKey? ("forms:" ++ rest) = some rest) ∧
      ∀ key, key ≠ "forms" → (∀ rest, key ≠ "forms:" ++ rest) → Account.ofKey? key = none) ∧
    ∀ (codec : Json.Codec) text, w.files.read file = .ok text →
      (∀ fields, Json.parseWithin codec.reads text ≠ .ok (.obj fields)) →
      ∀ key value, ∃ failure, (TokenStore.save ⟨file, codec⟩ key value).run w = (.error failure, w) := by
  refine ⟨fun limits fields calls hholds hcalls => ?_, ⟨rfl, Account.ofKey?_keyStart_append,
    fun key => Account.ofKey?_eq_none⟩, fun codec text hread h => run_save_of_no_object hread h⟩
  obtain ⟨v, hsaved, hend⟩ := exists_saved hholds hcalls
  refine ⟨v, hsaved, fun codec hreads => ⟨fun key => ?_, ?_⟩⟩
  · rw [run_get ⟨file, codec⟩ hend hreads, get?_entered_eq]
  · rw [run_accounts ⟨file, codec⟩ hend hreads, names_entered]

/-- Two accounts are saved, one of them twice, beside an entry that belongs to no account. -/
theorem store_is_map_sign_in :
    let store : TokenStore := ⟨"tokens.json", ⟨⟨60, 4300⟩, none⟩⟩
    let token : String → Json := fun text => .obj [("token", .str text)]
    let codec : Json.Codec := ⟨⟨50, 4300⟩, some ⟨40, 4300⟩⟩
    let calls : List SaveCall :=
      [⟨"forms:work", token "a", codec⟩, ⟨"forms", token "b", codec⟩, ⟨"forms:work", token "c", codec⟩]
    let w : World := { now := Moment.epoch, files := [("tokens.json", "\x7b\"note\": [1, null]\x7d")] }
    ∃ v, Saved store.file w calls v ∧
      (store.get "forms:work").run v = (.ok (token "c"), v) ∧
      (store.get "note").run v = (.ok (.arr [.int 1, .null]), v) ∧
      store.accounts.run v = (.ok ["work", "default"], v) := by
  intro store token codec calls w
  have hread : w.files.read store.file = .ok "\x7b\"note\": [1, null]\x7d" := by decide +kernel
  have hparse : Json.parseWithin ⟨40, 4300⟩ "\x7b\"note\": [1, null]\x7d" =
      .ok (.obj [("note", .arr [.int 1, .null])]) := by
    decide +kernel
  have hcodec : codec.Covers ⟨40, 4300⟩ := by
    refine ⟨⟨by decide, by decide⟩, ?_⟩
    rintro _ ⟨⟩
    exact ⟨Nat.le_refl _, Nat.le_refl _⟩
  have hwithin : ∀ key text, SaveCall.Within ⟨40, 4300⟩ ⟨key, token text, codec⟩ := fun key text =>
    ⟨Json.storable_obj (List.pairwise_singleton _ _)
      (List.forall_mem_singleton.mpr (Json.readable_str _ text)), hcodec⟩
  obtain ⟨v, hsaved, hfound⟩ := (store_is_map store.file w).1 ⟨40, 4300⟩ _ calls (.present hread hparse)
    (by simp only [calls, List.forall_mem_cons, hwithin, List.not_mem_nil, false_imp_iff, implies_true, and_self])
  obtain ⟨hget, haccounts⟩ := hfound store.codec ⟨by decide, by decide⟩
  have hkeys : newKeys [("note", .arr [.int 1, .null])] calls = ["forms:work", "forms"] := by
    decide +kernel
  rw [hkeys] at haccounts
  exact ⟨v, hsaved, hget "forms:work", hget "note", haccounts⟩

/-- The file holds an object with an integer that is too long for the reader, or is to be made in a directory that
does not exist: no save succeeds. -/
theorem saves_out_of_reach :
    let store : TokenStore := { file := "tokens.json" }
    let token : Json := .obj [("token", .str "b")]
    let fields : Fields := [("forms", .int (10 ^ 4300 : Nat))]
    let w : World := { now := Moment.epoch, files := [("tokens.json", (Json.obj fields).write .indented)] }
    let astray : TokenStore := { file := "missing/tokens.json" }
    let u : World := { now := Moment.epoch }
    (∃ text, w.files.read store.file = .ok text ∧ Json.Denotes text (.obj fields)) ∧
      (∃ failure, (store.save "forms:work" token).run w = (.error failure, w)) ∧
      u.files.isThere astray.file = .ok false ∧
      (astray.save "forms:work" token).run u = (.error (Problem.badFile .missing astray.file), u) := by
  intro store token fields w astray u
  have hplace : Files.filePlace [] store.file = .ok "tokens.json" := by decide +kernel
  have hread : w.files.read store.file = .ok ((Json.obj fields).write .indented) :=
    Files.read_of_save (Files.save_eq hplace) (Json.return_notMem_indented _)
  have hdenotes : Json.Denotes ((Json.obj fields).write .indented) (.obj fields) :=
    Json.denotes_write Json.Layout.roomy_indented (.obj fields)
  have hrefused : ∀ found, Json.parseWithin store.codec.reads ((Json.obj fields).write .indented) ≠
      .ok (.obj found) := by
    intro found hparse
    have hwithin := hdenotes.tidy.within_of_parse_write Json.Layout.roomy_indented hparse
    cases hwithin.of_member List.mem_cons_self with
    | int hdigits => exact Json.lt_length_toDigits 4300 (by decide) hdigits
  have hastray : u.files.filePlace astray.file = .error (.badFile .missing astray.file) := by decide +kernel
  have habsent : u.files.isThere astray.file = .ok false := by decide +kernel
  have hstored : astray.stored.run u = (.ok (.obj []), u) :=
    run_stored_eq_ok.mpr ⟨rfl, Or.inl ⟨habsent, rfl⟩⟩
  refine ⟨⟨_, hread, hdenotes⟩, run_save_of_no_object hread hrefused _ _, habsent, ?_⟩
  rw [save_eq_put, Act.run_bind_ok hstored]
  show (World.saveText astray.file _).run u = _
  rw [World.run_saveText, Files.save, hastray]
  rfl

end TokenStore
end Formwork
