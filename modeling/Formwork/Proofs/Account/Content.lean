import Formwork.Proofs.Account.Token
import Formwork.Proofs.Files.Saving
import Formwork.Proofs.Json.Readable

/-!
# The members of the token file

The token file holds the members of the object that its text denotes, and none if it does not exist (`Files.Holds`).
`TokenStore.save` writes the whole file.  All the same every other member is as before, since every value in the file
is read back from its own text, and a save that fails leaves the file as it was (`TokenStore.save_holds`).

Readers have limits, and so may writers.  What the file holds within some limits (`Files.HoldsWithin`) is found by
every store that reads as far (`TokenStore.run_stored`), and a value that keeps within them can be saved beside it by
every store that writes as far (`TokenStore.run_put`).
-/
namespace Formwork

/-- The file of this name holds these members: none if it does not exist, or else those of the object that its
text denotes. -/
inductive Files.Holds (files : Files) (name : String) : Fields → Prop
  | absent (h : files.isThere name = .ok false) : Holds files name []
  | present {text : String} {fields : Fields} (h : files.read name = .ok text)
      (denotes : Json.Denotes text (.obj fields)) : Holds files name fields

/-- Within these limits the file of this name holds these members: none if it does not exist but can be made, or
else those of the object that its text is read as. -/
inductive Files.HoldsWithin (limits : Json.Limits) (files : Files) (name : String) : Fields → Prop
  | absent {place : String} (there : files.isThere name = .ok false)
      (place : files.filePlace name = .ok place) : HoldsWithin limits files name []
  | present {text : String} {fields : Fields} (reads : files.read name = .ok text)
      (parses : Json.parseWithin limits text = .ok (.obj fields)) : HoldsWithin limits files name fields

namespace Files

variable {files : Files} {name : String} {fields more : Fields} {limits : Json.Limits}

theorem isThere_of_read {text : String} (h : files.read name = .ok text) : files.isThere name = .ok true := by
  unfold read filePlace at h
  unfold isThere
  rcases hplace : files.place name with fault | place
  · rw [hplace] at h
    cases h
  · rw [hplace] at h
    simp only at h ⊢
    split at h
    · cases h
    · simp only [bind, Except.bind] at h
      rcases hfile : files.text? place with _ | old
      · rw [hfile] at h
        cases h
      · rfl

/-- **The members that a file holds are unique.** -/
theorem Holds.unique (h : files.Holds name fields) (h' : files.Holds name more) : fields = more := by
  cases h with
  | absent hthere =>
    cases h' with
    | absent => rfl
    | present hread =>
      rw [isThere_of_read hread] at hthere
      cases hthere
  | present hread hdenotes =>
    cases h' with
    | absent hthere =>
      rw [isThere_of_read hread] at hthere
      cases hthere
    | present hread' hdenotes' =>
      cases hread.symm.trans hread'
      exact Json.obj.inj (hdenotes.unique hdenotes')

theorem Holds.tidy (h : files.Holds name fields) : Json.Tidy (.obj fields) := by
  cases h with
  | absent => exact Json.tidy_obj_nil
  | present _ hdenotes => exact hdenotes.tidy

theorem HoldsWithin.exists_place (h : files.HoldsWithin limits name fields) :
    ∃ place, files.filePlace name = .ok place := by
  cases h with
  | absent _ place => exact ⟨_, place⟩
  | present reads _ => exact filePlace_of_read reads

/-- The object of the members that a file holds can be written and read again, if an object can be. -/
theorem HoldsWithin.readable (h : files.HoldsWithin limits name fields)
    (hempty : Json.Readable limits (.obj [])) : Json.Readable limits (.obj fields) := by
  cases h with
  | absent => exact hempty
  | present _ parses => exact Json.readable_of_parseWithin parses

end Files

namespace TokenStore

variable {store : TokenStore} {key : String} {value : Json} {fields found : Fields} {limits : Json.Limits}
  {w v : World}

/-- The value of a store: the empty object if its file does not exist, or else the value that its text is read as. -/
theorem run_stored_eq_ok {stored : Json} : store.stored.run w = (.ok stored, v) ↔ v = w ∧
    (w.files.isThere store.file = .ok false ∧ stored = .obj [] ∨
      ∃ text, w.files.read store.file = .ok text ∧
        Json.parseWithin store.codec.reads text = .ok stored) := by
  have hlook : ∀ {there}, w.files.isThere store.file = .ok there →
      (World.isThere store.file).run w = (.ok there, w) :=
    fun h => Act.run_ofProblem_eq_ok.mpr ⟨h, rfl⟩
  constructor
  · intro h
    obtain ⟨there, u, hthere, hrest⟩ := Act.run_bind_eq_ok.mp h
    replace hthere : (Act.ofProblem (w.files.isThere store.file)).run w = (.ok there, u) := hthere
    obtain ⟨hthere, rfl⟩ := Act.run_ofProblem_eq_ok.mp hthere
    cases there with
    | false =>
      cases hrest
      exact ⟨rfl, Or.inl ⟨hthere, rfl⟩⟩
    | true =>
      obtain ⟨text, t, htake, hparse⟩ := Act.run_bind_eq_ok.mp hrest
      replace htake : (Act.ofProblem (u.files.read store.file)).run u = (.ok text, t) := htake
      obtain ⟨hread, rfl⟩ := Act.run_ofProblem_eq_ok.mp htake
      obtain ⟨hvalue, rfl⟩ := Act.run_ofProblem_eq_ok.mp hparse
      exact ⟨rfl, Or.inr ⟨text, hread, Act.mapError_eq_ok.mp hvalue⟩⟩
  · rintro ⟨rfl, ⟨hthere, rfl⟩ | ⟨text, hread, hparse⟩⟩
    · rw [stored, Act.run_bind_ok (hlook hthere)]
      rfl
    · have htake : (World.fileText store.file).run v = (.ok text, v) :=
        Act.run_ofProblem_eq_ok.mpr ⟨hread, rfl⟩
      rw [TokenStore.stored, Act.run_bind_ok (hlook (Files.isThere_of_read hread)), if_pos rfl,
        Act.run_bind_ok htake]
      exact Act.run_ofProblem_eq_ok.mpr ⟨Act.mapError_eq_ok.mpr hparse, rfl⟩

/-- The value of a store is the object of the members that its file holds. -/
theorem holds_of_stored (h : store.stored.run w = (.ok (.obj fields), v)) :
    w.files.Holds store.file fields := by
  obtain ⟨-, ⟨hthere, hempty⟩ | ⟨text, hread, hparse⟩⟩ := run_stored_eq_ok.mp h
  · cases hempty
    exact .absent hthere
  · exact .present hread (Json.denotes_of_parseWithin hparse)

/-- **A save fails and leaves the world as it is, or sets one member of the file.** -/
theorem save_holds {result : Except Failure Unit} (h : (store.save key value).run w = (result, v)) :
    (v = w ∧ ∃ failure, result = .error failure) ∨ ∃ files fields, result = .ok () ∧
      v = w.withFiles files ∧ w.files.Holds store.file fields ∧
      files.Holds store.file (fields.set key value.tidy) := by
  rcases save_cases h with hfailed | ⟨fields, files, hresult, hfiles, hstored, hsave⟩
  · exact Or.inl hfailed
  have hholds := holds_of_stored hstored
  have hreturn := Json.return_notMem_indented (.obj (Fields.set key value fields))
  have hdenotes := Json.denotes_write Json.Layout.roomy_indented (.obj (Fields.set key value fields))
  rw [hholds.tidy.tidy_obj_set] at hdenotes
  exact Or.inr ⟨files, fields, hresult, hfiles, hholds,
    .present (Files.read_of_save hsave hreturn) hdenotes⟩

/-! ### Stores with sufficient limits -/

/-- **What the file holds within some limits is found by every store that reads as far.** -/
theorem run_stored (store : TokenStore) (h : w.files.HoldsWithin limits store.file fields)
    (hreads : limits.Reaches store.codec.reads) : store.stored.run w = (.ok (.obj fields), w) := by
  refine run_stored_eq_ok.mpr ⟨rfl, ?_⟩
  cases h with
  | absent there _ => exact Or.inl ⟨there, rfl⟩
  | present reads parses => exact Or.inr ⟨_, reads, Json.parseWithin_mono hreads parses⟩

/-- What a store finds, its file holds within the limits of the reader, if the file can be made. -/
theorem holdsWithin_of_stored {place : String} (h : store.stored.run w = (.ok (.obj fields), v))
    (hplace : w.files.filePlace store.file = .ok place) :
    w.files.HoldsWithin store.codec.reads store.file fields := by
  obtain ⟨-, ⟨hthere, hempty⟩ | ⟨text, hread, hparse⟩⟩ := run_stored_eq_ok.mp h
  · cases hempty
    exact .absent hthere hplace
  · exact .present hread hparse

theorem run_get (store : TokenStore) (h : w.files.HoldsWithin limits store.file fields)
    (hreads : limits.Reaches store.codec.reads) (key : String) :
    (store.get key).run w = (.ok ((fields.get? key).getD .null), w) := by
  rw [get, Act.run_bind_ok (store.run_stored h hreads)]
  rfl

/-- The second half of a save: the member is set in the value that was read, and the file is written. -/
def put (store : TokenStore) (key : String) (value stored : Json) : Act World Unit := do
  let changed ← .ofProblem (Stored.set key value stored)
  let text ← .ofProblem (store.codec.encode changed)
  World.saveText store.file text

/-- A save is a read of the whole file and then a write of the whole file. -/
theorem save_eq_put (store : TokenStore) (key : String) (value : Json) :
    store.save key value = store.stored >>= store.put key value := rfl

/-- **A value is saved by every store with sufficient limits**: the file then holds the members that were read,
with the value set in them, whatever it held itself. -/
theorem run_put (store : TokenStore) (h : w.files.HoldsWithin limits store.file fields)
    (hcodec : store.codec.Covers limits) (hfound : Json.Readable limits (.obj found)) (hvalue : value.Storable limits)
    (key : String) :
    ∃ files, (store.put key value (.obj found)).run w = (.ok (), w.withFiles files) ∧
      files.HoldsWithin limits store.file (found.set key value) := by
  obtain ⟨place, hplace⟩ := h.exists_place
  have hset := hfound.set hvalue key
  have hencode := hcodec.encode hset.within
  have hparse := hset.parse_write Json.Layout.roomy_indented
  have hreturn := Json.return_notMem_indented (.obj (found.set key value))
  generalize (Json.obj (found.set key value)).write .indented = text at hencode hparse hreturn
  have hsave : w.files.save store.file text = .ok (w.files.write place text) := Files.save_eq hplace
  refine ⟨w.files.write place text, ?_, .present (Files.read_of_save hsave hreturn) hparse⟩
  show (Act.ofProblem (store.codec.encode (.obj (found.set key value))) >>= World.saveText store.file).run w = _
  rw [Act.run_bind_ok (Act.run_ofProblem_eq_ok.mpr ⟨hencode, rfl⟩), World.run_saveText, hsave]

end TokenStore
end Formwork
