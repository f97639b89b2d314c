import Formwork.Json.Codec
import Formwork.Proofs.Json.Members
import Formwork.Proofs.Json.RoundTrip

/-!
# Values within the limits of a codec

A value that is read within some limits is itself within them (`within_of_parseWithin`): the reader has entered every
container, and an integer is printed with no more digits than it was read with.  So it can be printed and read back
within the same limits (`Readable.parse_write`).  A writer fails exactly on the values beyond its limits
(`excess?_eq_none_iff`).

An object stays readable when members are set, if each value leaves a level for the object around it (`Storable`).
-/
namespace Formwork
namespace Json

variable {limits : Limits} {layout : Layout} {fields : Fields} {text : String} {v : Json}

theorem Plain.within (h : Plain limits.digits v) : Within limits v := by
  cases h with
  | null => exact .null
  | bool value => exact .bool value
  | float value => exact .float value
  | int hdigits => exact .int hdigits

theorem Within.set {levels digits : Nat} (h : Within ⟨levels + 1, digits⟩ (.obj fields))
    (hv : Within ⟨levels, digits⟩ v) (name : String) :
    Within ⟨levels + 1, digits⟩ (.obj (fields.set name v)) := by
  cases h with
  | obj hfields => exact .obj (forall_mem_set hfields hv)

theorem Within.of_member {levels digits : Nat} {name : String} {value : Json}
    (h : Within ⟨levels + 1, digits⟩ (.obj fields)) (hmem : (name, value) ∈ fields) :
    Within ⟨levels, digits⟩ value := by
  cases h with
  | obj hfields => exact hfields (name, value) hmem

theorem Within.of_item {levels digits : Nat} {items : List Json} {item : Json}
    (h : Within ⟨levels + 1, digits⟩ (.arr items)) (hmem : item ∈ items) : Within ⟨levels, digits⟩ item := by
  cases h with
  | arr hitems => exact hitems item hmem

theorem inherited_within : Inherited Within where
  str _ text := .str text
  plain h := h.within
  arr h := .arr h
  objNil _ _ := .obj (List.forall_mem_nil _)
  objSet h hv name := h.set hv name

/-- **A value that is read is within the limits of the reader.** -/
theorem within_of_parseWithin (h : parseWithin limits text = .ok v) : Within limits v := by
  obtain ⟨-, -, rest, hvalue, -⟩ := parseWithin_eq_ok.mp h
  exact inherited_within.of_value hvalue

/-! ### Readable values -/

/-- A value that is read back from its text within these limits. -/
structure Readable (limits : Limits) (v : Json) : Prop where
  tidy : Tidy v
  within : Within limits v

/-- A value that is readable as a member of an object, which takes one level. -/
def Storable (limits : Limits) (v : Json) : Prop :=
  ∃ levels, limits.levels = levels + 1 ∧ Readable ⟨levels, limits.digits⟩ v

theorem readable_of_parseWithin (h : parseWithin limits text = .ok v) : Readable limits v :=
  ⟨(denotes_of_parseWithin h).tidy, within_of_parseWithin h⟩

/-- **A readable value is read back from its text.** -/
theorem Readable.parse_write (h : Readable limits v) (hroomy : layout.Roomy) :
    parseWithin limits (v.write layout) = .ok v := by
  rw [parseWithin_write hroomy h.within, h.tidy.tidy_eq]

/-- The text of a value is read only if the value is within the limits. -/
theorem Tidy.within_of_parse_write {value : Json} (hv : Tidy v) (hroomy : layout.Roomy)
    (h : parseWithin limits (v.write layout) = .ok value) : Within limits v := by
  have hdenotes : Denotes (v.write layout) v := by
    have h := denotes_write hroomy v
    rwa [hv.tidy_eq] at h
  have hsame := (denotes_of_parseWithin h).unique hdenotes
  rw [← hsame]
  exact within_of_parseWithin h

/-- A power of ten has one digit more than zeros. -/
theorem lt_length_toDigits (k : Nat) (hk : 0 < k) : ¬ (Nat.toDigits 10 (10 ^ k)).length ≤ k := by
  rw [Nat.length_toDigits_le_iff (by decide) hk]
  exact Nat.lt_irrefl _

/-- **An object stays readable when a member is set.** -/
theorem Readable.set (h : Readable limits (.obj fields)) (hv : Storable limits v) (name : String) :
    Readable limits (.obj (fields.set name v)) := by
  obtain ⟨levels, digits⟩ := limits
  obtain ⟨inner, rfl, hv⟩ := hv
  exact ⟨h.tidy.set hv.tidy name, h.within.set hv.within name⟩

/-! ### Parts -/

variable {levels digits : Nat} {name : String} {value : Json}

theorem readable_null (limits : Limits) : Readable limits .null := ⟨.null, .null⟩

theorem readable_str (limits : Limits) (text : String) : Readable limits (.str text) :=
  ⟨.str text, .str text⟩

theorem readable_bool (limits : Limits) (value : Bool) : Readable limits (.bool value) :=
  ⟨.bool value, .bool value⟩

theorem readable_ofText? (limits : Limits) (text : Option String) : Readable limits (.ofText? text) := by
  cases text with
  | none => exact readable_null limits
  | some text => exact readable_str limits text

theorem readable_arr {items : List Json} (h : ∀ item ∈ items, Readable ⟨levels, digits⟩ item) :
    Readable ⟨levels + 1, digits⟩ (.arr items) :=
  ⟨.arr fun item hitem => (h item hitem).tidy, .arr fun item hitem => (h item hitem).within⟩

theorem readable_texts (levels digits : Nat) (texts : List String) :
    Readable ⟨levels + 1, digits⟩ (.texts texts) := by
  refine readable_arr fun item hitem => ?_
  obtain ⟨text, -, rfl⟩ := List.mem_map.mp hitem
  exact readable_str _ text

theorem readable_obj (hnodup : fields.names.Nodup)
    (h : ∀ field ∈ fields, Readable ⟨levels, digits⟩ field.2) :
    Readable ⟨levels + 1, digits⟩ (.obj fields) :=
  ⟨.obj hnodup fun field hfield => (h field hfield).tidy, .obj fun field hfield => (h field hfield).within⟩

/-- An object takes one level, and the object around it another. -/
theorem storable_obj (hnodup : fields.names.Nodup)
    (h : ∀ field ∈ fields, Readable ⟨levels, digits⟩ field.2) :
    Storable ⟨levels + 2, digits⟩ (.obj fields) :=
  ⟨levels + 1, rfl, readable_obj hnodup h⟩

theorem Storable.readable_obj_nil (h : Storable limits v) : Readable limits (.obj []) := by
  obtain ⟨levels, digits⟩ := limits
  obtain ⟨inner, rfl, -⟩ := h
  exact readable_obj List.nodup_nil (List.forall_mem_nil _)

/-- **A member is within one level less.** -/
theorem Readable.get? (h : Readable ⟨levels + 1, digits⟩ v) (hget : v.get? name = some value) :
    Readable ⟨levels, digits⟩ value := by
  cases v with
  | obj fields =>
    have hmem : (name, value) ∈ fields := Fields.mem_of_get? hget
    obtain ⟨htidy, hwithin⟩ := h
    cases htidy with
    | obj _ htidy =>
      cases hwithin with
      | obj hwithin => exact ⟨htidy _ hmem, hwithin _ hmem⟩
  | _ => cases hget

theorem Readable.getD_get? (h : Readable ⟨levels + 1, digits⟩ v) (name : String) :
    Readable ⟨levels, digits⟩ ((v.get? name).getD .null) := by
  cases hget : v.get? name with
  | none => exact readable_null _
  | some value => exact h.get? hget

/-! ### Writers -/

theorem excessInItems?_eq_none_iff {items : List Json} :
    excessInItems? limits items = none ↔ ∀ item ∈ items, item.excess? limits = none := by
  induction items with
  | nil => exact iff_of_true rfl (List.forall_mem_nil _)
  | cons item rest ih => rw [excessInItems?, Option.or_eq_none_iff, List.forall_mem_cons, ih]

theorem excessInFields?_eq_none_iff :
    excessInFields? limits fields = none ↔ ∀ field ∈ fields, field.2.excess? limits = none := by
  induction fields with
  | nil => exact iff_of_true rfl (List.forall_mem_nil _)
  | cons field rest ih => rw [excessInFields?, Option.or_eq_none_iff, List.forall_mem_cons, ih]

/-- **A writer fails exactly on the values beyond its limits.** -/
theorem excess?_eq_none_iff : v.excess? limits = none ↔ Within limits v := by
  induction v using induction generalizing limits with
  | null => exact iff_of_true rfl .null
  | bool value => exact iff_of_true rfl (.bool value)
  | int value =>
    rw [excess?]
    constructor
    · intro h
      split at h
      · cases h
      · rename_i hdigits
        exact .int (Nat.not_lt.mp hdigits)
    · intro h
      cases h with
      | int hdigits => exact if_neg (Nat.not_lt.mpr hdigits)
  | float value => exact iff_of_true rfl (.float value)
  | str value => exact iff_of_true rfl (.str value)
  | arr items ih =>
    obtain ⟨_ | levels, digits⟩ := limits
    · exact iff_of_false nofun nofun
    · refine excessInItems?_eq_none_iff.trans ⟨fun h => ?_, fun h => ?_⟩
      · exact .arr fun item hitem => (ih item hitem).mp (h item hitem)
      · exact fun item hitem => (ih item hitem).mpr (h.of_item hitem)
  | obj fields ih =>
    obtain ⟨_ | levels, digits⟩ := limits
    · exact iff_of_false nofun nofun
    · refine excessInFields?_eq_none_iff.trans ⟨fun h => ?_, fun h => ?_⟩
      · exact .obj fun field hfield => (ih field hfield).mp (h field hfield)
      · exact fun field hfield => (ih field hfield).mpr (h.of_member hfield)

/-- The limits of the reader and of the writer are at least these. -/
structure Codec.Covers (codec : Codec) (limits : Limits) : Prop where
  reads : limits.Reaches codec.reads
  writes : ∀ farther, codec.writes = some farther → limits.Reaches farther

/-- A reader with a writer that never fails. -/
theorem Codec.covers_reads (limits : Limits) : Codec.Covers { reads := limits } limits :=
  ⟨⟨Nat.le_refl _, Nat.le_refl _⟩, nofun⟩

/-- **A value within the limits can be written.** -/
theorem Codec.Covers.encode {codec : Codec} (h : codec.Covers limits) (hv : Within limits v) :
    codec.encode v = .ok (v.write .indented) :=
  encode_eq_ok.mpr ⟨fun farther hwrites => excess?_eq_none_iff.mpr (hv.mono (h.writes farther hwrites)), rfl⟩

end Json
end Formwork
