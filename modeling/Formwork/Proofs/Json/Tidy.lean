import Formwork.Json.Basic

/-!
# Tidy values

A value is tidy if no object in it has a key twice.  `Json.tidy` merges duplicate keys as a reader does: the last value,
in the place of the first.  It does not change a tidy value, and setting a member of a tidy object gives a tidy object
(`tidy_obj_set`).

`Json.induction` is induction over values with the items of an array, or the members of an object, taken all at once.
-/
namespace Formwork
namespace Json

/-- A property that holds of a value if it holds of its parts holds of every value. -/
@[elab_as_elim]
theorem induction {motive : Json → Prop} (null : motive .null)
    (bool : ∀ value, motive (.bool value)) (int : ∀ value, motive (.int value))
    (float : ∀ value, motive (.float value)) (str : ∀ value, motive (.str value))
    (arr : ∀ items, (∀ item ∈ items, motive item) → motive (.arr items))
    (obj : ∀ fields : Fields, (∀ field ∈ fields, motive field.2) → motive (.obj fields))
    (v : Json) : motive v := by
  refine Json.rec (motive_1 := motive) (motive_2 := fun items => ∀ item ∈ items, motive item)
    (motive_3 := fun fields => ∀ field ∈ fields, motive field.2)
    (motive_4 := fun field => motive field.2) null bool int float str arr obj
    nofun ?_ nofun ?_ (fun _ _ hvalue => hvalue) v
  · intro item rest hitem hrest
    exact List.forall_mem_cons.mpr ⟨hitem, hrest⟩
  · intro field rest hfield hrest
    exact List.forall_mem_cons.mpr ⟨hfield, hrest⟩

mutual
/-- The value with duplicate keys merged: the last value, in the place of the first. -/
def tidy : Json → Json
  | arr items => arr (tidyItems items)
  | obj fields => obj (tidyFields [] fields)
  | value => value

/-- The items, each of them tidy. -/
def tidyItems : List Json → List Json
  | [] => []
  | item :: rest => item.tidy :: tidyItems rest

/-- The members behind others, with duplicate keys merged and tidy values. -/
def tidyFields (before : Fields) : List (String × Json) → Fields
  | [] => before
  | (name, value) :: rest => tidyFields (before.set name value.tidy) rest
end

theorem tidyItems_eq_map (items : List Json) : tidyItems items = items.map tidy := by
  induction items with
  | nil => rfl
  | cons item rest ih => rw [tidyItems, ih, List.map_cons]

/-- No object in the value has a key twice. -/
inductive Tidy : Json → Prop
  | null : Tidy .null
  | bool (value : Bool) : Tidy (.bool value)
  | int (value : Int) : Tidy (.int value)
  | float (value : Binary64) : Tidy (.float value)
  | str (value : String) : Tidy (.str value)
  | arr {items : List Json} (h : ∀ item ∈ items, Tidy item) : Tidy (.arr items)
  | obj {fields : Fields} (nodup : fields.names.Nodup) (h : ∀ field ∈ fields, Tidy field.2) :
      Tidy (.obj fields)

/-! ### Setting members -/

variable {name : String} {value : Json} {before fields : Fields}

theorem get?_set (name : String) (value : Json) (fields : Fields) (other : String) :
    (fields.set name value).get? other = if other = name then some value else fields.get? other := by
  split
  · rename_i hname
    rw [hname, Fields.get?_set_self]
  · rename_i hname
    exact Fields.get?_set_of_ne hname value fields

/-- A new key is added at the end. -/
theorem set_of_notMem (h : name ∉ fields.names) : fields.set name value = fields ++ [(name, value)] := by
  induction fields with
  | nil => rfl
  | cons field rest ih =>
    rw [Fields.names, List.map_cons, List.mem_cons, not_or] at h
    rw [Fields.set, if_neg (Ne.symm h.1), ih h.2]
    rfl

/-- A key that is there keeps its place. -/
theorem names_set_of_mem (h : name ∈ fields.names) : (fields.set name value).names = fields.names := by
  induction fields with
  | nil => cases h
  | cons field rest ih =>
    unfold Fields.set
    split
    · rfl
    · rename_i hne
      rw [Fields.names, List.map_cons, List.mem_cons] at h
      rcases h with rfl | h
      · exact absurd rfl hne
      · exact congrArg (field.1 :: ·) (ih h)

theorem nodup_names_set (h : fields.names.Nodup) : (fields.set name value).names.Nodup := by
  by_cases hmem : name ∈ fields.names
  · rw [names_set_of_mem hmem]
    exact h
  · rw [set_of_notMem hmem, Fields.names, List.map_append]
    refine List.nodup_append.mpr ⟨h, List.pairwise_singleton _ _, fun other hother new hnew hsame => ?_⟩
    rw [hsame, List.mem_singleton.mp hnew] at hother
    exact hmem hother

theorem mem_set {field : String × Json} (h : field ∈ fields.set name value) :
    field.2 = value ∨ field ∈ fields := by
  induction fields with
  | nil => exact Or.inl (congrArg Prod.snd (List.mem_singleton.mp h))
  | cons first rest ih =>
    unfold Fields.set at h
    split at h
    · rcases List.mem_cons.mp h with rfl | h
      · exact Or.inl rfl
      · exact Or.inr (List.mem_cons_of_mem _ h)
    · rcases List.mem_cons.mp h with rfl | h
      · exact Or.inr List.mem_cons_self
      · exact (ih h).imp_right (List.mem_cons_of_mem _)

/-- A property of all values and of the one that is set holds of all values afterwards. -/
theorem forall_mem_set {p : Json → Prop} (h : ∀ field ∈ fields, p field.2) (hvalue : p value) :
    ∀ field ∈ fields.set name value, p field.2 := by
  intro field hfield
  rcases mem_set hfield with hset | hfield
  · exact hset ▸ hvalue
  · exact h field hfield

theorem Tidy.set (h : Tidy (.obj fields)) (hvalue : Tidy value) (name : String) :
    Tidy (.obj (fields.set name value)) := by
  obtain ⟨hnodup, hfields⟩ : fields.names.Nodup ∧ ∀ field ∈ fields, Tidy field.2 := by
    cases h with
    | obj hnodup hfields => exact ⟨hnodup, hfields⟩
  exact .obj (nodup_names_set hnodup) (forall_mem_set hfields hvalue)

/-! ### Tidy values are unchanged -/

/-- A member with a tidy value. -/
def tidyField (field : String × Json) : String × Json := (field.1, field.2.tidy)

theorem map_tidyField_set (name : String) (value : Json) (fields : Fields) :
    (fields.set name value).map tidyField = Fields.set name value.tidy (fields.map tidyField) := by
  induction fields with
  | nil => rfl
  | cons field rest ih =>
    show _ = Fields.set name value.tidy ((field.1, field.2.tidy) :: rest.map tidyField)
    unfold Fields.set
    split
    · rfl
    · exact congrArg (tidyField field :: ·) ih

/-- Members with distinct keys keep their places. -/
theorem tidyFields_of_nodup (before : Fields) (h : (before ++ fields).names.Nodup) :
    tidyFields before fields = before ++ fields.map tidyField := by
  induction fields generalizing before with
  | nil => exact (List.append_nil _).symm
  | cons field rest ih =>
    have hnew : field.1 ∉ before.names := by
      rw [Fields.names, List.map_append, List.nodup_append] at h
      exact fun hmem => h.2.2 _ hmem _ List.mem_cons_self rfl
    have hnames : (before ++ [(field.1, field.2.tidy)] ++ rest).names = (before ++ field :: rest).names := by
      simp [Fields.names]
    rw [tidyFields, set_of_notMem hnew, ih _ (hnames ▸ h), List.append_assoc]
    rfl

theorem tidy_obj_of_nodup (h : fields.names.Nodup) :
    (Json.obj fields).tidy = .obj (fields.map tidyField) := by
  rw [tidy, tidyFields_of_nodup [] h, List.nil_append]

theorem Tidy.tidy_eq {v : Json} (h : Tidy v) : v.tidy = v := by
  induction v using induction with
  | null => rfl
  | bool value => rfl
  | int value => rfl
  | float value => rfl
  | str value => rfl
  | arr items ih =>
    cases h with
    | arr hitems =>
      rw [tidy, tidyItems_eq_map, List.map_congr_left fun item hitem => ih item hitem (hitems item hitem)]
      exact congrArg Json.arr (List.map_id _)
  | obj fields ih =>
    cases h with
    | obj hnodup hfields =>
      have hsame : ∀ field ∈ fields, tidyField field = field := fun field hfield =>
        congrArg (Prod.mk field.1) (ih field hfield (hfields field hfield))
      rw [tidy_obj_of_nodup hnodup, List.map_congr_left hsame]
      exact congrArg Json.obj (List.map_id _)

/-- **Setting a member of a tidy object makes at most that member untidy.** -/
theorem Tidy.tidy_obj_set (h : Tidy (.obj fields)) (name : String) (value : Json) :
    (Json.obj (fields.set name value)).tidy = .obj (fields.set name value.tidy) := by
  have hsame := h.tidy_eq
  cases h with
  | obj hnodup hfields =>
    rw [tidy_obj_of_nodup hnodup] at hsame
    rw [tidy_obj_of_nodup (nodup_names_set hnodup), map_tidyField_set, Json.obj.inj hsame]

end Json
end Formwork
