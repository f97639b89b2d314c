import Formwork.Json.Basic

/-!
# Lookup of members

The lookup of a key finds the first member with it.  So members with other keys in front of it, and all members behind
it, do not matter.
-/
namespace Formwork
namespace Fields

variable {before behind fields : Fields} {key name : String} {value : Json}

theorem get?_append (before behind : Fields) (name : String) :
    (before ++ behind).get? name = (before.get? name).or (behind.get? name) := by
  induction before with
  | nil => rfl
  | cons field rest ih =>
    rw [List.cons_append, get?, get?]
    split
    · rfl
    · exact ih

theorem get?_cons_of_ne (h : key ≠ name) (value : Json) (fields : Fields) :
    get? name ((key, value) :: fields) = fields.get? name := if_neg h

theorem get?_cons_self (key : String) (value : Json) (fields : Fields) :
    get? key ((key, value) :: fields) = some value := if_pos rfl

theorem get?_eq_none_iff : fields.get? name = none ↔ name ∉ fields.names := by
  induction fields with
  | nil => exact ⟨fun _ => List.not_mem_nil, fun _ => rfl⟩
  | cons field rest ih =>
    obtain ⟨key, value⟩ := field
    rw [names, List.map_cons, List.mem_cons, not_or]
    by_cases h : key = name
    · rw [h, get?_cons_self]
      exact ⟨nofun, fun hname => absurd rfl hname.1⟩
    · rw [get?_cons_of_ne h, ih]
      exact ⟨fun hrest => ⟨Ne.symm h, hrest⟩, fun hname => hname.2⟩

/-- A member with another key is skipped. -/
theorem get?_insert_of_ne (h : key ≠ name) (before behind : Fields) (value : Json) :
    (before ++ (key, value) :: behind).get? name = (before ++ behind).get? name := by
  rw [get?_append, get?_append, get?_cons_of_ne h]

/-- Members with different keys may change places. -/
theorem get?_swap {first second : String × Json} (h : first.1 ≠ second.1) (before behind : Fields)
    (name : String) : (before ++ first :: second :: behind).get? name =
      (before ++ second :: first :: behind).get? name := by
  by_cases hname : first.1 = name
  · have hsecond : second.1 ≠ name := hname ▸ h.symm
    rw [get?_append, get?_append, get?_cons_of_ne hsecond, ← hname, get?_cons_self, get?_cons_self]
  · rw [get?_append, get?_append, get?_cons_of_ne hname]
    by_cases hsecond : second.1 = name
    · rw [← hsecond, get?_cons_self, get?_cons_self]
    · rw [get?_cons_of_ne hsecond, get?_cons_of_ne hsecond, get?_cons_of_ne hname]

/-- A member is found if its key does not occur before. -/
theorem get?_insert_self (h : key ∉ (before ++ behind).names) (value : Json) :
    (before ++ (key, value) :: behind).get? key = some value := by
  have hbefore : before.get? key = none := by
    rw [get?_eq_none_iff]
    intro hmem
    refine h ?_
    rw [names, List.map_append]
    exact List.mem_append_left _ hmem
  rw [get?_append, hbefore, get?_cons_self]
  rfl

/-- What is found is a member. -/
theorem mem_of_get? (h : fields.get? name = some value) : (name, value) ∈ fields := by
  induction fields with
  | nil => cases h
  | cons field rest ih =>
    obtain ⟨key, first⟩ := field
    rw [get?] at h
    split at h
    · rename_i hname
      cases h
      exact hname ▸ List.mem_cons_self
    · exact List.mem_cons_of_mem _ (ih h)

end Fields
end Formwork
