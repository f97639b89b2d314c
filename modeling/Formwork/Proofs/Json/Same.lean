import Formwork.Json.Basic
import Mathlib.Data.List.Forall2

/-!
# Values up to the order of members

The order of the members of an object does not matter to a reader: two objects are the same if the lookup of every key
gives the same value in both, or in neither.  `Json.Same` is this relation on all levels.  It is reflexive
(`same_refl`), and the same objects have the same members (`Same.at`), so they are compared key by key.
-/
namespace Formwork
namespace Json

/-- Values that differ at most in the order of the members of objects. -/
inductive Same : Json → Json → Prop
  | null : Same .null .null
  | bool (value : Bool) : Same (.bool value) (.bool value)
  | int (value : Int) : Same (.int value) (.int value)
  | float (value : Binary64) : Same (.float value) (.float value)
  | str (value : String) : Same (.str value) (.str value)
  | arr {items more : List Json} (h : List.Forall₂ Same items more) : Same (.arr items) (.arr more)
  | obj {fields more : Fields}
      (h : ∀ name, Option.Rel Same (Fields.get? name fields) (Fields.get? name more)) :
      Same (.obj fields) (.obj more)

mutual
theorem same_refl : (value : Json) → Same value value
  | .null => .null
  | .bool value => .bool value
  | .int value => .int value
  | .float value => .float value
  | .str value => .str value
  | .arr items => .arr (forall₂_same_refl items)
  | .obj fields => .obj (rel_get?_refl fields)

theorem forall₂_same_refl : (items : List Json) → List.Forall₂ Same items items
  | [] => .nil
  | item :: rest => .cons (same_refl item) (forall₂_same_refl rest)

theorem rel_get?_refl : (fields : Fields) → (name : String) →
    Option.Rel Same (Fields.get? name fields) (Fields.get? name fields)
  | [], _ => .none
  | (key, value) :: rest, name => by
    unfold Fields.get?
    split
    · exact .some (same_refl value)
    · exact rel_get?_refl rest name
end

/-- Equal values are the same. -/
theorem same_of_eq {a b : Json} (h : a = b) : Same a b := h ▸ same_refl a

@[simp] theorem same_bool (a b : Bool) : Same (.bool a) (.bool b) ↔ a = b := by
  constructor
  · rintro ⟨⟩
    rfl
  · rintro rfl
    exact .bool _

@[simp] theorem same_int (a b : Int) : Same (.int a) (.int b) ↔ a = b := by
  constructor
  · rintro ⟨⟩
    rfl
  · rintro rfl
    exact .int _

@[simp] theorem same_str (a b : String) : Same (.str a) (.str b) ↔ a = b := by
  constructor
  · rintro ⟨⟩
    rfl
  · rintro rfl
    exact .str _

@[simp] theorem same_arr (items more : List Json) :
    Same (.arr items) (.arr more) ↔ List.Forall₂ Same items more := by
  constructor
  · rintro ⟨⟩
    assumption
  · exact .arr

/-- The same objects have the same members. -/
theorem Same.at {fields more : Fields} (h : Same (.obj fields) (.obj more)) (name : String) :
    Option.Rel Same (Fields.get? name fields) (Fields.get? name more) := by
  cases h with
  | obj h => exact h name

end Json
end Formwork
