import Formwork.Schema.Reading

/-!
# Readings of objects

A reading that is combined of others succeeds exactly when all of them do, with the combined value.
-/
namespace Formwork
namespace Reading

variable {α β : Type} {x : Reading α}

theorem seq_eq_done {f : Reading (α → β)} {b : β} :
    f <*> x = .done b ↔ ∃ g a, f = .done g ∧ x = .done a ∧ g a = b := by
  constructor
  · intro h
    rcases f with g | issues
    · rcases x with a | issues
      · exact ⟨g, a, rfl, rfl, Reading.done.inj h⟩
      · cases h
    · rcases x with a | more
      · cases h
      · cases h
  · rintro ⟨g, a, rfl, rfl, rfl⟩
    rfl

theorem map_eq_done {f : α → β} {b : β} : f <$> x = .done b ↔ ∃ a, x = .done a ∧ f a = b := by
  constructor
  · intro h
    rcases x with a | issues
    · exact ⟨a, rfl, Reading.done.inj h⟩
    · cases h
  · rintro ⟨a, rfl, rfl⟩
    rfl

theorem under_eq_done {step : Place} {a : α} : x.under step = .done a ↔ x = .done a := by
  rcases x with found | issues
  · exact Iff.rfl
  · exact ⟨nofun, nofun⟩

theorem text_eq_done {given : Json} {value : String} :
    text given = .done value ↔ given = .str value := by
  constructor
  · intro h
    cases given with
    | str text => exact congrArg Json.str (Reading.done.inj h)
    | _ => cases h
  · rintro rfl
    rfl

end Reading
end Formwork
