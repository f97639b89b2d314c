import Formwork.Proofs.Json.Number

/-!
# The steps of the reader

Inversion lemmas for the reader, as equivalences: a value is read exactly if one of the cases of `ValueStep` applies,
and likewise for the items of an array (`ItemsStep`) and the members of an object (`MembersStep`).  Properties of what
is read are proved by these cases, and round trips are assembled from them.
-/
namespace Formwork
namespace Json

variable {fuel : Nat} {limits : Limits} {before fields : Fields} {value' item : Json} {values : List Json}
  {s t u v w rest text : List Char} {c : Char}

/-! ### The first character -/

/-- The opening marks of strings and containers, the closing brackets, white space and the byte order mark. -/
def marks : List Char := ['"', '[', '\x7b', ']', '\x7d', ' ', '\t', '\n', '\r', '\ufeff']

theorem isBlank_of_notMem_marks (h : c ∉ marks) : isBlank c = false := by
  simp only [marks, List.mem_cons, List.not_mem_nil, or_false, not_or] at h
  simp [isBlank, h]

/-- No number and no word begins with one of these. -/
theorem exists_of_atom {limit : Nat} {result : Json × List Char} (h : atom limit s = .ok result) :
    ∃ c t, s = c :: t ∧ c ∉ marks := by
  rcases s with _ | ⟨c, t⟩
  · cases h
  · refine ⟨c, t, rfl, fun hc => ?_⟩
    simp only [marks, List.mem_cons, List.not_mem_nil, or_false] at hc
    rcases hc with rfl | rfl | rfl | rfl | rfl | rfl | rfl | rfl | rfl | rfl <;> cases h

/-! ### Values -/

/-- The cases of reading a value at the start of a text. -/
inductive ValueStep (fuel : Nat) : Limits → List Char → Json → List Char → Prop
  | quoted {limits : Limits} {s text rest : List Char}
      (h : stringBody ('"' :: s) s = .ok (text, rest)) :
      ValueStep fuel limits ('"' :: s) (.str (.ofList text)) rest
  | emptyArr {levels digits : Nat} {s rest : List Char} (h : skip s = ']' :: rest) :
      ValueStep fuel ⟨levels + 1, digits⟩ ('[' :: s) (.arr []) rest
  | arr {levels digits : Nat} {s rest : List Char} {values : List Json}
      (hopen : ∀ after, skip s ≠ ']' :: after)
      (h : items fuel ⟨levels, digits⟩ (skip s) = .ok (values, rest)) :
      ValueStep fuel ⟨levels + 1, digits⟩ ('[' :: s) (.arr values) rest
  | emptyObj {levels digits : Nat} {s rest : List Char} (h : skip s = '\x7d' :: rest) :
      ValueStep fuel ⟨levels + 1, digits⟩ ('\x7b' :: s) (.obj []) rest
  | obj {levels digits : Nat} {s rest : List Char} {fields : Fields}
      (hopen : ∀ after, skip s ≠ '\x7d' :: after)
      (h : members fuel ⟨levels, digits⟩ [] (skip s) = .ok (fields, rest)) :
      ValueStep fuel ⟨levels + 1, digits⟩ ('\x7b' :: s) (.obj fields) rest
  | atom {limits : Limits} {s rest : List Char} {value : Json}
      (h : atom limits.digits s = .ok (value, rest)) : ValueStep fuel limits s value rest

theorem ValueStep.value_eq (h : ValueStep fuel limits s value' rest) :
    value (fuel + 1) limits s = .ok (value', rest) := by
  cases h with
  | quoted h =>
    unfold value
    simp only [h]
    rfl
  | emptyArr h =>
    unfold value
    simp only [h]
  | arr hopen h =>
    unfold value
    simp only [h]
    rfl
  | emptyObj h =>
    unfold value
    simp only [h]
  | obj hopen h =>
    unfold value
    simp only [h]
    rfl
  | atom h =>
    obtain ⟨c, t, rfl, hc⟩ := exists_of_atom h
    unfold value
    split
    iterate 3
      rename_i heq
      rw [(List.cons.inj heq).1] at hc
      exact absurd (by decide) hc
    exact h

theorem map_eq_ok {ε α β : Type} {f : α → β} {result : Except ε α} {value : β}
    (h : result.map f = .ok value) : ∃ part, result = .ok part ∧ f part = value := by
  cases result with
  | error fault => cases h
  | ok part => exact ⟨part, rfl, Except.ok.inj h⟩

theorem valueStep_of_value (h : value fuel limits s = .ok (value', rest)) :
    ∃ n, fuel = n + 1 ∧ ValueStep n limits s value' rest := by
  cases fuel with
  | zero =>
    rw [value] at h
    cases h
  | succ fuel =>
    refine ⟨fuel, rfl, ?_⟩
    unfold value at h
    split at h
    · obtain ⟨⟨text, after⟩, hbody, heq⟩ := map_eq_ok h
      cases heq
      exact .quoted hbody
    · obtain ⟨_ | levels, digits⟩ := limits
      · cases h
      simp only at h
      split at h
      · rename_i heq
        cases h
        exact .emptyArr heq
      · rename_i hopen
        obtain ⟨⟨values, after⟩, hitems, heq⟩ := map_eq_ok h
        cases heq
        exact .arr hopen hitems
    · obtain ⟨_ | levels, digits⟩ := limits
      · cases h
      simp only at h
      split at h
      · rename_i heq
        cases h
        exact .emptyObj heq
      · rename_i hopen
        obtain ⟨⟨fields, after⟩, hmembers, heq⟩ := map_eq_ok h
        cases heq
        exact .obj hopen hmembers
    · exact .atom h

/-! ### Items and members -/

/-- The cases of reading the items of an array from the first one on. -/
inductive ItemsStep (fuel : Nat) (limits : Limits) (s : List Char) : List Json → List Char → Prop
  | last {item : Json} {t rest : List Char} (h : value fuel limits s = .ok (item, t))
      (hend : skip t = ']' :: rest) : ItemsStep fuel limits s [item] rest
  | more {item : Json} {values : List Json} {t u rest : List Char}
      (h : value fuel limits s = .ok (item, t)) (hcomma : skip t = ',' :: u)
      (hmore : items fuel limits (skip u) = .ok (values, rest)) :
      ItemsStep fuel limits s (item :: values) rest

theorem ItemsStep.items_eq (h : ItemsStep fuel limits s values rest) :
    items (fuel + 1) limits s = .ok (values, rest) := by
  cases h with
  | last h hend =>
    rw [items, h]
    simp only [hend]
  | more h hcomma hmore =>
    rw [items, h]
    simp only [hcomma, hmore]
    rfl

theorem itemsStep_of_items (h : items fuel limits s = .ok (values, rest)) :
    ∃ n, fuel = n + 1 ∧ ItemsStep n limits s values rest := by
  cases fuel with
  | zero =>
    rw [items] at h
    cases h
  | succ fuel =>
    refine ⟨fuel, rfl, ?_⟩
    unfold items at h
    split at h
    · cases h
    · rename_i hvalue
      split at h
      · rename_i hend
        cases h
        exact .last hvalue hend
      · rename_i hcomma
        obtain ⟨⟨more, after⟩, hmore, heq⟩ := map_eq_ok h
        cases heq
        exact .more hvalue hcomma hmore
      · cases h

/-- The cases of reading the members of an object from the next key on, behind earlier members. -/
inductive MembersStep (fuel : Nat) (limits : Limits) (before : Fields) :
    List Char → Fields → List Char → Prop
  | last {item : Json} {s t u v name rest : List Char}
      (hname : stringBody ('"' :: s) s = .ok (name, t)) (hcolon : skip t = ':' :: u)
      (h : value fuel limits (skip u) = .ok (item, v)) (hend : skip v = '\x7d' :: rest) :
      MembersStep fuel limits before ('"' :: s) (before.set (.ofList name) item) rest
  | more {item : Json} {fields : Fields} {s t u v w name rest : List Char}
      (hname : stringBody ('"' :: s) s = .ok (name, t)) (hcolon : skip t = ':' :: u)
      (h : value fuel limits (skip u) = .ok (item, v)) (hcomma : skip v = ',' :: w)
      (hmore : members fuel limits (before.set (.ofList name) item) (skip w) = .ok (fields, rest)) :
      MembersStep fuel limits before ('"' :: s) fields rest

theorem MembersStep.members_eq (h : MembersStep fuel limits before s fields rest) :
    members (fuel + 1) limits before s = .ok (fields, rest) := by
  cases h with
  | last hname hcolon h hend =>
    rw [members]
    simp only [hname, hcolon, h, hend]
  | more hname hcolon h hcomma hmore =>
    rw [members]
    simp only [hname, hcolon, h, hcomma, hmore]

theorem membersStep_of_members (h : members fuel limits before s = .ok (fields, rest)) :
    ∃ n, fuel = n + 1 ∧ MembersStep n limits before s fields rest := by
  cases fuel with
  | zero =>
    rw [members] at h
    cases h
  | succ fuel =>
    refine ⟨fuel, rfl, ?_⟩
    unfold members at h
    split at h
    · split at h
      · cases h
      rename_i hname
      split at h
      · rename_i hcolon
        split at h
        · cases h
        rename_i hvalue
        simp only at h
        split at h
        · rename_i hend
          cases h
          exact .last hname hcolon hvalue hend
        · rename_i hcomma
          exact .more hname hcolon hvalue hcomma h
        · cases h
      · cases h
    · cases h

end Json
end Formwork
