import Formwork.Proofs.Act
import Formwork.Proofs.Json.Steps
import Formwork.Proofs.Json.Tidy

/-!
# What a text denotes

Raising the limits of the reader does not change what it reads within the lower ones (`parseWithin_mono`).  So a text
denotes at most one value (`Denotes.unique`), which is the value read within any limits that suffice.  A value that is
read is tidy: no object in it has a key twice.
-/
namespace Formwork
namespace Json

variable {fuel : Nat} {limits farther : Limits} {s rest : List Char}

/-- The second limits are at least as high as the first. -/
structure Limits.Reaches (limits farther : Limits) : Prop where
  levels : limits.levels ≤ farther.levels
  digits : limits.digits ≤ farther.digits

/-- The maximum of both limits in each respect. -/
def Limits.join (limits other : Limits) : Limits :=
  ⟨max limits.levels other.levels, max limits.digits other.digits⟩

theorem Limits.reaches_join_left (limits other : Limits) : limits.Reaches (limits.join other) :=
  ⟨Nat.le_max_left _ _, Nat.le_max_left _ _⟩

theorem Limits.reaches_join_right (limits other : Limits) : other.Reaches (limits.join other) :=
  ⟨Nat.le_max_right _ _, Nat.le_max_right _ _⟩

/-- Higher limits also leave a level for what is inside a container. -/
theorem Limits.Reaches.exists_succ {levels digits : Nat} (h : Limits.Reaches ⟨levels + 1, digits⟩ farther) :
    ∃ levels' digits', farther = ⟨levels' + 1, digits'⟩ ∧
      Limits.Reaches ⟨levels, digits⟩ ⟨levels', digits'⟩ := by
  obtain ⟨_ | levels', digits'⟩ := farther
  · exact absurd h.levels (Nat.not_succ_le_zero _)
  · exact ⟨levels', digits', rfl, Nat.le_of_succ_le_succ h.levels, h.digits⟩

/-! ### Raising the limits -/

/-- The limit on digits decides only whether a number is refused. -/
theorem unsignedNumber?_mono {limit more : Nat} (hle : limit ≤ more) (negative : Bool) (s : List Char) :
    unsignedNumber? more negative s = unsignedNumber? limit negative s ∨
      ∃ fault, unsignedNumber? limit negative s = some (.error fault) := by
  simp only [unsignedNumber?, Option.bind_eq_bind]
  rcases wholePart s with _ | ⟨whole, t⟩
  · exact Or.inl rfl
  simp only [Option.bind_some]
  split
  · exact Or.inl rfl
  · split
    · exact Or.inl rfl
    · by_cases hlimit : limit < whole.length
      · rw [if_pos hlimit]
        exact Or.inr ⟨_, rfl⟩
      · rw [if_neg hlimit, if_neg (by omega)]
        exact Or.inl rfl

theorem atom_mono {limit more : Nat} {result : Json × List Char} (hle : limit ≤ more)
    (h : atom limit s = .ok result) : atom more s = .ok result := by
  have hnumber : ∀ {negative : Bool} {s : List Char} {fault : Fault},
      (unsignedNumber? limit negative s).getD (.error fault) = .ok result →
      (unsignedNumber? more negative s).getD (.error fault) = .ok result := by
    intro negative s fault h
    rcases unsignedNumber?_mono hle negative s with hsame | ⟨fault', hfault⟩
    · rw [hsame, h]
    · rw [hfault] at h
      cases h
  unfold atom at h ⊢
  split
  · rename_i heq
    rw [heq] at h
    exact h
  · rename_i heq
    rw [heq] at h
    simp only at h ⊢
    split at h
    · exact hnumber h
    · exact hnumber h

mutual
theorem value_mono {fuel : Nat} {limits farther : Limits} {s rest : List Char} {v : Json}
    (hfarther : limits.Reaches farther) (hread : value fuel limits s = .ok (v, rest)) :
    value fuel farther s = .ok (v, rest) := by
  obtain ⟨n, rfl, hstep⟩ := valueStep_of_value hread
  cases hstep with
  | quoted htext => exact (ValueStep.quoted htext).value_eq
  | emptyArr hend =>
    obtain ⟨_, _, rfl, -⟩ := hfarther.exists_succ
    exact (ValueStep.emptyArr hend).value_eq
  | arr hopen hitems =>
    obtain ⟨_, _, rfl, hinner⟩ := hfarther.exists_succ
    exact (ValueStep.arr hopen (items_mono hinner hitems)).value_eq
  | emptyObj hend =>
    obtain ⟨_, _, rfl, -⟩ := hfarther.exists_succ
    exact (ValueStep.emptyObj hend).value_eq
  | obj hopen hmembers =>
    obtain ⟨_, _, rfl, hinner⟩ := hfarther.exists_succ
    exact (ValueStep.obj hopen (members_mono hinner hmembers)).value_eq
  | atom hatom => exact (ValueStep.atom (atom_mono hfarther.digits hatom)).value_eq
termination_by fuel

theorem items_mono {fuel : Nat} {limits farther : Limits} {s rest : List Char} {values : List Json}
    (hfarther : limits.Reaches farther) (hread : items fuel limits s = .ok (values, rest)) :
    items fuel farther s = .ok (values, rest) := by
  obtain ⟨n, rfl, hstep⟩ := itemsStep_of_items hread
  cases hstep with
  | last hvalue hend => exact (ItemsStep.last (value_mono hfarther hvalue) hend).items_eq
  | more hvalue hcomma hmore =>
    exact (ItemsStep.more (value_mono hfarther hvalue) hcomma (items_mono hfarther hmore)).items_eq
termination_by fuel

theorem members_mono {fuel : Nat} {limits farther : Limits} {s rest : List Char}
    {before fields : Fields} (hfarther : limits.Reaches farther)
    (hread : members fuel limits before s = .ok (fields, rest)) :
    members fuel farther before s = .ok (fields, rest) := by
  obtain ⟨n, rfl, hstep⟩ := membersStep_of_members hread
  cases hstep with
  | last hname hcolon hvalue hend =>
    exact (MembersStep.last hname hcolon (value_mono hfarther hvalue) hend).members_eq
  | more hname hcolon hvalue hcomma hmore =>
    exact (MembersStep.more hname hcolon (value_mono hfarther hvalue) hcomma
      (members_mono hfarther hmore)).members_eq
termination_by fuel
end

/-! ### Values that are read -/

/-- Scalars other than strings: words, floats, and integers of at most so many digits. -/
inductive Plain (limit : Nat) : Json → Prop
  | null : Plain limit .null
  | bool (value : Bool) : Plain limit (.bool value)
  | float (value : Binary64) : Plain limit (.float value)
  | int {value : Int} (h : (Nat.toDigits 10 value.natAbs).length ≤ limit) : Plain limit (.int value)

theorem plain_of_unsignedNumber? {limit : Nat} {negative : Bool} {v : Json}
    (h : unsignedNumber? limit negative s = some (.ok (v, rest))) : Plain limit v := by
  unfold unsignedNumber? at h
  rcases hwhole : wholePart s with _ | ⟨whole, t⟩
  · rw [hwhole] at h
    cases h
  simp only [hwhole, Option.bind_eq_bind, Option.bind_some] at h
  split at h
  · cases h
    exact .float _
  split at h
  · cases h
    exact .float _
  split at h
  · cases h
  · rename_i hlimit
    cases h
    obtain ⟨hne, hdigits⟩ := wholePart_digits hwhole
    have hmagnitude : (if negative then -(digitsValue whole : Int) else digitsValue whole).natAbs =
        digitsValue whole := by
      split
      · rw [Int.natAbs_neg, Int.natAbs_natCast]
      · rw [Int.natAbs_natCast]
    have hlength : (Nat.toDigits 10 (digitsValue whole)).length ≤ whole.length :=
      (Nat.length_toDigits_le_iff (by decide) (List.length_pos_iff.mpr hne)).mpr (digitsValue_lt hdigits)
    refine .int ?_
    rw [hmagnitude]
    exact hlength.trans (Nat.not_lt.mp hlimit)

theorem plain_of_atom {limit : Nat} {v : Json} (h : atom limit s = .ok (v, rest)) : Plain limit v := by
  have hwords : ∀ word ∈ words, Plain limit word.2 := by
    simp only [words, List.forall_mem_cons]
    exact ⟨.null, .bool _, .bool _, .float _, .float _, .float _, List.forall_mem_nil _⟩
  have hnumber : ∀ {negative : Bool} {s : List Char} {fault : Fault},
      (unsignedNumber? limit negative s).getD (.error fault) = .ok (v, rest) → Plain limit v := by
    intro negative s fault h
    rcases hread : unsignedNumber? limit negative s with _ | result
    · rw [hread] at h
      cases h
    · rw [hread, Option.getD_some] at h
      exact plain_of_unsignedNumber? (hread.trans (congrArg some h))
  unfold atom at h
  split at h
  · rename_i heq
    obtain ⟨⟨word, value⟩, hword, hafter⟩ := List.exists_of_findSome?_eq_some heq
    obtain ⟨after, -, hresult⟩ := Option.map_eq_some_iff.mp hafter
    cases hresult
    cases h
    exact hwords _ hword
  · simp only at h
    split at h
    · exact hnumber h
    · exact hnumber h

/-- A property that holds of the scalars, and of a container within the limits if it holds of its parts. -/
structure Inherited (p : Limits → Json → Prop) : Prop where
  str (limits : Limits) (text : String) : p limits (.str text)
  plain {limits : Limits} {v : Json} (h : Plain limits.digits v) : p limits v
  arr {levels digits : Nat} {items : List Json} (h : ∀ item ∈ items, p ⟨levels, digits⟩ item) :
    p ⟨levels + 1, digits⟩ (.arr items)
  objNil (levels digits : Nat) : p ⟨levels + 1, digits⟩ (.obj [])
  objSet {levels digits : Nat} {fields : Fields} {v : Json} (h : p ⟨levels + 1, digits⟩ (.obj fields))
    (hv : p ⟨levels, digits⟩ v) (name : String) : p ⟨levels + 1, digits⟩ (.obj (fields.set name v))

mutual
/-- **An inherited property holds of every value that is read.** -/
theorem Inherited.of_value {p : Limits → Json → Prop} (hp : Inherited p) {fuel : Nat} {limits : Limits}
    {s rest : List Char} {v : Json} (hread : value fuel limits s = .ok (v, rest)) : p limits v := by
  obtain ⟨n, rfl, hstep⟩ := valueStep_of_value hread
  cases hstep with
  | quoted htext => exact hp.str _ _
  | emptyArr hend => exact hp.arr (List.forall_mem_nil _)
  | arr hopen hitems => exact hp.arr (hp.of_items hitems)
  | emptyObj hend => exact hp.objNil _ _
  | obj hopen hmembers => exact hp.of_members (hp.objNil _ _) hmembers
  | atom hatom => exact hp.plain (plain_of_atom hatom)
termination_by fuel

theorem Inherited.of_items {p : Limits → Json → Prop} (hp : Inherited p) {fuel : Nat} {limits : Limits}
    {s rest : List Char} {values : List Json} (hread : items fuel limits s = .ok (values, rest)) :
    ∀ item ∈ values, p limits item := by
  obtain ⟨n, rfl, hstep⟩ := itemsStep_of_items hread
  cases hstep with
  | last hvalue hend => exact List.forall_mem_singleton.mpr (hp.of_value hvalue)
  | more hvalue hcomma hmore =>
    exact List.forall_mem_cons.mpr ⟨hp.of_value hvalue, hp.of_items hmore⟩
termination_by fuel

theorem Inherited.of_members {p : Limits → Json → Prop} (hp : Inherited p) {fuel levels digits : Nat}
    {s rest : List Char} {before fields : Fields} (hbefore : p ⟨levels + 1, digits⟩ (.obj before))
    (hread : members fuel ⟨levels, digits⟩ before s = .ok (fields, rest)) :
    p ⟨levels + 1, digits⟩ (.obj fields) := by
  obtain ⟨n, rfl, hstep⟩ := membersStep_of_members hread
  cases hstep with
  | last hname hcolon hvalue hend => exact hp.objSet hbefore (hp.of_value hvalue) _
  | more hname hcolon hvalue hcomma hmore =>
    exact hp.of_members (hp.objSet hbefore (hp.of_value hvalue) _) hmore
termination_by fuel
end

theorem Plain.tidy {limit : Nat} {v : Json} (h : Plain limit v) : Tidy v := by
  cases h with
  | null => exact .null
  | bool value => exact .bool value
  | float value => exact .float value
  | int _ => exact .int _

theorem tidy_obj_nil : Tidy (.obj []) := .obj List.Pairwise.nil (List.forall_mem_nil _)

theorem inherited_tidy : Inherited fun _ => Tidy where
  str _ text := .str text
  plain h := h.tidy
  arr h := .arr h
  objNil _ _ := tidy_obj_nil
  objSet h hv name := h.set hv name

/-! ### Texts -/

variable {text : String} {v : Json}

/-- The text denotes the value, within some limits. -/
def Denotes (text : String) (v : Json) : Prop := ∃ limits, parseWithin limits text = .ok v

theorem parseWithin_eq_ok : parseWithin limits text = .ok v ↔
    (∀ rest, text.toList ≠ '\ufeff' :: rest) ∧ wholePairs false text.toList = true ∧
      ∃ rest, value (2 * text.toList.length + 1) limits (skip text.toList) = .ok (v, rest) ∧
        skip rest = [] := by
  have hchars : ∀ s, readChars limits s = .ok v ↔ wholePairs false s = true ∧
      ∃ rest, value (2 * s.length + 1) limits (skip s) = .ok (v, rest) ∧ skip rest = [] := by
    intro s
    rw [readChars, Act.mapError_eq_ok, parseChars]
    rcases value (2 * s.length + 1) limits (skip s) with fault | ⟨found, rest⟩
    · exact ⟨nofun, fun h => nomatch h.2⟩
    · simp only
      split
      · rename_i hend
        split
        · rename_i hpairs
          constructor
          · intro h
            cases h
            exact ⟨hpairs, rest, rfl, hend⟩
          · rintro ⟨-, _, heq, -⟩
            cases heq
            rfl
        · rename_i hhalf
          exact ⟨nofun, fun h => absurd h.1 hhalf⟩
      · rename_i hmore
        constructor
        · nofun
        · rintro ⟨-, _, heq, hend⟩
          cases heq
          exact absurd hend hmore
  unfold parseWithin
  split
  · rename_i heq
    exact ⟨nofun, fun h => absurd heq (h.1 _)⟩
  · rename_i hmark
    rw [hchars]
    exact ⟨fun h => ⟨hmark, h⟩, fun h => h.2⟩

theorem parseWithin_mono (hfarther : limits.Reaches farther) (h : parseWithin limits text = .ok v) :
    parseWithin farther text = .ok v := by
  obtain ⟨hmark, hpairs, rest, hvalue, hend⟩ := parseWithin_eq_ok.mp h
  exact parseWithin_eq_ok.mpr ⟨hmark, hpairs, rest, value_mono hfarther hvalue, hend⟩

theorem denotes_of_parseWithin (h : parseWithin limits text = .ok v) : Denotes text v := ⟨limits, h⟩

/-- **A text denotes at most one value.** -/
theorem Denotes.unique {a b : Json} (ha : Denotes text a) (hb : Denotes text b) : a = b := by
  obtain ⟨limits, ha⟩ := ha
  obtain ⟨limits', hb⟩ := hb
  have hfirst := parseWithin_mono (limits.reaches_join_left limits') ha
  have hsecond := parseWithin_mono (limits.reaches_join_right limits') hb
  exact Except.ok.inj (hfirst.symm.trans hsecond)

/-- The value of a text is tidy. -/
theorem Denotes.tidy (h : Denotes text v) : Tidy v := by
  obtain ⟨limits, hparse⟩ := h
  obtain ⟨-, -, rest, hvalue, -⟩ := parseWithin_eq_ok.mp hparse
  exact inherited_tidy.of_value hvalue

end Json
end Formwork
