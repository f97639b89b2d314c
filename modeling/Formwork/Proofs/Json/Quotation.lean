import Formwork.Json.Parser
import Formwork.Json.Printer
import Mathlib.Data.List.Induction

/-!
# String literals

`Spells` lists the spellings of a character in a string literal: itself, a short escape, or a numbered escape, which for
a character beyond the basic plane is a surrogate pair.  Both the ASCII spelling and the plain one are of this kind.
For every such choice of spellings the literal of a text is read back (`stringBody_quoted`), it has no control
characters, and every quotation mark inside is escaped (`escaped_of_quote`).
-/
namespace Formwork
namespace Json

variable {c : Char} {opening rest s t before after : List Char} {unit : Nat} {spell : Char → List Char}

/-! ### Numbered escapes -/

theorem hexValue?_hexDigit (n : Nat) : Text.hexValue? (hexDigit n) = some (n % 16) := by
  have hvalue : ∀ d < 16, Text.hexValue? (Nat.digitChar d) = some d := by decide
  exact hvalue (n % 16) (Nat.mod_lt n (by decide))

/-- The hexadecimal digits of a unit are read back. -/
theorem hexUnit?_digits (hunit : unit < 0x10000) :
    hexUnit? (hexDigit (unit / 4096)) (hexDigit (unit / 256)) (hexDigit (unit / 16)) (hexDigit unit) =
      some unit := by
  simp only [hexUnit?, hexValue?_hexDigit, Option.bind_eq_bind, Option.bind_some, Option.pure_def,
    Option.some.injEq]
  omega

theorem unit?_digits (hunit : unit < 0x10000) (next : Char) (s : List Char) :
    unit? (hexDigit (unit / 4096) :: hexDigit (unit / 256) :: hexDigit (unit / 16) :: hexDigit unit
      :: next :: s) = some (unit, next :: s) := by
  rw [unit?, hexUnit?_digits hunit, Option.map_some]

theorem lt_of_isHigh (h : Text.isHigh unit = true) : unit < 0x10000 := by
  simp only [Text.isHigh, Bool.and_eq_true, decide_eq_true_eq] at h
  omega

theorem lt_of_isLow (h : Text.isLow unit = true) : unit < 0x10000 := by
  simp only [Text.isLow, Bool.and_eq_true, decide_eq_true_eq] at h
  omega

/-- No unit is both a high and a low surrogate. -/
theorem isLow_of_isHigh (h : Text.isHigh unit = true) : Text.isLow unit = false := by
  simp only [Text.isHigh, Text.isLow, Bool.and_eq_true, Bool.and_eq_false_iff, decide_eq_true_eq,
    decide_eq_false_iff_not] at *
  omega

/-- A unit that is no surrogate is read as its character. -/
theorem numberedEscape_digits (hunit : unit < 0x10000) (hhigh : Text.isHigh unit = false) (next : Char)
    (s : List Char) :
    numberedEscape (hexDigit (unit / 4096) :: hexDigit (unit / 256) :: hexDigit (unit / 16)
      :: hexDigit unit :: next :: s) = .ok (Char.ofNat unit, next :: s) := by
  unfold numberedEscape
  rw [unit?_digits hunit]
  simp only [hhigh]
  rfl

/-- A surrogate pair is read as one character. -/
theorem numberedEscape_pair {high low : Nat} (hhigh : Text.isHigh high = true)
    (hlow : Text.isLow low = true) (next : Char) (s : List Char) :
    numberedEscape (hexDigit (high / 4096) :: hexDigit (high / 256) :: hexDigit (high / 16)
      :: hexDigit high :: (numbered low ++ next :: s)) = .ok (Text.pairChar high low, next :: s) := by
  unfold numberedEscape
  rw [numbered, List.cons_append, unit?_digits (lt_of_isHigh hhigh)]
  simp only [hhigh, List.cons_append, List.nil_append, unit?_digits (lt_of_isLow hlow), hlow]
  rfl

/-! ### Steps through a literal -/

theorem stringBody_quote : stringBody opening ('"' :: rest) = .ok ([], rest) := by
  rw [stringBody]

theorem stringBody_letter {letter : Char} (h : letterChar? letter = some c) :
    stringBody opening ('\\' :: letter :: s) =
      (stringBody opening s).map fun (text, after) => (c :: text, after) := by
  have hu : letter ≠ 'u' := by
    rintro rfl
    cases h
  rw [stringBody, h]
  exact hu

theorem stringBody_numbered (h : numberedEscape s = .ok (c, t)) :
    stringBody opening ('\\' :: 'u' :: s) =
      (stringBody opening t).map fun (text, after) => (c :: text, after) := by
  rw [stringBody.eq_def]
  simp only
  split
  · rename_i heq
    rw [h] at heq
    cases heq
  · rename_i heq
    rw [h] at heq
    cases heq
    rfl

theorem stringBody_plain (hquote : c ≠ '"') (hslash : c ≠ '\\') (hc : 0x20 ≤ c.toNat) :
    stringBody opening (c :: s) =
      (stringBody opening s).map fun (text, after) => (c :: text, after) := by
  rw [stringBody, if_neg (Nat.not_lt.mpr hc)]
  · exact hquote
  · exact fun h => absurd h hslash
  · exact fun _ h => absurd h hslash
  · exact fun _ _ h => absurd h hslash

theorem letterChar?_of_shortEscape {letter : Char} (h : shortEscape? c = some letter) :
    letterChar? letter = some c := by
  unfold shortEscape? at h
  split at h <;> cases h <;> rfl

/-- A character is no surrogate. -/
theorem isHigh_toNat (c : Char) : Text.isHigh c.toNat = false := by
  have hvalid : c.toNat < 0xd800 ∨ 0xdfff < c.toNat ∧ c.toNat < 0x110000 := c.valid
  simp only [Text.isHigh, Bool.and_eq_false_iff, decide_eq_false_iff_not]
  omega

theorem isLow_toNat (c : Char) : Text.isLow c.toNat = false := by
  have hvalid : c.toNat < 0xd800 ∨ 0xdfff < c.toNat ∧ c.toNat < 0x110000 := c.valid
  simp only [Text.isLow, Bool.and_eq_false_iff, decide_eq_false_iff_not]
  omega

/-- The surrogate pair of a character beyond the basic plane. -/
theorem pairChar_halves (hc : 0x10000 ≤ c.toNat) :
    Text.isHigh (0xd800 + (c.toNat - 0x10000) / 0x400) = true ∧
      Text.isLow (0xdc00 + (c.toNat - 0x10000) % 0x400) = true ∧
      Text.pairChar (0xd800 + (c.toNat - 0x10000) / 0x400) (0xdc00 + (c.toNat - 0x10000) % 0x400) =
        c := by
  have hvalid : c.toNat < 0xd800 ∨ 0xdfff < c.toNat ∧ c.toNat < 0x110000 := c.valid
  refine ⟨?_, ?_, ?_⟩
  · simp only [Text.isHigh, Bool.and_eq_true, decide_eq_true_eq]
    omega
  · simp only [Text.isLow, Bool.and_eq_true, decide_eq_true_eq]
    omega
  · have hsum : 0x10000 + (0xd800 + (c.toNat - 0x10000) / 0x400 - 0xd800) * 0x400
        + (0xdc00 + (c.toNat - 0x10000) % 0x400 - 0xdc00) = c.toNat := by omega
    rw [Text.pairChar, hsum, Char.ofNat_toNat]

/-! ### Spellings of a character -/

/-- The spellings of a character in a string literal. -/
inductive Spells : Char → List Char → Prop
  | plain {c : Char} (hvisible : 0x20 ≤ c.toNat) (hquote : c ≠ '"') (hslash : c ≠ '\\') : Spells c [c]
  | letter {c letter : Char} (h : letterChar? letter = some c) : Spells c ['\\', letter]
  | unit {c : Char} (h : c.toNat < 0x10000) : Spells c (numbered c.toNat)
  | pair {high low : Nat} (hhigh : Text.isHigh high = true) (hlow : Text.isLow low = true) :
      Spells (Text.pairChar high low) (numbered high ++ numbered low)

/-- A character without a short escape is neither a quotation mark nor a backslash. -/
theorem ne_marks_of_shortEscape (h : shortEscape? c = none) : c ≠ '"' ∧ c ≠ '\\' := by
  refine ⟨?_, ?_⟩
  · rintro rfl
    cases h
  · rintro rfl
    cases h

theorem spells_asciiChar (c : Char) : Spells c (asciiChar c) := by
  unfold asciiChar
  split
  · rename_i letter hshort
    exact .letter (letterChar?_of_shortEscape hshort)
  rename_i hshort
  obtain ⟨hquote, hslash⟩ := ne_marks_of_shortEscape hshort
  split
  · rename_i hprintable
    exact .plain hprintable.1 hquote hslash
  split
  · rename_i hunit
    exact .unit hunit
  · rename_i hbeyond
    obtain ⟨hhigh, hlow, hpair⟩ := pairChar_halves (Nat.not_lt.mp hbeyond)
    have hspells := Spells.pair hhigh hlow
    rwa [hpair] at hspells

theorem spells_plainChar (c : Char) : Spells c (plainChar c) := by
  unfold plainChar
  split
  · rename_i letter hshort
    exact .letter (letterChar?_of_shortEscape hshort)
  rename_i hshort
  obtain ⟨hquote, hslash⟩ := ne_marks_of_shortEscape hshort
  split
  · rename_i hcontrol
    exact .unit (by omega)
  · rename_i hvisible
    exact .plain (Nat.not_lt.mp hvisible) hquote hslash

/-- A character is read back from its spelling, in front of any further character. -/
theorem Spells.stringBody_append (h : Spells c s) (next : Char) (rest : List Char) :
    stringBody opening (s ++ next :: rest) =
      (stringBody opening (next :: rest)).map fun (text, after) => (c :: text, after) := by
  cases h with
  | plain hvisible hquote hslash => exact stringBody_plain hquote hslash hvisible
  | letter hletter => exact stringBody_letter hletter
  | unit hunit =>
    have hescape := numberedEscape_digits hunit (isHigh_toNat c) next rest
    rw [Char.ofNat_toNat] at hescape
    exact stringBody_numbered hescape
  | pair hhigh hlow =>
    rw [List.append_assoc]
    exact stringBody_numbered (numberedEscape_pair hhigh hlow next rest)

/-- **A literal is read back**, whatever follows it. -/
theorem stringBody_quoted (hspell : ∀ c, Spells c (spell c)) (text : List Char) :
    stringBody opening (text.flatMap spell ++ '"' :: rest) = .ok (text, rest) := by
  induction text with
  | nil => exact stringBody_quote
  | cons c text ih =>
    obtain ⟨next, s, hnext⟩ : ∃ next s, text.flatMap spell ++ '"' :: rest = next :: s := by
      cases text.flatMap spell with
      | nil => exact ⟨_, _, rfl⟩
      | cons next s => exact ⟨_, _, rfl⟩
    rw [List.flatMap_cons, List.append_assoc, hnext, (hspell c).stringBody_append, ← hnext, ih]
    rfl

/-! ### Surrogate pairs -/

/-- The text ends outside of a surrogate pair: whether one is broken depends only on what follows. -/
def Closed (s : List Char) : Prop := ∀ t, wholePairs false (s ++ t) = wholePairs false t

theorem closed_nil : Closed [] := fun _ => rfl

theorem Closed.append (hs : Closed s) (ht : Closed t) : Closed (s ++ t) := by
  intro u
  rw [List.append_assoc, hs, ht]

theorem closed_flatMap (hspell : ∀ c, Closed (spell c)) (text : List Char) : Closed (text.flatMap spell) := by
  induction text with
  | nil => exact closed_nil
  | cons c text ih => exact (hspell c).append ih

theorem closed_singleton (hc : c ≠ '\\') : Closed [c] := by
  intro t
  rw [List.singleton_append, wholePairs]
  · rfl
  · exact fun _ _ _ _ _ h => absurd h hc
  · exact fun _ _ h => absurd h hc

theorem wholePairs_numbered (hunit : unit < 0x10000) (high : Bool) (t : List Char) :
    wholePairs high (numbered unit ++ t) =
      if high then Text.isLow unit && wholePairs false t
      else !Text.isLow unit && wholePairs (Text.isHigh unit) t := by
  simp only [numbered, List.cons_append, List.nil_append, wholePairs, hexUnit?_digits hunit]

/-- No spelling breaks a surrogate pair. -/
theorem Spells.closed (h : Spells c s) : Closed s := by
  cases h with
  | plain _ _ hslash => exact closed_singleton hslash
  | @letter _ letter hletter =>
    intro t
    have hu : letter ≠ 'u' := by
      rintro rfl
      cases hletter
    show wholePairs false ('\\' :: letter :: t) = _
    rw [wholePairs]
    · rfl
    · exact fun _ _ _ _ _ h => absurd h hu
  | unit hunit =>
    intro t
    rw [wholePairs_numbered hunit, isHigh_toNat, isLow_toNat]
    rfl
  | pair hhigh hlow =>
    intro t
    rw [List.append_assoc, wholePairs_numbered (lt_of_isHigh hhigh), if_neg Bool.false_ne_true,
      isLow_of_isHigh hhigh, hhigh, wholePairs_numbered (lt_of_isLow hlow), if_pos rfl, hlow]
    rfl

theorem closed_quoted (hspell : ∀ c, Spells c (spell c)) (text : List Char) : Closed (quoted spell text) := by
  have hmark : Closed ['"'] := closed_singleton (by decide)
  exact hmark.append ((closed_flatMap (fun c => (hspell c).closed) text).append hmark)

/-! ### The characters of a spelling -/

/-- A hexadecimal digit is no control character and no punctuation. -/
theorem hexDigit_visible (n : Nat) :
    0x20 ≤ (hexDigit n).toNat ∧ hexDigit n ≠ '"' ∧ hexDigit n ≠ '\\' := by
  have hdigit : ∀ d < 16, 0x20 ≤ (Nat.digitChar d).toNat ∧ Nat.digitChar d ≠ '"' ∧
      Nat.digitChar d ≠ '\\' := by decide
  exact hdigit (n % 16) (Nat.mod_lt n (by decide))

theorem numbered_visible (unit : Nat) : ∀ d ∈ numbered unit, 0x20 ≤ d.toNat ∧ d ≠ '"' := by
  have hdigit (n : Nat) : 0x20 ≤ (hexDigit n).toNat ∧ hexDigit n ≠ '"' :=
    ⟨(hexDigit_visible n).1, (hexDigit_visible n).2.1⟩
  simp only [numbered, List.forall_mem_cons, List.not_mem_nil, false_implies, implies_true, and_true]
  exact ⟨by decide, by decide, hdigit _, hdigit _, hdigit _, hdigit _⟩

theorem visible_of_letterChar? {letter : Char} (h : letterChar? letter = some c) :
    0x20 ≤ letter.toNat := by
  unfold letterChar? at h
  split at h <;> cases h <;> decide

/-- A spelling has no control characters. -/
theorem Spells.visible (h : Spells c s) : ∀ d ∈ s, 0x20 ≤ d.toNat := by
  have hnumbered : ∀ unit, ∀ d ∈ numbered unit, 0x20 ≤ d.toNat := fun unit d hd =>
    (numbered_visible unit d hd).1
  cases h with
  | plain hvisible _ _ => exact List.forall_mem_singleton.mpr hvisible
  | letter hletter =>
    exact List.forall_mem_cons.mpr
      ⟨by decide, List.forall_mem_singleton.mpr (visible_of_letterChar? hletter)⟩
  | unit _ => exact hnumbered _
  | pair _ _ => exact List.forall_mem_append.mpr ⟨hnumbered _, hnumbered _⟩

/-- A literal has no control characters. -/
theorem visible_flatMap (hspell : ∀ c, Spells c (spell c)) (text : List Char) :
    ∀ d ∈ text.flatMap spell, 0x20 ≤ d.toNat := by
  intro d hd
  obtain ⟨c, -, hdc⟩ := List.mem_flatMap.mp hd
  exact (hspell c).visible d hdc

/-! ### Escaped quotation marks -/

/-- The number of backslashes at the end. -/
def slashes (s : List Char) : Nat := (s.reverse.takeWhile (· = '\\')).length

/-- The character behind this text is escaped: it has an odd number of backslashes directly in front of it. -/
def Escaped (before : List Char) : Prop := slashes before % 2 = 1

theorem slashes_nil : slashes [] = 0 := rfl

theorem slashes_concat (s : List Char) (c : Char) :
    slashes (s ++ [c]) = if c = '\\' then slashes s + 1 else 0 := by
  unfold slashes
  rw [List.reverse_append, List.reverse_singleton, List.singleton_append, List.takeWhile_cons]
  by_cases hc : c = '\\'
  · simp [hc]
  · simp [hc]

/-- Behind an even number of backslashes, the text before does not matter. -/
theorem escaped_append (hs : ¬Escaped s) (t : List Char) : Escaped (s ++ t) ↔ Escaped t := by
  unfold Escaped at *
  -- from the end, since that is where the backslashes are counted
  induction t using List.reverseRecOn with
  | nil => simp [slashes_nil, hs]
  | append_singleton t c ih =>
    rw [← List.append_assoc, slashes_concat, slashes_concat]
    split
    · omega
    · rfl

theorem not_escaped_concat (s : List Char) (hc : c ≠ '\\') : ¬Escaped (s ++ [c]) := by
  rw [Escaped, slashes_concat, if_neg hc]
  decide

theorem numbered_eq_concat (unit : Nat) : ∃ s, numbered unit = s ++ [hexDigit unit] :=
  ⟨['\\', 'u', hexDigit (unit / 4096), hexDigit (unit / 256), hexDigit (unit / 16)], rfl⟩

/-- The backslashes of a spelling do not escape the next character. -/
theorem Spells.not_escaped (h : Spells c s) : ¬Escaped s := by
  cases h with
  | plain _ _ hslash => exact not_escaped_concat [] hslash
  | @letter _ letter _ =>
    by_cases hletter : letter = '\\'
    · subst hletter
      unfold Escaped
      decide
    · exact not_escaped_concat ['\\'] hletter
  | unit _ =>
    obtain ⟨s, hs⟩ := numbered_eq_concat c.toNat
    rw [hs]
    exact not_escaped_concat s (hexDigit_visible _).2.2
  | @pair high low _ _ =>
    obtain ⟨s, hs⟩ := numbered_eq_concat low
    rw [hs, ← List.append_assoc]
    exact not_escaped_concat _ (hexDigit_visible _).2.2

/-- A quotation mark in a spelling is escaped. -/
theorem Spells.escaped_of_quote (h : Spells c s) (hs : s = before ++ '"' :: after) :
    Escaped before := by
  have hmem : '"' ∈ s := by simp [hs]
  have hnumbered : ∀ unit, '"' ∉ numbered unit := fun unit hd => (numbered_visible unit _ hd).2 rfl
  cases h with
  | plain _ hquote _ => exact absurd (List.mem_singleton.mp hmem).symm hquote
  | letter _ =>
    -- the mark is the letter itself, for the first character is a backslash
    rcases before with _ | ⟨first, _ | ⟨second, before⟩⟩
    · cases hs
    · obtain ⟨rfl, -⟩ := List.cons.inj hs
      unfold Escaped
      decide
    · simp at hs
  | unit _ => exact absurd hmem (hnumbered _)
  | pair _ _ => exact absurd (List.mem_append.mp hmem) (not_or.mpr ⟨hnumbered _, hnumbered _⟩)

/-- **Every quotation mark inside a literal is escaped.** -/
theorem escaped_of_quote (hspell : ∀ c, Spells c (spell c)) (text : List Char)
    (h : text.flatMap spell = before ++ '"' :: after) : Escaped before := by
  induction text generalizing before with
  | nil => simp at h
  | cons c text ih =>
    rw [List.flatMap_cons, List.append_eq_append_iff] at h
    -- the mark stands behind the spelling of the first character or in it
    rcases h with ⟨more, rfl, hmore⟩ | ⟨tail, hspelled, htail⟩
    · exact (escaped_append (hspell c).not_escaped more).mpr (ih hmore)
    · rcases tail with _ | ⟨d, tail⟩
      · rw [List.append_nil] at hspelled
        have hnil : text.flatMap spell = [] ++ '"' :: after := htail.symm
        have hescaped := (escaped_append (hspell c).not_escaped []).mpr (ih hnil)
        rwa [List.append_nil, hspelled] at hescaped
      · obtain ⟨rfl, -⟩ := List.cons.inj htail
        exact (hspell c).escaped_of_quote hspelled

end Json
end Formwork
