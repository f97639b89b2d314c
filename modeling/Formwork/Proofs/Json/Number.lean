import Formwork.Json.Parser
import Formwork.Json.Printer
import Formwork.Proofs.Number.Rounding
import Mathlib.Data.List.Induction

/-!
# Reading printed numbers

A printed number is read back: an integer as itself (`atom_integer`), and a float as the float of which it is the
shortest decimal (`atom_number`), in each of the layouts of a decimal.

The end of a number depends on the next character.  In a document a value is followed by white space, a comma, a
closing bracket or nothing (`Closing`), and none of these continues a number.
-/
namespace Formwork
namespace Json

variable {c : Char} {rest s t u whole fraction digits : List Char} {limit : Nat} {negative : Bool}

/-! ### The context of a value -/

/-- What may follow a value: nothing, white space, a comma or a closing bracket. -/
def Closing (rest : List Char) : Prop :=
  ∀ c ∈ rest.head?, isBlank c = true ∨ c = ',' ∨ c = ']' ∨ c = '\x7d'

/-- The next character is no digit. -/
def Digitless (rest : List Char) : Prop := ∀ c ∈ rest.head?, isDigit c = false

theorem closing_nil : Closing [] := nofun

theorem digitless_cons (h : isDigit c = false) : Digitless (c :: rest) := by
  intro first hfirst
  obtain rfl := Option.some.inj hfirst
  exact h

theorem Closing.eq_or (h : Closing rest) :
    rest = [] ∨ ∃ c after, rest = c :: after ∧
      c ∈ [' ', '\t', '\n', '\r', ',', ']', '\x7d'] := by
  cases rest with
  | nil => exact Or.inl rfl
  | cons c after =>
    refine Or.inr ⟨c, after, rfl, ?_⟩
    have hc := h c rfl
    simp only [isBlank, Bool.or_eq_true, decide_eq_true_eq, or_assoc] at hc
    simpa only [List.mem_cons, List.not_mem_nil, or_false] using hc

theorem Closing.digitless (h : Closing rest) : Digitless rest := by
  rcases h.eq_or with rfl | ⟨c, after, rfl, hc⟩
  · exact nofun
  · have hfree : [' ', '\t', '\n', '\r', ',', ']', '\x7d'].all (fun c => !isDigit c) = true := rfl
    exact digitless_cons (by simpa using List.all_eq_true.mp hfree c hc)

/-- There is no fraction. -/
theorem Closing.fractionPart_eq (h : Closing rest) : fractionPart rest = ([], rest) := by
  rcases h.eq_or with rfl | ⟨c, after, rfl, hc⟩
  · rfl
  · have hpoint : c ≠ '.' := by
      rintro rfl
      exact absurd hc (by decide)
    unfold fractionPart
    split
    · rename_i heq
      exact absurd (List.cons.inj heq).1 hpoint
    · rfl

/-- There is no exponent. -/
theorem Closing.exponentPart_eq (h : Closing rest) : exponentPart rest = none := by
  rcases h.eq_or with rfl | ⟨c, after, rfl, hc⟩
  · rfl
  · have hmark : ¬ (c = 'e' ∨ c = 'E') := by
      rintro (rfl | rfl)
      · exact absurd hc (by decide)
      · exact absurd hc (by decide)
    exact if_neg hmark

/-! ### Digits -/

theorem isDigit_of_mem_toDigits {n : Nat} (h : c ∈ Nat.toDigits 10 n) : isDigit c = true := by
  have hdigit := Nat.isDigit_of_mem_toDigits (by decide) (by decide) h
  simpa [isDigit, Char.isDigit, Char.le_def] using hdigit

theorem digitsValue_eq (digits : List Char) : digitsValue digits = Nat.ofDigitChars 10 digits 0 := by
  rw [Nat.ofDigitChars_eq_foldl]
  unfold digitsValue
  congr 1
  funext value c
  rw [Nat.mul_comm]
  rfl

theorem digitsValue_toDigits (n : Nat) : digitsValue (Nat.toDigits 10 n) = n := by
  rw [digitsValue_eq, Nat.ofDigitChars_ten_toDigits]

/-- Leading zeros do not count. -/
theorem digitsValue_zeros (count : Nat) (digits : List Char) :
    digitsValue (Binary64.zeros count ++ digits) = digitsValue digits := by
  rw [digitsValue_eq, digitsValue_eq, Nat.ofDigitChars_append, Binary64.zeros,
    Nat.ofDigitChars_replicate_zero, Nat.mul_zero]

/-- Trailing zeros multiply by ten. -/
theorem digitsValue_append_zeros (count : Nat) (digits : List Char) :
    digitsValue (digits ++ Binary64.zeros count) = digitsValue digits * 10 ^ count := by
  rw [digitsValue_eq, digitsValue_eq, Nat.ofDigitChars_append, Binary64.zeros,
    Nat.ofDigitChars_replicate_zero, Nat.mul_comm]

/-- The value of digits is below the power of ten of their number. -/
theorem digitsValue_lt (h : ∀ c ∈ digits, isDigit c = true) : digitsValue digits < 10 ^ digits.length := by
  induction digits using List.reverseRecOn with
  | nil => decide
  | append_singleton digits c ih =>
    obtain ⟨hdigits, hlast⟩ := List.forall_mem_append.mp h
    have hless := ih hdigits
    have hdigit : c.toNat - 48 < 10 := by
      have hc := List.forall_mem_singleton.mp hlast
      simp only [isDigit, Bool.and_eq_true, decide_eq_true_eq, Char.le_def] at hc
      have hnine : c.toNat ≤ 57 := hc.2
      omega
    have hvalue : digitsValue (digits ++ [c]) = digitsValue digits * 10 + (c.toNat - 48) := by
      rw [digitsValue, List.foldl_append]
      rfl
    rw [hvalue, List.length_append, List.length_singleton, Nat.pow_succ]
    omega

theorem head?_toDigits_ne_zero {n : Nat} (hn : n ≠ 0) : (Nat.toDigits 10 n).head? ≠ some '0' := by
  induction n using Nat.strongRecOn with
  | ind n ih =>
    by_cases hless : n < 10
    · rw [Nat.toDigits_of_lt_base hless]
      intro h
      exact hn (Nat.digitChar_eq_zero.mp (Option.some.inj h))
    · have hrest := ih (n / 10) (by omega) (by omega)
      obtain ⟨c, more, hdigits⟩ := List.exists_cons_of_ne_nil (Nat.toDigits_ne_nil (n := n / 10))
      rw [hdigits] at hrest
      rw [Nat.toDigits_of_base_le (by decide) (Nat.not_lt.mp hless), hdigits]
      exact hrest

/-- A row of digits ends in front of anything but a digit. -/
theorem span_digits (hdigits : ∀ c ∈ digits, isDigit c = true) (hrest : Digitless rest) :
    (digits ++ rest).takeWhile isDigit = digits ∧ (digits ++ rest).dropWhile isDigit = rest := by
  have hnone : rest.takeWhile isDigit = [] ∧ rest.dropWhile isDigit = rest := by
    cases rest with
    | nil => exact ⟨rfl, rfl⟩
    | cons c after =>
      have hc := hrest c rfl
      exact ⟨List.takeWhile_cons_of_neg (by simp [hc]), List.dropWhile_cons_of_neg (by simp [hc])⟩
  rw [List.takeWhile_append_of_pos hdigits, List.dropWhile_append_of_pos hdigits, hnone.1, hnone.2,
    List.append_nil]
  exact ⟨rfl, rfl⟩

/-! ### The parts of a number -/

theorem wholePart_append (hne : digits ≠ []) (hdigits : ∀ c ∈ digits, isDigit c = true)
    (hfirst : digits.head? ≠ some '0') (hrest : Digitless rest) :
    wholePart (digits ++ rest) = some (digits, rest) := by
  cases digits with
  | nil => exact absurd rfl hne
  | cons c more =>
    obtain ⟨htake, hdrop⟩ := span_digits (fun d hd => hdigits d (List.mem_cons_of_mem c hd)) hrest
    have hc : isDigit c = true := hdigits c List.mem_cons_self
    rw [List.cons_append]
    unfold wholePart
    split
    · rename_i heq
      exact absurd (congrArg some (List.cons.inj heq).1) hfirst
    · rename_i heq
      obtain ⟨rfl, rfl⟩ := List.cons.inj heq
      rw [if_pos hc, htake, hdrop]
    · rename_i heq
      cases heq

/-- An integer part is a row of digits. -/
theorem wholePart_digits (h : wholePart s = some (whole, rest)) :
    whole ≠ [] ∧ ∀ c ∈ whole, isDigit c = true := by
  unfold wholePart at h
  split at h
  · cases h
    exact ⟨List.cons_ne_nil _ _, List.forall_mem_singleton.mpr rfl⟩
  · split at h
    · rename_i hc
      cases h
      exact ⟨List.cons_ne_nil _ _, List.forall_mem_cons.mpr
        ⟨hc, List.all_eq_true.mp (List.all_takeWhile)⟩⟩
    · cases h
  · cases h

theorem wholePart_toDigits (n : Nat) (hrest : Digitless rest) :
    wholePart (Nat.toDigits 10 n ++ rest) = some (Nat.toDigits 10 n, rest) := by
  by_cases hn : n = 0
  · subst hn
    rfl
  · exact wholePart_append Nat.toDigits_ne_nil (fun _ => isDigit_of_mem_toDigits)
      (head?_toDigits_ne_zero hn) hrest

theorem fractionPart_append (hne : digits ≠ []) (hdigits : ∀ c ∈ digits, isDigit c = true)
    (hrest : Digitless rest) : fractionPart ('.' :: (digits ++ rest)) = (digits, rest) := by
  obtain ⟨htake, hdrop⟩ := span_digits hdigits hrest
  have hsome : digits.isEmpty = false := by simpa using hne
  simp only [fractionPart, htake, hdrop, hsome]
  rfl

/-- The sign of an exponent. -/
theorem exponentPart_append {sign : Char} (hsign : sign = '-' ∨ sign = '+') (hne : digits ≠ [])
    (hdigits : ∀ c ∈ digits, isDigit c = true) (hrest : Digitless rest) :
    exponentPart ('e' :: sign :: (digits ++ rest)) =
      some (if sign = '-' then -(digitsValue digits : Int) else digitsValue digits, rest) := by
  obtain ⟨htake, hdrop⟩ := span_digits hdigits hrest
  have hsome : digits.isEmpty = false := by simpa using hne
  rcases hsign with rfl | rfl
  · simp only [exponentPart, true_or, if_true, htake, hdrop, hsome]
    rfl
  · simp only [exponentPart, true_or, if_true, htake, hdrop, hsome]
    rfl

/-! ### Numbers without a sign -/

theorem unsignedNumber?_whole (negative : Bool) (hwhole : wholePart s = some (whole, rest))
    (hrest : Closing rest) (hlimit : whole.length ≤ limit) :
    unsignedNumber? limit negative s =
      some (.ok (.int (if negative then -(digitsValue whole : Int) else digitsValue whole), rest)) := by
  simp only [unsignedNumber?, hwhole, Option.bind_eq_bind, Option.bind_some, hrest.fractionPart_eq,
    hrest.exponentPart_eq, List.isEmpty_nil, Bool.not_true, if_neg (Nat.not_lt.mpr hlimit)]
  rfl

theorem unsignedNumber?_fraction (hwhole : wholePart s = some (whole, t))
    (hfraction : fractionPart t = (fraction, rest)) (hne : fraction ≠ []) (hrest : Closing rest) :
    unsignedNumber? limit negative s =
      some (.ok (.float (.ofDecimal negative (digitsValue (whole ++ fraction)) (0 - fraction.length)),
        rest)) := by
  have hsome : fraction.isEmpty = false := by simpa using hne
  simp only [unsignedNumber?, hwhole, Option.bind_eq_bind, Option.bind_some, hfraction,
    hrest.exponentPart_eq, hsome]
  rfl

theorem unsignedNumber?_exponent {exponent : Int} (hwhole : wholePart s = some (whole, t))
    (hfraction : fractionPart t = (fraction, u)) (hexponent : exponentPart u = some (exponent, rest)) :
    unsignedNumber? limit negative s =
      some (.ok (.float (.ofDecimal negative (digitsValue (whole ++ fraction))
        (exponent - fraction.length)), rest)) := by
  simp only [unsignedNumber?, hwhole, Option.bind_eq_bind, Option.bind_some, hfraction, hexponent]
  rfl

/-! ### Layouts -/

/-- The digits of a number other than zero. -/
structure Significant (digits : List Char) : Prop where
  digit : ∀ c ∈ digits, isDigit c = true
  ne_nil : digits ≠ []
  first : digits.head? ≠ some '0'

theorem significant_toDigits {n : Nat} (hn : n ≠ 0) : Significant (Nat.toDigits 10 n) :=
  ⟨fun _ => isDigit_of_mem_toDigits, Nat.toDigits_ne_nil, head?_toDigits_ne_zero hn⟩

theorem Significant.take {count : Nat} (h : Significant digits) (hcount : 0 < count) :
    Significant (digits.take count) := by
  obtain ⟨count, rfl⟩ := Nat.exists_eq_add_of_lt hcount
  cases digits with
  | nil => exact absurd rfl h.ne_nil
  | cons c more =>
    exact ⟨fun d hd => h.digit d (List.mem_of_mem_take hd), by simp, h.first⟩

theorem Significant.append {more : List Char} (h : Significant digits)
    (hmore : ∀ c ∈ more, isDigit c = true) : Significant (digits ++ more) := by
  cases digits with
  | nil => exact absurd rfl h.ne_nil
  | cons c rest =>
    refine ⟨fun d hd => ?_, by simp, h.first⟩
    rcases List.mem_append.mp hd with hd | hd
    · exact h.digit d hd
    · exact hmore d hd

theorem isDigit_of_mem_zeros {count : Nat} (h : c ∈ Binary64.zeros count) : isDigit c = true := by
  rw [List.eq_of_mem_replicate h]
  rfl

theorem digitless_point : Digitless ('.' :: rest) := digitless_cons rfl

theorem digitless_exponent : Digitless ('e' :: rest) := digitless_cons rfl

/-- A number below one, with zeros behind the point. -/
theorem unsignedNumber?_below (zeros : Nat) (h : Significant digits) (hrest : Closing rest) :
    unsignedNumber? limit negative ('0' :: '.' :: (Binary64.zeros zeros ++ digits) ++ rest) =
      some (.ok (.float (.ofDecimal negative (digitsValue digits)
        (0 - (zeros + digits.length : Nat))), rest)) := by
  have hall : ∀ c ∈ Binary64.zeros zeros ++ digits, isDigit c = true := by
    intro c hc
    rcases List.mem_append.mp hc with hc | hc
    · exact isDigit_of_mem_zeros hc
    · exact h.digit c hc
  have hsome : Binary64.zeros zeros ++ digits ≠ [] := by simp [h.ne_nil]
  have hvalue : digitsValue (['0'] ++ (Binary64.zeros zeros ++ digits)) = digitsValue digits :=
    (digitsValue_zeros 1 _).trans (digitsValue_zeros zeros digits)
  rw [List.cons_append, List.cons_append, unsignedNumber?_fraction rfl
    (fractionPart_append hsome hall hrest.digitless) hsome hrest, hvalue]
  simp [Binary64.zeros]

/-- A number with its point among its digits. -/
theorem unsignedNumber?_within {place : Nat} (h : Significant digits) (hpos : 0 < place)
    (hless : place < digits.length) (hrest : Closing rest) :
    unsignedNumber? limit negative (digits.take place ++ '.' :: digits.drop place ++ rest) =
      some (.ok (.float (.ofDecimal negative (digitsValue digits)
        (0 - (digits.length - place : Nat))), rest)) := by
  have hwhole := h.take hpos
  have hsome : digits.drop place ≠ [] := by
    intro hnil
    rw [List.drop_eq_nil_iff] at hnil
    omega
  rw [List.append_assoc, List.cons_append, unsignedNumber?_fraction
    (wholePart_append hwhole.ne_nil hwhole.digit hwhole.first digitless_point)
    (fractionPart_append hsome (fun c hc => h.digit c (List.mem_of_mem_drop hc)) hrest.digitless)
    hsome hrest, List.take_append_drop, List.length_drop]

/-- A whole float, with a zero behind its point. -/
theorem unsignedNumber?_above (zeros : Nat) (h : Significant digits) (hrest : Closing rest) :
    unsignedNumber? limit negative (digits ++ Binary64.zeros zeros ++ ['.', '0'] ++ rest) =
      some (.ok (.float (.ofDecimal negative (digitsValue digits * 10 ^ (zeros + 1)) (-1)), rest)) := by
  have hwhole := h.append (fun c (hc : c ∈ Binary64.zeros zeros) => isDigit_of_mem_zeros hc)
  have hfraction : fractionPart ('.' :: (['0'] ++ rest)) = (['0'], rest) :=
    fractionPart_append (by decide) (List.forall_mem_singleton.mpr rfl) hrest.digitless
  have hvalue : digitsValue (digits ++ Binary64.zeros zeros ++ ['0']) =
      digitsValue digits * 10 ^ (zeros + 1) := by
    rw [show ['0'] = Binary64.zeros 1 from rfl, digitsValue_append_zeros, digitsValue_append_zeros,
      Nat.pow_succ, Nat.mul_assoc]
    rfl
  rw [List.append_assoc _ _ rest, List.cons_append, unsignedNumber?_fraction
    (wholePart_append hwhole.ne_nil hwhole.digit hwhole.first digitless_point) hfraction (by decide)
    hrest, hvalue]
  rfl

/-- A number with an exponent, with its point behind the first digit if there are more. -/
theorem unsignedNumber?_scaled {sign : Char} {power : List Char} (h : Significant digits)
    (hsign : sign = '-' ∨ sign = '+') (hpower : power ≠ []) (hdigits : ∀ c ∈ power, isDigit c = true)
    (hrest : Closing rest) :
    unsignedNumber? limit negative (digits.take 1
        ++ (if digits.length = 1 then [] else '.' :: digits.drop 1) ++ 'e' :: sign :: power ++ rest) =
      some (.ok (.float (.ofDecimal negative (digitsValue digits)
        ((if sign = '-' then -(digitsValue power : Int) else digitsValue power)
          - (digits.length - 1 : Nat))), rest)) := by
  have hwhole := h.take Nat.one_pos
  have hexponent := exponentPart_append hsign hpower hdigits hrest.digitless
  by_cases hone : digits.length = 1
  · have htake : digits.take 1 = digits := List.take_of_length_le hone.le
    have hfraction : fractionPart ('e' :: sign :: (power ++ rest)) =
        ([], 'e' :: sign :: (power ++ rest)) := rfl
    rw [if_pos hone, List.append_nil, List.append_assoc, List.cons_append, List.cons_append,
      unsignedNumber?_exponent
        (wholePart_append hwhole.ne_nil hwhole.digit hwhole.first digitless_exponent) hfraction
        hexponent, htake, List.append_nil, hone]
    rfl
  · have hsome : digits.drop 1 ≠ [] := by
      intro hnil
      have hpos := List.length_pos_iff.mpr h.ne_nil
      rw [List.drop_eq_nil_iff] at hnil
      omega
    rw [if_neg hone, List.append_assoc, List.append_assoc, List.cons_append, List.cons_append,
      List.cons_append, unsignedNumber?_exponent
        (wholePart_append hwhole.ne_nil hwhole.digit hwhole.first digitless_point)
        (fractionPart_append hsome (fun c hc => h.digit c (List.mem_of_mem_drop hc))
          digitless_exponent) hexponent, List.take_append_drop, List.length_drop]

/-- **The layout of a decimal is read as the decimal**, or as one with more zeros and the same magnitude. -/
theorem unsignedNumber?_layout (limit : Nat) (negative : Bool) {d : Decimal} (hd : d.digits ≠ 0)
    (hrest : Closing rest) :
    ∃ e : Decimal, e.magnitude? = d.magnitude? ∧
      unsignedNumber? limit negative (Binary64.layout d ++ rest) =
        some (.ok (.float (.ofDecimal negative e.digits e.scale), rest)) := by
  obtain ⟨n, scale⟩ := d
  have h := significant_toDigits hd
  have hvalue : digitsValue (Nat.toDigits 10 n) = n := digitsValue_toDigits n
  have hlength : 0 < (Nat.toDigits 10 n).length := Nat.length_toDigits_pos
  unfold Binary64.layout
  simp only at hd h ⊢
  generalize Nat.toDigits 10 n = digits at h hvalue hlength ⊢
  split
  · rename_i hplace
    have hscale : (0 - ((-(digits.length + scale)).toNat + digits.length : Nat) : Int) = scale := by
      omega
    refine ⟨⟨n, scale⟩, rfl, ?_⟩
    rw [unsignedNumber?_below _ h hrest, hvalue, hscale]
  split
  · rename_i hplace
    split
    · rename_i hless
      have hscale : (0 - (digits.length - (digits.length + scale).toNat : Nat) : Int) = scale := by
        omega
      refine ⟨⟨n, scale⟩, rfl, ?_⟩
      rw [unsignedNumber?_within h (by omega) (by omega) hrest, hvalue, hscale]
    · rename_i hmore
      have hscale : -1 + ((digits.length + scale).toNat - digits.length + 1 : Nat) = scale := by
        omega
      refine ⟨⟨n * 10 ^ ((digits.length + scale).toNat - digits.length + 1), -1⟩, ?_, ?_⟩
      · rw [Decimal.magnitude?_zeros, hscale]
      · rw [unsignedNumber?_above _ h hrest, hvalue]
  · refine ⟨⟨n, scale⟩, rfl, ?_⟩
    generalize hexponent : (digits.length : Int) + scale - 1 = exponent
    have hpower : digitsValue (Binary64.zeros (2 - (Nat.toDigits 10 exponent.natAbs).length) ++
        Nat.toDigits 10 exponent.natAbs) = exponent.natAbs := by
      rw [digitsValue_zeros, digitsValue_toDigits]
    have hdigits : ∀ c ∈ Binary64.zeros (2 - (Nat.toDigits 10 exponent.natAbs).length) ++
        Nat.toDigits 10 exponent.natAbs, isDigit c = true := by
      intro c hc
      rcases List.mem_append.mp hc with hc | hc
      · exact isDigit_of_mem_zeros hc
      · exact isDigit_of_mem_toDigits hc
    have hsome : Binary64.zeros (2 - (Nat.toDigits 10 exponent.natAbs).length) ++
        Nat.toDigits 10 exponent.natAbs ≠ [] := by simp [Nat.toDigits_ne_nil]
    by_cases hneg : exponent < 0
    · have hscale : -(exponent.natAbs : Int) - (digits.length - 1 : Nat) = scale := by omega
      rw [if_pos hneg, unsignedNumber?_scaled h (Or.inl rfl) hsome hdigits hrest, hvalue, hpower,
        if_pos rfl, hscale]
    · have hscale : (exponent.natAbs : Int) - (digits.length - 1 : Nat) = scale := by omega
      rw [if_neg hneg, unsignedNumber?_scaled h (Or.inr rfl) hsome hdigits hrest, hvalue, hpower,
        if_neg (by decide), hscale]

/-! ### Numbers in a text -/

theorem ne_of_isDigit {letter : Char} (hc : isDigit c = true) (hletter : isDigit letter = false) :
    letter ≠ c := by
  rintro rfl
  rw [hletter] at hc
  cases hc

/-- No word begins with a digit, or with a sign and a digit. -/
theorem findSome?_words (hc : isDigit c = true) (hs : s = c :: t ∨ s = '-' :: c :: t) :
    (words.findSome? fun (word, value) => (after? word s).map fun rest => (value, rest)) = none := by
  have hafter : ∀ word ∈ words, after? word.1 s = none := by
    simp only [words, List.forall_mem_cons]
    rcases hs with rfl | rfl
    · exact ⟨if_neg (ne_of_isDigit hc rfl), if_neg (ne_of_isDigit hc rfl),
        if_neg (ne_of_isDigit hc rfl), if_neg (ne_of_isDigit hc rfl), if_neg (ne_of_isDigit hc rfl),
        if_neg (ne_of_isDigit hc rfl), nofun⟩
    · exact ⟨rfl, rfl, rfl, rfl, rfl, if_neg (ne_of_isDigit hc rfl), nofun⟩
  rw [List.findSome?_eq_none_iff]
  rintro ⟨word, value⟩ hword
  rw [Option.map_eq_none_iff]
  exact hafter _ hword

/-- A number begins with a digit. -/
theorem isDigit_of_unsignedNumber? {result : Parse Json}
    (h : unsignedNumber? limit negative s = some result) : ∃ c t, s = c :: t ∧ isDigit c = true := by
  rcases s with _ | ⟨c, t⟩
  · cases h
  · refine ⟨c, t, rfl, ?_⟩
    by_contra hc
    have hwhole : wholePart (c :: t) = none := by
      unfold wholePart
      split
      · rename_i heq
        rw [(List.cons.inj heq).1] at hc
        exact absurd rfl hc
      · rename_i heq
        obtain ⟨rfl, -⟩ := List.cons.inj heq
        exact if_neg hc
      · rfl
    rw [unsignedNumber?, hwhole] at h
    cases h

/-- A number in a text, behind its sign. -/
theorem atom_signed {result : Parse Json} (h : unsignedNumber? limit negative s = some result) :
    atom limit ((if negative then ['-'] else []) ++ s) = result := by
  obtain ⟨c, t, rfl, hc⟩ := isDigit_of_unsignedNumber? h
  unfold atom
  cases negative with
  | true =>
    rw [if_pos rfl, List.singleton_append, findSome?_words hc (Or.inr rfl)]
    simp only [h, Option.getD_some]
  | false =>
    rw [if_neg Bool.false_ne_true, List.nil_append, findSome?_words hc (Or.inl rfl)]
    simp only
    split
    · rename_i heq
      exact absurd (List.cons.inj heq).1.symm (ne_of_isDigit hc rfl)
    · rw [h, Option.getD_some]

theorem integer_eq (n : Int) :
    integer n = (if decide (n < 0) then ['-'] else []) ++ Nat.toDigits 10 n.natAbs := by
  cases n with
  | ofNat n => rfl
  | negSucc n =>
    rw [if_pos (decide_eq_true (Int.negSucc_lt_zero n))]
    rfl

/-- **An integer is read back.** -/
theorem atom_integer {n : Int} (hrest : Closing rest)
    (hlimit : (Nat.toDigits 10 n.natAbs).length ≤ limit) :
    atom limit (integer n ++ rest) = .ok (.int n, rest) := by
  have hnumber := unsignedNumber?_whole (decide (n < 0)) (wholePart_toDigits n.natAbs hrest.digitless)
    hrest hlimit
  rw [integer_eq, List.append_assoc, atom_signed hnumber, digitsValue_toDigits]
  congr 3
  split
  · rename_i hneg
    rw [decide_eq_true_eq] at hneg
    omega
  · rename_i hneg
    rw [decide_eq_true_eq] at hneg
    omega

/-- **A float is read back.** -/
theorem atom_number (x : Binary64) (hrest : Closing rest) :
    atom limit (x.text .json ++ rest) = .ok (.float x, rest) := by
  cases x with
  | nan => rfl
  | infinite negative =>
    cases negative with
    | true => rfl
    | false => rfl
  | finite negative x =>
    show atom limit ((if negative then ['-'] else []) ++ _ ++ rest) = _
    rw [List.append_assoc]
    by_cases hzero : x.significand = 0
    · have hfraction : fractionPart ('.' :: (['0'] ++ rest)) = (['0'], rest) :=
        fractionPart_append (by decide) (List.forall_mem_singleton.mpr rfl) hrest.digitless
      have hwhole : wholePart (['0', '.', '0'] ++ rest) = some (['0'], '.' :: (['0'] ++ rest)) := rfl
      have hnumber : unsignedNumber? limit negative (['0', '.', '0'] ++ rest) =
          some (.ok (.float (.ofDecimal negative 0 (-1)), rest)) :=
        unsignedNumber?_fraction hwhole hfraction (by decide) hrest
      rw [if_pos hzero, atom_signed hnumber, Binary64.eq_zero_of_significand hzero]
      rfl
    · obtain ⟨d, hsame, hnumber⟩ := unsignedNumber?_layout limit negative
        (Binary64.digits_shortest_ne_zero hzero) hrest
      rw [if_neg hzero, atom_signed hnumber,
        Binary64.ofDecimal_of_magnitude? negative (hsame.trans x.magnitude?_shortest)]

end Json
end Formwork
