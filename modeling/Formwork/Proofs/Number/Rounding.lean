import Formwork.Number.Shortest
import Mathlib.Algebra.Ring.Nat
import Mathlib.Data.Nat.Log

/-!
# Round trip of floats

The magnitude nearest to a fraction depends on the fraction only, not on its numerator and denominator
(`Magnitude.nearest?_mul_left`).  So a decimal keeps its magnitude when zeros move from its digits to its scale, and
the shortest decimal of a magnitude denotes that magnitude (`Magnitude.magnitude?_shortest`): either it passed the
check, or it is the exact decimal, and every magnitude is the nearest to itself.

The conversion decides a number far outside the range by its width.  `Binary64.ofDecimal_eq` proves that this gives
the same result.
-/
namespace Formwork

namespace Magnitude

variable {a b k : Nat}

/-! ### Fractions -/

theorem roundedQuotient_mul_left (hk : 0 < k) (a b : Nat) :
    roundedQuotient (k * a) (k * b) = roundedQuotient a b := by
  have htwice : 2 * (k * (a % b)) = k * (2 * (a % b)) := Nat.mul_left_comm 2 k _
  simp only [roundedQuotient, Nat.mul_div_mul_left a b hk, Nat.mul_mod_mul_left, htwice,
    Nat.mul_lt_mul_left hk]

theorem roundedQuotient_one (a : Nat) : roundedQuotient a 1 = a := by
  simp [roundedQuotient, Nat.mod_one]

/-- A common factor of numerator and denominator cancels. -/
theorem nearest?_mul_left (hk : 0 < k) (a b : Nat) : nearest? (k * a) (k * b) = nearest? a b := by
  have hshift : ∀ e, (k * b) <<< e = k * (b <<< e) := by
    intro e
    rw [Nat.shiftLeft_eq, Nat.shiftLeft_eq, Nat.mul_assoc]
  simp only [nearest?, Nat.mul_assoc k, Nat.mul_div_mul_left _ b hk, hshift,
    roundedQuotient_mul_left hk]

/-! ### Magnitudes -/

theorem unitsPerOne_pos : 0 < unitsPerOne := by
  have hpos : ∀ e, 0 < 1 <<< e := by
    intro e
    rw [Nat.shiftLeft_eq, Nat.one_mul]
    exact Nat.two_pow_pos e
  exact hpos _

theorem log2_shiftLeft (ha : a ≠ 0) (e : Nat) : (a <<< e).log2 = a.log2 + e := by
  have hpos := Nat.two_pow_pos e
  rw [Nat.shiftLeft_eq, Nat.log2_eq_iff (Nat.mul_ne_zero ha hpos.ne'),
    show a.log2 + e + 1 = a.log2 + 1 + e by omega, Nat.pow_add, Nat.pow_add]
  obtain ⟨hle, hlt⟩ := (Nat.log2_eq_iff ha).mp rfl
  exact ⟨Nat.mul_le_mul_right _ hle, Nat.mul_lt_mul_of_pos_right hlt hpos⟩

/-- The exponent of a magnitude is the least one that leaves its significand 53 bits. -/
theorem log2_units (x : Magnitude) : x.units.log2 - 52 = x.exponent := by
  obtain ⟨significand, exponent, hless, hnormal, -⟩ := x
  rw [Nat.shiftLeft_eq, Nat.one_mul] at hless
  show (significand <<< exponent).log2 - 52 = exponent
  by_cases hzero : significand = 0
  · subst hzero
    rcases hnormal with rfl | hnormal
    · rfl
    · exact absurd hnormal (by decide)
  rw [log2_shiftLeft hzero]
  have hwidth : significand.log2 < 53 := (Nat.log2_lt hzero).mpr hless
  rcases hnormal with rfl | hnormal
  · omega
  · rw [Nat.shiftLeft_eq, Nat.one_mul] at hnormal
    have hfull : ¬ significand.log2 < 52 := by
      rw [Nat.log2_lt hzero]
      omega
    omega

/-- A magnitude is the nearest to itself. -/
theorem nearest?_units (x : Magnitude) : nearest? x.units unitsPerOne = some x := by
  have hscaled : x.units * unitsPerOne / unitsPerOne = x.units :=
    Nat.mul_div_cancel _ unitsPerOne_pos
  have hround : roundedQuotient (x.units * unitsPerOne) (unitsPerOne <<< x.exponent) =
      x.significand := by
    have hnumerator : x.units * unitsPerOne = unitsPerOne <<< x.exponent * x.significand := by
      rw [units, Nat.shiftLeft_eq, Nat.shiftLeft_eq]
      ac_rfl
    have hdenominator : unitsPerOne <<< x.exponent = unitsPerOne <<< x.exponent * 1 :=
      (Nat.mul_one _).symm
    have hpos : 0 < unitsPerOne <<< x.exponent := by
      rw [Nat.shiftLeft_eq]
      exact Nat.mul_pos unitsPerOne_pos (Nat.two_pow_pos _)
    calc roundedQuotient (x.units * unitsPerOne) (unitsPerOne <<< x.exponent)
        = roundedQuotient (unitsPerOne <<< x.exponent * x.significand)
            (unitsPerOne <<< x.exponent * 1) := by rw [hnumerator, ← hdenominator]
      _ = roundedQuotient x.significand 1 := roundedQuotient_mul_left hpos _ _
      _ = x.significand := roundedQuotient_one _
  have hparts : ofParts? x.significand x.exponent = some x := dif_pos x.canonical
  simp only [nearest?, hscaled, log2_units, hround, if_pos x.canonical.1, hparts]

/-- A fraction that is too small rounds to zero. -/
theorem nearest?_of_small (h : 2 * (a * unitsPerOne) < b) : nearest? a b = some zero := by
  have hquotient : a * unitsPerOne / b = 0 := Nat.div_eq_of_lt (by omega)
  have hround : roundedQuotient (a * unitsPerOne) b = 0 := by
    simp only [roundedQuotient, hquotient, Nat.mod_eq_of_lt (show a * unitsPerOne < b by omega),
      if_pos h]
  simp only [nearest?, hquotient, Nat.log2_zero, Nat.zero_sub, Nat.shiftLeft_zero, hround]
  rfl

/-- A fraction that is too great rounds to no finite magnitude. -/
theorem nearest?_of_great {bits : Nat} (hb : 0 < b) (hbits : 1024 ≤ bits) (h : 2 ^ bits * b ≤ a) :
    nearest? a b = none := by
  have hscaled : ∀ places, 2 ^ (bits + places) * b ≤ a * 1 <<< places := by
    intro places
    rw [Nat.shiftLeft_eq, Nat.one_mul, Nat.pow_add, Nat.mul_right_comm]
    exact Nat.mul_le_mul_right _ h
  have hexponent : 2046 ≤ (a * unitsPerOne / b).log2 - 52 := by
    have hquotient : 2 ^ (bits + 1074) ≤ a * unitsPerOne / b :=
      (Nat.le_div_iff_mul_le hb).mpr (hscaled 1074)
    have hne : a * unitsPerOne / b ≠ 0 := (Nat.lt_of_lt_of_le (Nat.two_pow_pos _) hquotient).ne'
    have hlog : ¬ (a * unitsPerOne / b).log2 < bits + 1074 := by
      rw [Nat.log2_lt hne]
      exact Nat.not_lt.mpr hquotient
    omega
  have hparts : ∀ significand e, 2046 ≤ e → ofParts? significand e = none :=
    fun significand e he => dif_neg fun hcanonical => by omega
  simp only [nearest?]
  split
  · exact hparts _ _ hexponent
  · exact hparts _ _ (by omega)

end Magnitude

/-! ### Decimals -/

namespace Decimal

/-- A zero may move from the digits to the scale. -/
theorem magnitude?_zero (digits : Nat) (scale : Int) :
    (⟨digits * 10, scale⟩ : Decimal).magnitude? = (⟨digits, scale + 1⟩ : Decimal).magnitude? := by
  by_cases hscale : 0 ≤ scale
  · have hnumerator : digits * 10 * Nat.pow 10 scale.toNat = digits * Nat.pow 10 (scale + 1).toNat := by
      rw [show (scale + 1).toNat = scale.toNat + 1 by omega]
      show _ * 10 ^ _ = _ * 10 ^ (_ + 1)
      rw [Nat.pow_succ]
      ac_rfl
    have hdenominator : (-(scale + 1)).toNat = (-scale).toNat := by omega
    show Magnitude.nearest? (digits * 10 * _) _ = Magnitude.nearest? (digits * _) (Nat.pow 10 _)
    rw [hnumerator, hdenominator]
  · have hnumerator : digits * 10 * Nat.pow 10 scale.toNat =
        10 * (digits * Nat.pow 10 (scale + 1).toNat) := by
      rw [show scale.toNat = 0 by omega, show (scale + 1).toNat = 0 by omega]
      ac_rfl
    have hdenominator : Nat.pow 10 (-scale).toNat = 10 * Nat.pow 10 (-(scale + 1)).toNat := by
      rw [show (-scale).toNat = (-(scale + 1)).toNat + 1 by omega]
      show 10 ^ (_ + 1) = _ * 10 ^ _
      rw [Nat.pow_succ, Nat.mul_comm]
    show Magnitude.nearest? (digits * 10 * _) (Nat.pow 10 _) = _
    rw [hnumerator, hdenominator]
    exact Magnitude.nearest?_mul_left (by decide) _ _

theorem magnitude?_zeros (digits : Nat) (scale : Int) (count : Nat) :
    (⟨digits * 10 ^ count, scale⟩ : Decimal).magnitude? =
      (⟨digits, scale + count⟩ : Decimal).magnitude? := by
  induction count generalizing scale with
  | zero => simp
  | succ count ih =>
    rw [Nat.pow_succ, ← Nat.mul_assoc, magnitude?_zero, ih]
    congr 2
    omega

/-- A decimal without its trailing zeros has the same magnitude. -/
theorem magnitude?_trimmed (d : Decimal) (fuel : Nat) : (d.trimmed fuel).magnitude? = d.magnitude? := by
  induction fuel generalizing d with
  | zero => rfl
  | succ fuel ih =>
    unfold trimmed
    split
    · rename_i h
      rw [ih, ← magnitude?_zero, Nat.div_mul_cancel (Nat.dvd_of_mod_eq_zero h.2)]
    · rfl

end Decimal

namespace Magnitude

/-- A fraction over a power of two is a decimal. -/
theorem magnitude?_pow_five {exponent : Nat} {scale : Int} (n : Nat) (h : scale = -exponent) :
    (⟨n * Nat.pow 5 exponent, scale⟩ : Decimal).magnitude? = nearest? n (1 <<< exponent) := by
  have hnumerator : n * Nat.pow 5 exponent * Nat.pow 10 scale.toNat = 5 ^ exponent * n := by
    rw [show scale.toNat = 0 by omega, Nat.mul_comm (5 ^ exponent)]
    exact Nat.mul_one _
  have hdenominator : Nat.pow 10 (-scale).toNat = 5 ^ exponent * 1 <<< exponent := by
    rw [show (-scale).toNat = exponent by omega, Nat.shiftLeft_eq, Nat.one_mul]
    exact Nat.mul_pow 5 2 exponent
  unfold Decimal.magnitude?
  rw [hnumerator, hdenominator, nearest?_mul_left (Nat.pow_pos (by decide))]

theorem magnitude?_expansion (x : Magnitude) : x.expansion.magnitude? = some x := by
  have hscale : (-1074 : Int) = -(1074 : Nat) := by decide
  rw [expansion, magnitude?_pow_five x.units hscale, ← unitsPerOne, nearest?_units]

/-- **The shortest decimal of a magnitude denotes the magnitude.** -/
theorem magnitude?_shortest (x : Magnitude) : x.shortest.magnitude? = some x := by
  unfold shortest
  split
  · rename_i d hfound
    obtain ⟨width, -, hreadable⟩ := List.exists_of_findSome?_eq_some hfound
    rw [Decimal.magnitude?_trimmed]
    unfold readable? at hreadable
    have hreads := List.find?_some hreadable
    exact eq_of_beq hreads
  · rw [Decimal.magnitude?_trimmed, magnitude?_expansion]

end Magnitude

/-! ### Numbers far outside the range -/

namespace Binary64

theorem two_pow_le_ten_pow {m n : Nat} (h : m ≤ 3 * n) : 2 ^ m ≤ 10 ^ n :=
  calc 2 ^ m ≤ 2 ^ (3 * n) := Nat.pow_le_pow_right (by decide) h
    _ = 8 ^ n := Nat.pow_mul 2 3 n
    _ ≤ 10 ^ n := Nat.pow_le_pow_left (by decide) n

theorem lt_ten_pow_width (n : Nat) : n < 10 ^ decimalWidth n :=
  (Nat.length_toDigits_le_iff (by decide) Nat.length_toDigits_pos).mp (Nat.le_refl _)

theorem magnitude?_of_great {digits : Nat} {scale : Int} (hdigits : digits ≠ 0) (h : 400 < scale) :
    (⟨digits, scale⟩ : Decimal).magnitude? = none := by
  have hdenominator : Nat.pow 10 (-scale).toNat = 1 := by
    rw [show (-scale).toNat = 0 by omega]
  have hnumerator : 2 ^ (3 * scale.toNat) * 1 ≤ digits * 10 ^ scale.toNat := by
    rw [Nat.mul_one]
    exact (two_pow_le_ten_pow (Nat.le_refl _)).trans
      (Nat.le_mul_of_pos_left _ (Nat.pos_of_ne_zero hdigits))
  unfold Decimal.magnitude?
  rw [hdenominator]
  exact Magnitude.nearest?_of_great Nat.one_pos (by omega) hnumerator

theorem two_mul_shiftLeft_lt {n width shift places : Nat} (hn : n < 10 ^ width)
    (hshift : shift + 1 ≤ 3 * places) : 2 * (n * 1 <<< shift) < 10 ^ (width + places) :=
  calc 2 * (n * 1 <<< shift)
      = n * 2 ^ (shift + 1) := by
        rw [Nat.shiftLeft_eq, Nat.one_mul, Nat.pow_succ]
        ac_rfl
    _ < 10 ^ width * 2 ^ (shift + 1) := Nat.mul_lt_mul_of_pos_right hn (Nat.two_pow_pos _)
    _ ≤ 10 ^ width * 10 ^ places := Nat.mul_le_mul_left _ (two_pow_le_ten_pow hshift)
    _ = 10 ^ (width + places) := (Nat.pow_add 10 width places).symm

theorem magnitude?_of_small {digits : Nat} {scale : Int}
    (h : scale < -(400 + decimalWidth digits : Int)) :
    (⟨digits, scale⟩ : Decimal).magnitude? = some .zero := by
  have hnumerator : digits * Nat.pow 10 scale.toNat = digits := by
    rw [show scale.toNat = 0 by omega]
    exact Nat.mul_one _
  have hless : 2 * (digits * Magnitude.unitsPerOne) < 10 ^ (decimalWidth digits + 400) := by
    rw [Magnitude.unitsPerOne]
    exact two_mul_shiftLeft_lt (lt_ten_pow_width digits) (by decide)
  show Magnitude.nearest? (digits * Nat.pow 10 scale.toNat) (10 ^ (-scale).toNat) = _
  rw [hnumerator]
  exact Magnitude.nearest?_of_small
    (hless.trans_le (Nat.pow_le_pow_right (by decide) (by omega)))

theorem magnitude?_nothing (scale : Int) : (⟨0, scale⟩ : Decimal).magnitude? = some .zero := by
  have hless : 2 * (0 * Nat.pow 10 scale.toNat * Magnitude.unitsPerOne) < Nat.pow 10 (-scale).toNat := by
    rw [Nat.zero_mul, Nat.zero_mul]
    exact Nat.pow_pos (by decide)
  exact Magnitude.nearest?_of_small hless

/-- A magnitude with significand zero is zero. -/
theorem eq_zero_of_significand {x : Magnitude} (h : x.significand = 0) : x = .zero := by
  obtain ⟨significand, exponent, hcanonical⟩ := x
  obtain rfl : significand = 0 := h
  have hexponent : exponent = 0 := by
    rcases hcanonical.2.1 with hzero | hnormal
    · exact hzero
    · exact absurd hnormal (by decide)
  subst hexponent
  rfl

/-- The shortest decimal of another magnitude has nonzero digits. -/
theorem digits_shortest_ne_zero {x : Magnitude} (h : x.significand ≠ 0) : x.shortest.digits ≠ 0 := by
  intro hnone
  have hshortest : (⟨x.shortest.digits, x.shortest.scale⟩ : Decimal).magnitude? = some x :=
    x.magnitude?_shortest
  rw [hnone, magnitude?_nothing] at hshortest
  rw [← Option.some.inj hshortest] at h
  exact h rfl

/-- The float of a decimal is given by the nearest magnitude. -/
theorem ofDecimal_eq (negative : Bool) (digits : Nat) (scale : Int) :
    ofDecimal negative digits scale =
      ((⟨digits, scale⟩ : Decimal).magnitude?.map (finite negative)).getD (infinite negative) := by
  unfold ofDecimal
  split
  · rename_i hzero
    rw [hzero, magnitude?_nothing]
    rfl
  split
  · rename_i hdigits hgreat
    rw [magnitude?_of_great hdigits hgreat]
    rfl
  split
  · rename_i hsmall
    rw [magnitude?_of_small hsmall]
    rfl
  · have hnearest : (⟨digits, scale⟩ : Decimal).magnitude? =
        Magnitude.nearest? (digits * Nat.pow 10 scale.toNat) (Nat.pow 10 (-scale).toNat) := rfl
    rw [hnearest]
    rcases Magnitude.nearest? (digits * Nat.pow 10 scale.toNat) (Nat.pow 10 (-scale).toNat) with _ | x
    · rfl
    · rfl

/-- **The printed decimal of a magnitude denotes it**, with any number of zeros among its digits. -/
theorem ofDecimal_of_magnitude? {x : Magnitude} {d : Decimal} (negative : Bool)
    (h : d.magnitude? = some x) : ofDecimal negative d.digits d.scale = finite negative x := by
  rw [ofDecimal_eq, h]
  rfl

end Binary64
end Formwork
