import Formwork.Calendar
import Mathlib.Data.List.GetD
import Mathlib.Tactic.IntervalCases

/-!
# Round trip of moments

A moment is written in ISO format, as a date and a time of day, and read back (`Moment.read_clock`).  This rests on two
facts.  The day number and the date determine each other (`Calendar.dayNumber_dateOf`): the date decomposes the number
into cycles of 400, 100, 4 and 1 years.  And a zero-padded decimal number is read as the number
(`Moment.number?_padded`).
-/
namespace Formwork

namespace Calendar

/-! ### Days and dates -/

theorem foldl_add_eq (lengths : List Nat) (start : Nat) :
    lengths.foldl (· + ·) start = start + lengths.sum := by
  induction lengths generalizing start with
  | nil => rfl
  | cons length rest ih => rw [List.foldl_cons, ih, List.sum_cons, Nat.add_assoc]

theorem sum_monthLengths (year : Nat) :
    (monthLengths year).sum = if isLeap year then 366 else 365 := by
  unfold monthLengths
  cases isLeap year
  · rfl
  · rfl

/-- The month of a day of the year, with the days before it and the day in it. -/
theorem monthOf_spec {lengths : List Nat} {day : Nat} (h : day < lengths.sum) (month : Nat) :
    ∃ i rest, monthOf month day lengths = (month + i, rest + 1) ∧ i < lengths.length ∧
      rest < lengths.getD i 0 ∧ (lengths.take i).sum + rest = day := by
  induction lengths generalizing day month with
  | nil => cases h
  | cons length more ih =>
    rw [monthOf]
    by_cases hday : day < length
    · rw [if_pos hday]
      exact ⟨0, day, rfl, Nat.succ_pos _, hday, Nat.zero_add day⟩
    · rw [List.sum_cons] at h
      obtain ⟨i, rest, hmonth, hi, hrest, hsum⟩ := ih (by omega : day - length < more.sum) (month + 1)
      rw [if_neg hday, hmonth]
      refine ⟨i + 1, rest, by rw [Nat.add_assoc, Nat.add_comm 1 i], Nat.succ_lt_succ hi, hrest, ?_⟩
      rw [List.take_succ_cons, List.sum_cons]
      omega

/-- The days before a year, from its position in the cycles of 400, 100, 4 and 1 years. -/
theorem daysBefore_cycles {hundreds fours ones : Nat} (fourHundreds : Nat) (hhundreds : hundreds ≤ 3)
    (hfours : fours ≤ 24) (hones : ones ≤ 3) :
    daysBefore (fourHundreds * 400 + hundreds * 100 + fours * 4 + ones + 1) =
      fourHundreds * 146097 + hundreds * 36524 + fours * 1461 + ones * 365 := by
  unfold daysBefore
  simp only [Nat.add_sub_cancel]
  omega

/-- The last year of four is a leap year, unless it is the last one of a hundred but not of four hundred. -/
theorem isLeap_cycles {hundreds fours : Nat} (fourHundreds : Nat) (hfours : fours ≤ 24)
    (h : fours < 24 ∨ hundreds = 3) :
    isLeap (fourHundreds * 400 + hundreds * 100 + fours * 4 + 3 + 1) = true := by
  unfold isLeap
  rw [Bool.and_eq_true, Bool.or_eq_true, decide_eq_true_eq, decide_eq_true_eq, decide_eq_true_eq]
  omega

theorem le_of_mem_monthLengths {year length : Nat} (h : length ∈ monthLengths year) : length ≤ 31 := by
  have hall : ∀ length ∈ monthLengths year, length ≤ 31 := by
    unfold monthLengths
    cases isLeap year
    · decide
    · decide
  exact hall length h

/-- A date of the calendar. -/
structure IsDate (year month day : Nat) : Prop where
  year_pos : 1 ≤ year
  month_pos : 1 ≤ month
  month_le : month ≤ 12
  day_pos : 1 ≤ day
  day_le : day ≤ (monthLengths year).getD (month - 1) 0

theorem IsDate.day_le_thirtyOne {year month day : Nat} (h : IsDate year month day) : day ≤ 31 := by
  have hmonth : month - 1 < (monthLengths year).length := by
    have hle := h.month_le
    show month - 1 < 12
    omega
  have hlength := h.day_le
  rw [List.getD_eq_getElem _ _ hmonth] at hlength
  exact hlength.trans (le_of_mem_monthLengths (List.getElem_mem hmonth))

/-- **The day number of the date of a day is its number**, up to the last year. -/
theorem dayNumber_dateOf (number : Nat) :
    ∃ year month day, dateOf number = (year, month, day) ∧ IsDate year month day ∧
      dayNumber year month day = number ∧ (number < dayNumber (lastYear + 1) 1 1 → year ≤ lastYear) := by
  obtain ⟨a, ha⟩ : ∃ a, a = number / 146097 := ⟨_, rfl⟩
  obtain ⟨b, hb⟩ : ∃ b, b = min (number % 146097 / 36524) 3 := ⟨_, rfl⟩
  obtain ⟨c, hc⟩ : ∃ c, c = (number % 146097 - b * 36524) / 1461 := ⟨_, rfl⟩
  obtain ⟨d, hd⟩ : ∃ d, d = min ((number % 146097 - b * 36524) % 1461 / 365) 3 := ⟨_, rfl⟩
  obtain ⟨rest, hrest⟩ : ∃ rest, rest = (number % 146097 - b * 36524) % 1461 - d * 365 := ⟨_, rfl⟩
  have hbounds : b ≤ 3 ∧ c ≤ 24 ∧ d ≤ 3 := by omega
  have hnumber : a * 146097 + b * 36524 + c * 1461 + d * 365 + rest = number := by omega
  have hdays : rest < (monthLengths (a * 400 + b * 100 + c * 4 + d + 1)).sum := by
    rw [sum_monthLengths]
    by_cases hlast : rest = 365
    · obtain ⟨rfl, hleap⟩ : d = 3 ∧ (c < 24 ∨ b = 3) := by omega
      rw [if_pos (isLeap_cycles a hbounds.2.1 hleap), hlast]
      decide
    · split <;> omega
  obtain ⟨i, k, hmonth, hi, hk, hsum⟩ := monthOf_spec hdays 1
  have hbefore := daysBefore_cycles a hbounds.1 hbounds.2.1 hbounds.2.2
  replace hi : i < 12 := hi
  refine ⟨a * 400 + b * 100 + c * 4 + d + 1, 1 + i, k + 1, ?_,
    ⟨Nat.succ_pos _, Nat.le_add_right 1 i, by omega, Nat.succ_pos k, ?_⟩, ?_, fun hend => ?_⟩
  · simp only [dateOf, ← ha, ← hb, ← hc, ← hd, ← hrest, hmonth]
  · rw [Nat.add_sub_cancel_left]
    exact hk
  · rw [dayNumber, foldl_add_eq, Nat.add_sub_cancel_left, Nat.add_sub_cancel, hbefore, Nat.add_assoc,
      hsum, hnumber]
  · have hlast : dayNumber (lastYear + 1) 1 1 = 3652059 := by decide
    rw [hlast] at hend
    unfold lastYear
    omega

end Calendar

namespace Moment

open Calendar

/-! ### Digits -/

/-- The digits of a zero-padded number. -/
theorem toList_padded_succ (width n : Nat) :
    (padded (width + 2) n).toList = (padded (width + 1) (n / 10)).toList ++ [Nat.digitChar (n % 10)] := by
  simp only [padded, String.toList_ofList]
  by_cases h : n < 10
  · rw [Nat.toDigits_of_lt_base h, Nat.div_eq_of_lt h, Nat.mod_eq_of_lt h, Nat.toDigits_of_lt_base (by decide)]
    simp [List.replicate_succ', Nat.digitChar]
  · rw [Nat.toDigits_of_base_le (by decide) (Nat.not_lt.mp h), ← List.append_assoc, List.length_append]
    simp

theorem toList_padded_one {n : Nat} (h : n < 10) : (padded 1 n).toList = [Nat.digitChar n] := by
  simp [padded, Nat.toDigits_of_lt_base h]

theorem toList_padded_two {n : Nat} (h : n < 100) :
    (padded 2 n).toList = [Nat.digitChar (n / 10), Nat.digitChar (n % 10)] := by
  rw [toList_padded_succ, toList_padded_one (by omega)]
  rfl

theorem toList_padded_four {n : Nat} (h : n < 10000) :
    (padded 4 n).toList = [Nat.digitChar (n / 10 / 10 / 10), Nat.digitChar (n / 10 / 10 % 10),
      Nat.digitChar (n / 10 % 10), Nat.digitChar (n % 10)] := by
  rw [toList_padded_succ, toList_padded_succ, toList_padded_succ, toList_padded_one (by omega)]
  rfl

theorem digit?_digitChar {n : Nat} (h : n < 10) : digit? (Nat.digitChar n) = some n := by
  interval_cases n <;> decide

theorem decimalDigit?_digitChar {n : Nat} (h : n < 10) :
    Text.decimalDigit? (Nat.digitChar n) = some n := by
  interval_cases n <;> decide

theorem withUnits?_digitChar {least greatest tens units : Nat} (h : units < 10)
    (hleast : least ≤ tens * 10 + units) (hgreatest : tens * 10 + units ≤ greatest) :
    withUnits? least greatest tens (Nat.digitChar units) = some (tens * 10 + units) := by
  simp only [withUnits?, decimalDigit?_digitChar h, digit?_digitChar h, ite_self]
  exact if_pos ⟨hleast, hgreatest⟩

/-- **A number of two digits is read as the number.** -/
theorem number?_padded {least greatest n : Nat} (h : n < 100) (hleast : least ≤ n)
    (hgreatest : n ≤ greatest) (rest : List Char) :
    number? least greatest ((padded 2 n).toList ++ rest) = some (n, rest) := by
  have hn : n / 10 * 10 + n % 10 = n := by omega
  have hpair : (digit? (Nat.digitChar (n / 10))).bind
      (withUnits? least greatest · (Nat.digitChar (n % 10))) = some n := by
    rw [digit?_digitChar (by omega), Option.bind_some,
      withUnits?_digitChar (Nat.mod_lt n (by decide)) (hn.symm ▸ hleast) (hn.symm ▸ hgreatest), hn]
  rw [toList_padded_two h, List.cons_append, List.cons_append, List.nil_append, number?, hpair]

theorem day?_padded {n : Nat} (hleast : 1 ≤ n) (hgreatest : n ≤ 31) (rest : List Char) :
    day? ((padded 2 n).toList ++ rest) = some (n, rest) := by
  have hnumber := number?_padded (by omega) hleast hgreatest rest
  rw [toList_padded_two (by omega)] at hnumber ⊢
  have hblank : ∀ k < 4, Nat.digitChar k ≠ ' ' := by decide
  rw [← hnumber, day?]
  exact fun c more hstart => hblank _ (by omega) (List.cons.inj hstart).1

theorem year?_padded {n : Nat} (h : n < 10000) (rest : List Char) :
    year? ((padded 4 n).toList ++ rest) = some (n, rest) := by
  rw [toList_padded_four h]
  simp only [List.cons_append, List.nil_append, year?, List.mapM_cons, List.mapM_nil,
    decimalDigit?_digitChar (show n / 10 / 10 / 10 < 10 by omega),
    decimalDigit?_digitChar (Nat.mod_lt _ (show 0 < 10 by decide))]
  show some (((((0 * 10 + n / 10 / 10 / 10) * 10 + n / 10 / 10 % 10) * 10 + n / 10 % 10) * 10 + n % 10), rest)
    = some (n, rest)
  rw [show (((0 * 10 + n / 10 / 10 / 10) * 10 + n / 10 / 10 % 10) * 10 + n / 10 % 10) * 10 + n % 10 = n by
    omega]

/-! ### Dates and times of day -/

/-- A date and a time of day in ISO format, the time in seconds. -/
def clock (year month day seconds : Nat) : List Char :=
  (padded 4 year).toList ++ '-' :: ((padded 2 month).toList ++ '-' :: ((padded 2 day).toList ++ 'T' ::
    ((padded 2 (seconds / 3600)).toList ++ ':' :: ((padded 2 (seconds / 60 % 60)).toList ++ ':' ::
      (padded 2 (seconds % 60)).toList))))

variable {year month day seconds : Nat}

theorem parts?_clock (hdate : IsDate year month day) (hyear : year ≤ lastYear) (hseconds : seconds < 86400) :
    parts? (clock year month day seconds) =
      some ((year, month, day, seconds / 3600, seconds / 60 % 60, seconds % 60), []) := by
  have hlast : number? 0 61 (padded 2 (seconds % 60)).toList = some (seconds % 60, []) := by
    simpa using number?_padded (by omega) (Nat.zero_le _) (by omega : seconds % 60 ≤ 61) []
  have hmonth := hdate.month_le
  rw [parts?, clock, year?_padded (Nat.lt_succ_of_le hyear)]
  simp only [behind?, List.contains_cons, bind, Option.bind, BEq.rfl, Bool.true_or, if_true,
    number?_padded (by omega) hdate.month_pos hmonth,
    day?_padded hdate.day_pos hdate.day_le_thirtyOne,
    number?_padded (n := seconds / 3600) (by omega) (Nat.zero_le _) (by omega : seconds / 3600 ≤ 23),
    number?_padded (n := seconds / 60 % 60) (by omega) (Nat.zero_le _) (by omega : seconds / 60 % 60 ≤ 59), hlast]
  rfl

/-- **A date and a time of day in ISO format are read as their moment.** -/
theorem read_clock (hdate : IsDate year month day) (hyear : year ≤ lastYear) (hseconds : seconds < 86400) :
    Moment.read (String.ofList (clock year month day seconds)) =
      .ok ⟨(dayNumber year month day * 86400 + seconds) * second⟩ := by
  have hpos := hdate.year_pos
  have hday := hdate.day_le
  rw [Moment.read, String.toList_ofList, parts?_clock hdate hyear hseconds]
  simp only [ne_eq, not_true_eq_false, if_false]
  rw [if_neg (by omega), if_neg (by omega), if_neg (by omega), Moment.of]
  refine congrArg (fun micros => Except.ok (Moment.mk (micros * second))) ?_
  omega

/-! ### Moments in ISO format -/

/-- The moment without its fraction of a second. -/
def wholeSecond (moment : Moment) : Moment := ⟨moment.micros / second * second⟩

theorem isDigit_of_mem_padded {c : Char} {width n : Nat} (h : c ∈ (padded width n).toList) :
    c.isDigit = true := by
  rw [padded, String.toList_ofList, List.mem_append] at h
  rcases h with hzero | hdigit
  · rw [List.eq_of_mem_replicate hzero]
    decide
  · exact Nat.isDigit_of_mem_toDigits (by decide) (by decide) hdigit

theorem mem_clock {c : Char} (h : c ∈ clock year month day seconds) :
    c.isDigit = true ∨ c = '-' ∨ c = 'T' ∨ c = ':' := by
  simp only [clock, List.mem_append, List.mem_cons] at h
  rcases h with h | h | h | h | h | h | h | h | h | h | h
  all_goals first
    | exact Or.inl (isDigit_of_mem_padded h)
    | exact Or.inr (by simp only [h, true_or, or_true])

/-- The fraction of a second with its point, if it is not zero. -/
def fraction (moment : Moment) : List Char :=
  if moment.micros % second = 0 then [] else '.' :: (padded 6 (moment.micros % second)).toList

theorem toList_text {moment : Moment} (h : dateOf (moment.micros / second / 86400) = (year, month, day)) :
    moment.text.toList = clock year month day (moment.micros / second % 86400) ++ moment.fraction := by
  simp only [text, h, fraction, clock]
  split
  · simp [toString]
  · simp [toString]

theorem notMem_clock {c : Char} (h : (c.isDigit || ['-', 'T', ':'].contains c) = false) :
    c ∉ clock year month day seconds := by
  intro hc
  rcases mem_clock hc with hdigit | rfl | rfl | rfl
  · rw [hdigit] at h
    cases h
  · cases h
  · cases h
  · cases h

theorem notMem_fraction {c : Char} (h : (c.isDigit || c = '.') = false) (moment : Moment) :
    c ∉ moment.fraction := by
  intro hc
  unfold fraction at hc
  split at hc
  · cases hc
  · rcases List.mem_cons.mp hc with rfl | hdigit
    · cases h
    · rw [isDigit_of_mem_padded hdigit] at h
      cases h

/-- **A moment in ISO format is a date and a time of day**, which are read as the moment without its fraction of a
second, and then the fraction. -/
theorem exists_text_eq {moment : Moment} (h : moment.micros < ending.micros) :
    ∃ year month day seconds,
      Moment.read (String.ofList (clock year month day seconds)) = .ok moment.wholeSecond ∧
      moment.text.toList = clock year month day seconds ++ moment.fraction := by
  have hmicros : moment.micros / second < dayNumber (lastYear + 1) 1 1 * 86400 := by
    have hending : ending.micros = dayNumber (lastYear + 1) 1 1 * 86400 * second := by decide
    rw [hending] at h
    exact Nat.div_lt_of_lt_mul (Nat.mul_comm .. ▸ h)
  obtain ⟨year, month, day, hdate, hvalid, hnumber, hlast⟩ := dayNumber_dateOf (moment.micros / second / 86400)
  have hread := read_clock hvalid (hlast (Nat.div_lt_of_lt_mul (Nat.mul_comm .. ▸ hmicros)))
    (Nat.mod_lt (moment.micros / second) (by decide : 0 < 86400))
  rw [hnumber, Nat.div_add_mod'] at hread
  exact ⟨year, month, day, _, hread, toList_text hdate⟩

/-- A moment computed from microseconds lies before the end of the calendar. -/
theorem lt_ending_of_ofMicros? {micros : Int} {moment : Moment} (h : ofMicros? micros = some moment) :
    moment.micros < ending.micros := by
  unfold ofMicros? at h
  simp only at h
  split at h
  · cases h
    show (_ : Int).toNat < _
    omega
  · cases h

end Moment
end Formwork
