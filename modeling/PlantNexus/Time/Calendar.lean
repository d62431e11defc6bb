import Mathlib.Tactic.Ring
import Mathlib.Tactic.IntervalCases

/-! The proleptic Gregorian calendar.

Days are numbered as `datetime` numbers them: day 1 is 1 January of year 1 and
`maxOrdinal` is 31 December of year 9999. `ymdToOrdinal` reads a date as its day
number and `ordinalToYmd` gives the date back; `ordinalToYmd_spec` says that the
second inverts the first on the whole range and always names a date of the
calendar. -/
namespace PlantNexus.Time

/-- A leap year of the proleptic Gregorian calendar. -/
def isLeap (year : Nat) : Bool :=
  year % 4 == 0 && (year % 100 != 0 || year % 400 == 0)

/-- Days before the first of a month. -/
def daysBeforeMonth (leap : Bool) (month : Nat) : Nat :=
  let shift := if leap && month > 2 then 1 else 0
  match month with
  | 1 => 0
  | 2 => 31
  | 3 => 59 + shift
  | 4 => 90 + shift
  | 5 => 120 + shift
  | 6 => 151 + shift
  | 7 => 181 + shift
  | 8 => 212 + shift
  | 9 => 243 + shift
  | 10 => 273 + shift
  | 11 => 304 + shift
  | 12 => 334 + shift
  | _ => 0

def daysInMonth (leap : Bool) (month : Nat) : Nat :=
  match month with
  | 2 => if leap then 29 else 28
  | 4 => 30
  | 6 => 30
  | 9 => 30
  | 11 => 30
  | _ => 31

/-- Days before the first of January of a year. -/
def daysBeforeYear (year : Nat) : Nat :=
  let before := year - 1
  before * 365 + before / 4 - before / 100 + before / 400

/-- 31 December 9999. -/
def maxOrdinal : Nat := 3652059

/-- A date of the calendar, in the years `datetime` accepts. -/
structure IsDate (year month day : Nat) : Prop where
  year_pos : 1 ≤ year
  year_le : year ≤ 9999
  month_pos : 1 ≤ month
  month_le : month ≤ 12
  day_pos : 1 ≤ day
  day_le : day ≤ daysInMonth (isLeap year) month

instance (year month day : Nat) : Decidable (IsDate year month day) :=
  decidable_of_iff
    (1 ≤ year ∧ year ≤ 9999 ∧ 1 ≤ month ∧ month ≤ 12 ∧ 1 ≤ day ∧
      day ≤ daysInMonth (isLeap year) month)
    ⟨fun ⟨a, b, c, d, e, f⟩ => ⟨a, b, c, d, e, f⟩,
      fun ⟨a, b, c, d, e, f⟩ => ⟨a, b, c, d, e, f⟩⟩

/-- The day number of a date. -/
def ymdToOrdinal (year month day : Nat) : Nat :=
  daysBeforeYear year + daysBeforeMonth (isLeap year) month + day

/-- The year of a day number and the days of that year that precede it, by
splitting off 400-, 100-, 4- and 1-year cycles. -/
def ordinalToYearDay (ordinal : Nat) : Nat × Nat :=
  let n := ordinal - 1
  let n400 := n / 146097
  let n := n % 146097
  let n100 := n / 36524
  let n := n % 36524
  let n4 := n / 1461
  let n := n % 1461
  let n1 := n / 365
  let n := n % 365
  let year := n400 * 400 + n100 * 100 + n4 * 4 + n1 + 1
  -- the last day of a leap cycle is day 366 of the cycle's last year
  if n1 = 4 ∨ n100 = 4 then (year - 1, 365) else (year, n)

/-- The month of a zero-based day of the year. -/
def monthOfDay (leap : Bool) (n : Nat) : Nat :=
  ((List.range 12).filter fun k => daysBeforeMonth leap (k + 1) ≤ n).length

/-- The date of a day number. -/
def ordinalToYmd (ordinal : Nat) : Nat × Nat × Nat :=
  let (year, n) := ordinalToYearDay ordinal
  let month := monthOfDay (isLeap year) n
  (year, month, n - daysBeforeMonth (isLeap year) month + 1)

theorem monthOfDay_spec (leap : Bool) (n : Nat) (hn : n < (if leap then 366 else 365)) :
    1 ≤ monthOfDay leap n ∧ monthOfDay leap n ≤ 12 ∧
      daysBeforeMonth leap (monthOfDay leap n) ≤ n ∧
      n < daysBeforeMonth leap (monthOfDay leap n) + daysInMonth leap (monthOfDay leap n) := by
  have table : ∀ leap : Bool, ∀ n < 366, n < (if leap then 366 else 365) →
      1 ≤ monthOfDay leap n ∧ monthOfDay leap n ≤ 12 ∧
        daysBeforeMonth leap (monthOfDay leap n) ≤ n ∧
        n < daysBeforeMonth leap (monthOfDay leap n) +
          daysInMonth leap (monthOfDay leap n) := by decide +kernel
  refine table leap n ?_ hn
  cases leap <;> simp at hn <;> omega

/-- The days of a year with a given place in its 400-, 100- and 4-year cycles. -/
theorem daysBeforeYear_cycles (a b c d : Nat) (hb : b ≤ 3) (hc : c ≤ 24) (hd : d ≤ 3) :
    daysBeforeYear (a * 400 + b * 100 + c * 4 + d + 1) =
      a * 146097 + b * 36524 + c * 1461 + d * 365 := by
  have h4 : (a * 400 + b * 100 + c * 4 + d) / 4 = a * 100 + b * 25 + c := by omega
  have h100 : (a * 400 + b * 100 + c * 4 + d) / 100 = a * 4 + b := by omega
  have h400 : (a * 400 + b * 100 + c * 4 + d) / 400 = a := by omega
  simp only [daysBeforeYear, Nat.add_sub_cancel, h4, h100, h400]
  omega

theorem isLeap_cycles (a b c d : Nat) (hb : b ≤ 3) (hc : c ≤ 24) (hd : d ≤ 3) :
    isLeap (a * 400 + b * 100 + c * 4 + d + 1) =
      decide (d = 3 ∧ (c ≠ 24 ∨ b = 3)) := by
  rw [Bool.eq_iff_iff]
  simp only [isLeap, Bool.and_eq_true, beq_iff_eq, Bool.or_eq_true, bne_iff_ne, ne_eq,
    decide_eq_true_eq]
  omega

theorem ordinalToYearDay_spec (ordinal : Nat) (hpos : 1 ≤ ordinal) :
    daysBeforeYear (ordinalToYearDay ordinal).1 + (ordinalToYearDay ordinal).2 + 1 = ordinal ∧
      (ordinalToYearDay ordinal).2 <
        (if isLeap (ordinalToYearDay ordinal).1 then 366 else 365) ∧
      1 ≤ (ordinalToYearDay ordinal).1 := by
  obtain ⟨n, rfl⟩ : ∃ n, ordinal = n + 1 := ⟨ordinal - 1, by omega⟩
  simp only [ordinalToYearDay, Nat.add_sub_cancel]
  generalize ha : n / 146097 = a
  generalize hr : n % 146097 = r
  generalize hb : r / 36524 = b
  generalize hs : r % 36524 = s
  generalize hc : s / 1461 = c
  generalize ht : s % 1461 = t
  generalize hd : t / 365 = d
  generalize hu : t % 365 = u
  have hcle : c ≤ 24 := by omega
  by_cases hlast : d = 4 ∨ b = 4
  · rw [if_pos hlast]
    rcases hlast with hd4 | hb4
    · -- day 366 of the last year of a 4-year cycle
      have hb3 : b ≤ 3 := by omega
      have hyear : a * 400 + b * 100 + c * 4 + d =
          a * 400 + b * 100 + c * 4 + 3 + 1 := by omega
      have hleap := isLeap_cycles a b c 3 hb3 hcle (le_refl 3)
      have hdays := daysBeforeYear_cycles a b c 3 hb3 hcle (le_refl 3)
      have hcb : c ≠ 24 ∨ b = 3 := by omega
      simp only [hyear, hdays, hleap, hcb, and_self, decide_true, if_true]
      omega
    · -- the last day of a 400-year cycle
      have hyear : a * 400 + b * 100 + c * 4 + d =
          a * 400 + 3 * 100 + 24 * 4 + 3 + 1 := by omega
      have hleap : isLeap (a * 400 + 3 * 100 + 24 * 4 + 3 + 1) = true := by
        rw [isLeap_cycles a 3 24 3 (le_refl 3) (le_refl 24) (le_refl 3)]
        decide
      have hdays := daysBeforeYear_cycles a 3 24 3 (le_refl 3) (le_refl 24) (le_refl 3)
      simp only [hyear, hdays, hleap, if_true]
      omega
  · rw [if_neg hlast]
    have hb3 : b ≤ 3 := by omega
    have hd3 : d ≤ 3 := by omega
    have hdays := daysBeforeYear_cycles a b c d hb3 hcle hd3
    refine ⟨?_, ?_, by omega⟩
    · simp only [hdays]
      omega
    · have : u < 365 := by omega
      show u < _
      split <;> omega

theorem daysBeforeYear_mono (a b : Nat) (ha : 1 ≤ a) (h : a ≤ b) :
    daysBeforeYear a ≤ daysBeforeYear b := by
  induction b, h using Nat.le_induction with
  | base => exact le_refl _
  | succ b hab ih =>
    refine le_trans ih ?_
    simp only [daysBeforeYear]
    omega

/-- **Every day number of the range names a date of the calendar, and that date has
the number.** -/
theorem ordinalToYmd_spec (ordinal : Nat) (hpos : 1 ≤ ordinal) (hle : ordinal ≤ maxOrdinal) :
    IsDate (ordinalToYmd ordinal).1 (ordinalToYmd ordinal).2.1 (ordinalToYmd ordinal).2.2 ∧
      ymdToOrdinal (ordinalToYmd ordinal).1 (ordinalToYmd ordinal).2.1
        (ordinalToYmd ordinal).2.2 = ordinal := by
  obtain ⟨hord, hlt, hyear⟩ := ordinalToYearDay_spec ordinal hpos
  obtain ⟨hm1, hm12, hbefore, hafter⟩ := monthOfDay_spec _ _ hlt
  have hy : (ordinalToYearDay ordinal).1 ≤ 9999 := by
    by_contra hgt
    have := daysBeforeYear_mono 10000 (ordinalToYearDay ordinal).1 (by omega) (by omega)
    have h10000 : daysBeforeYear 10000 = 3652059 := by decide
    simp only [maxOrdinal] at hle
    omega
  simp only [ordinalToYmd]
  refine ⟨⟨hyear, hy, hm1, hm12, by omega, by omega⟩, ?_⟩
  simp only [ymdToOrdinal]
  omega

theorem daysInMonth_end (year month : Nat) (hm1 : 1 ≤ month) (hm12 : month ≤ 12) :
    daysBeforeMonth (isLeap year) month + daysInMonth (isLeap year) month ≤
      (if isLeap year then 366 else 365) := by
  generalize isLeap year = leap
  interval_cases month <;> cases leap <;> decide

/-- A date of the calendar has a day number of the range. -/
theorem ymdToOrdinal_range (year month day : Nat) (h : IsDate year month day) :
    1 ≤ ymdToOrdinal year month day ∧ ymdToOrdinal year month day ≤ maxOrdinal := by
  have hend := daysInMonth_end year month h.month_pos h.month_le
  have hday := h.day_le
  have hpos := h.day_pos
  have hbound : daysBeforeYear year + (if isLeap year then 366 else 365) ≤ maxOrdinal := by
    by_cases hlast : year = 9999
    · subst hlast
      decide
    · have hmono := daysBeforeYear_mono year 9998 h.year_pos (by have := h.year_le; omega)
      have h9998 : daysBeforeYear 9998 = 3651329 := by decide
      have : (if isLeap year then 366 else 365) ≤ 366 := by split <;> omega
      simp only [maxOrdinal]
      omega
  constructor
  · simp only [ymdToOrdinal]
    omega
  · simp only [ymdToOrdinal]
    omega

end PlantNexus.Time
