import PlantNexus.Time.Calendar
import Mathlib.Order.Basic
import Mathlib.Order.Lattice
import Mathlib.Tactic.Linarith
import Mathlib.Algebra.Order.Field.Rat
import Mathlib.Algebra.Order.Field.Basic

/-! UTC instants and exact differences.

An instant is a whole number of microseconds from the start of year 1, inside the
years `datetime` represents; a `timedelta` is a signed number of microseconds.
Adding outside the range fails, as `datetime` does with `OverflowError`.
`wholeSeconds` is `int(delta.total_seconds())`: the difference read as the nearest
double and truncated towards zero. It is exact on whole seconds
(`wholeSeconds_exact`) and never crosses a whole second in either direction
(`le_wholeSeconds`, `wholeSeconds_le`), but it is not the exact difference. -/
namespace PlantNexus.Time

def microsPerSecond : Int := 1000000

/-- One past the last microsecond of year 9999. -/
def microsLimit : Int := maxOrdinal * 86400 * 1000000

/-- A timezone-aware UTC `datetime`. -/
structure Datetime where
  micros : Int
  nonneg : 0 ≤ micros
  lt : micros < microsLimit
deriving DecidableEq

namespace Datetime

theorem ext_micros {a b : Datetime} (h : a.micros = b.micros) : a = b := by
  cases a
  cases b
  simp_all

instance : LinearOrder Datetime :=
  LinearOrder.lift' Datetime.micros fun _ _ h => ext_micros h

theorem lt_iff (a b : Datetime) : a < b ↔ a.micros < b.micros := Iff.rfl

theorem le_iff (a b : Datetime) : a ≤ b ↔ a.micros ≤ b.micros := Iff.rfl

theorem eq_iff (a b : Datetime) : a = b ↔ a.micros = b.micros :=
  ⟨fun h => h ▸ rfl, ext_micros⟩

/-- `a - b` as a signed number of microseconds. -/
def sub (a b : Datetime) : Int := a.micros - b.micros

/-- `datetime + timedelta(microseconds=us)`, or `none` where `datetime` overflows. -/
def addMicros (d : Datetime) (us : Int) : Option Datetime :=
  if h : 0 ≤ d.micros + us ∧ d.micros + us < microsLimit then
    some ⟨d.micros + us, h.1, h.2⟩
  else none

/-- `datetime + timedelta(seconds=s)`. -/
def addSeconds (d : Datetime) (s : Int) : Option Datetime :=
  d.addMicros (s * microsPerSecond)

theorem addSeconds_eq_some (d e : Datetime) (s : Int) :
    d.addSeconds s = some e ↔ e.micros = d.micros + s * microsPerSecond := by
  unfold addSeconds addMicros
  have := e.nonneg
  have := e.lt
  split
  · simp only [Option.some.injEq, eq_iff]
    constructor <;> intro h <;> exact h.symm
  · rename_i h
    simp only [reduceCtorEq, false_iff]
    intro he
    rw [← he] at h
    omega

theorem addSeconds_isSome (d : Datetime) (s : Int) :
    (d.addSeconds s).isSome ↔
      0 ≤ d.micros + s * microsPerSecond ∧ d.micros + s * microsPerSecond < microsLimit := by
  unfold addSeconds addMicros
  split <;> simp_all

/-- The instant with its fraction of a second dropped. -/
def truncateToSecond (d : Datetime) : Datetime :=
  ⟨d.micros / 1000000 * 1000000, by have := d.nonneg; omega,
    by have := d.nonneg; have := d.lt; omega⟩

theorem truncateToSecond_le (d : Datetime) : d.truncateToSecond ≤ d := by
  rw [le_iff]
  simp only [truncateToSecond]
  omega

theorem truncateToSecond_of_dvd (d : Datetime) (h : (1000000 : Int) ∣ d.micros) :
    d.truncateToSecond = d := by
  rw [eq_iff]
  simp only [truncateToSecond]
  omega

theorem truncateToSecond_eq_self_iff (d : Datetime) :
    d.truncateToSecond = d ↔ (1000000 : Int) ∣ d.micros := by
  refine ⟨fun h => ?_, truncateToSecond_of_dvd d⟩
  rw [eq_iff] at h
  simp only [truncateToSecond] at h
  exact ⟨d.micros / 1000000, by omega⟩

end Datetime

/-! ### Reading a difference in seconds -/

/-- Round-half-even division of naturals. -/
def roundHalfEven (n d : Nat) : Nat :=
  if 2 * (n % d) < d then n / d
  else if d < 2 * (n % d) then n / d + 1
  else n / d + n / d % 2

theorem le_roundHalfEven (n d : Nat) : n / d ≤ roundHalfEven n d := by
  unfold roundHalfEven
  split
  · exact le_refl _
  · split <;> omega

theorem roundHalfEven_le (n d k : Nat) (hd : 0 < d) (h : n ≤ k * d) : roundHalfEven n d ≤ k := by
  have hq : n / d ≤ k := Nat.div_le_of_le_mul (by rwa [Nat.mul_comm])
  have hsplit := Nat.div_add_mod n d
  by_cases hk : n / d = k
  · -- the quotient is already `k`, so nothing is left over to round up
    have hr : n % d = 0 := by
      rw [hk, Nat.mul_comm] at hsplit
      omega
    unfold roundHalfEven
    rw [hr, if_pos (by omega), hk]
  · unfold roundHalfEven
    split
    · exact hq
    · split <;> omega

/-- The double nearest to `micros / 10^6` is a multiple of this fraction of a
second's reciprocal: 53 significant bits from the leading bit of the quotient. -/
def secondsScale (micros : Nat) : Nat := 2 ^ (52 - Nat.log2 (micros / 1000000))

theorem secondsScale_pos (micros : Nat) : 0 < secondsScale micros := Nat.two_pow_pos _

/-- `int(delta.total_seconds())` of a non-negative difference. -/
def wholeSecondsNat (micros : Nat) : Nat :=
  roundHalfEven (micros * secondsScale micros) 1000000 / secondsScale micros

/-- `int(delta.total_seconds())`. -/
def wholeSeconds (delta : Int) : Int :=
  if delta < 0 then -(wholeSecondsNat delta.natAbs : Int) else wholeSecondsNat delta.natAbs

theorem le_wholeSecondsNat (a n : Nat) (h : n * 1000000 ≤ a) : n ≤ wholeSecondsNat a := by
  unfold wholeSecondsNat
  have hpos := secondsScale_pos a
  generalize secondsScale a = m at *
  rw [Nat.le_div_iff_mul_le hpos]
  refine le_trans ?_ (le_roundHalfEven _ _)
  rw [Nat.le_div_iff_mul_le (by omega)]
  calc n * m * 1000000 = n * 1000000 * m := by ring
    _ ≤ a * m := Nat.mul_le_mul_right m h

theorem wholeSecondsNat_le (a n : Nat) (h : a ≤ n * 1000000) : wholeSecondsNat a ≤ n := by
  unfold wholeSecondsNat
  have hpos := secondsScale_pos a
  generalize secondsScale a = m at *
  refine Nat.div_le_of_le_mul (roundHalfEven_le _ _ _ (by omega) ?_)
  calc a * m ≤ n * 1000000 * m := Nat.mul_le_mul_right m h
    _ = m * n * 1000000 := by ring

/-- Below one second the nearest double is below one. -/
theorem wholeSecondsNat_eq_zero (a : Nat) (h : a < 1000000) : wholeSecondsNat a = 0 := by
  unfold wholeSecondsNat secondsScale
  rw [Nat.div_eq_of_lt h]
  have hlog : Nat.log2 0 = 0 := by decide
  rw [hlog]
  refine Nat.div_eq_of_lt ?_
  have hle : roundHalfEven (a * 2 ^ (52 - 0)) 1000000 ≤ 2 ^ 52 - 1 :=
    roundHalfEven_le _ _ _ (by omega) (by omega)
  omega

theorem wholeSeconds_of_nonneg (delta : Int) (h : 0 ≤ delta) :
    wholeSeconds delta = wholeSecondsNat delta.natAbs := by
  rw [wholeSeconds, if_neg (by omega)]

theorem wholeSeconds_of_neg (delta : Int) (h : delta < 0) :
    wholeSeconds delta = -(wholeSecondsNat delta.natAbs : Int) := by
  rw [wholeSeconds, if_pos h]

/-- A difference of at least `n` seconds is read as at least `n`. -/
theorem le_wholeSeconds (delta n : Int) (hn : 0 ≤ n) (h : n * microsPerSecond ≤ delta) :
    n ≤ wholeSeconds delta := by
  simp only [microsPerSecond] at h
  rw [wholeSeconds_of_nonneg delta (by omega)]
  have := le_wholeSecondsNat delta.natAbs n.toNat (by omega)
  omega

/-- A difference of at most `n` seconds is read as at most `n`. -/
theorem wholeSeconds_le (delta n : Int) (hn : 0 ≤ n) (h : delta ≤ n * microsPerSecond) :
    wholeSeconds delta ≤ n := by
  simp only [microsPerSecond] at h
  by_cases hneg : delta < 0
  · rw [wholeSeconds_of_neg delta hneg]
    omega
  · rw [wholeSeconds_of_nonneg delta (by omega)]
    have := wholeSecondsNat_le delta.natAbs n.toNat (by omega)
    omega

/-- A negative difference is read as negative exactly from one full second on. -/
theorem wholeSeconds_neg_iff (delta : Int) :
    wholeSeconds delta < 0 ↔ delta ≤ -microsPerSecond := by
  simp only [microsPerSecond]
  by_cases hneg : delta < 0
  · rw [wholeSeconds_of_neg delta hneg]
    constructor
    · intro h
      by_contra hgt
      rw [wholeSecondsNat_eq_zero delta.natAbs (by omega)] at h
      simp at h
    · intro h
      have := le_wholeSecondsNat delta.natAbs 1 (by omega)
      omega
  · rw [wholeSeconds_of_nonneg delta (by omega)]
    omega

/-- **Whole seconds are read exactly.** -/
theorem wholeSeconds_exact (n : Int) : wholeSeconds (n * microsPerSecond) = n := by
  simp only [microsPerSecond]
  have hle := wholeSecondsNat_le (n * 1000000).natAbs n.natAbs (by omega)
  have hge := le_wholeSecondsNat (n * 1000000).natAbs n.natAbs (by omega)
  by_cases hneg : n * 1000000 < 0
  · rw [wholeSeconds_of_neg _ hneg]
    omega
  · rw [wholeSeconds_of_nonneg _ (by omega)]
    omega

/-- `delta.total_seconds()`: the difference in seconds as the nearest double. -/
def totalSeconds (delta : Int) : ℚ :=
  let scale := secondsScale delta.natAbs
  let magnitude : ℚ := roundHalfEven (delta.natAbs * scale) 1000000 / scale
  if delta < 0 then -magnitude else magnitude

theorem wholeSecondsNat_lt_iff (a n : Nat) :
    wholeSecondsNat a < n ↔
      (roundHalfEven (a * secondsScale a) 1000000 : ℚ) / secondsScale a < n := by
  have hpos := secondsScale_pos a
  rw [wholeSecondsNat, Nat.div_lt_iff_lt_mul hpos, div_lt_iff₀ (by exact_mod_cast hpos)]
  exact_mod_cast Iff.rfl

/-- Against a positive bound the truncation reads as the double does. -/
theorem wholeSeconds_lt_iff (delta n : Int) (hn : 0 < n) :
    wholeSeconds delta < n ↔ totalSeconds delta < n := by
  obtain ⟨k, rfl⟩ : ∃ k : Nat, n = k := ⟨n.toNat, by omega⟩
  have hmag : (0 : ℚ) ≤ (roundHalfEven (delta.natAbs * secondsScale delta.natAbs) 1000000 : ℚ) /
      secondsScale delta.natAbs := by positivity
  by_cases hneg : delta < 0
  · rw [wholeSeconds_of_neg delta hneg, totalSeconds, if_pos hneg]
    have hk : (0 : ℚ) < k := by exact_mod_cast hn
    constructor
    · intro _
      push_cast
      linarith
    · intro _
      omega
  · rw [wholeSeconds_of_nonneg delta (by omega), totalSeconds, if_neg hneg]
    have := wholeSecondsNat_lt_iff delta.natAbs k
    push_cast
    rw [← this]
    omega

/-- The truncation exceeds a bound from the next whole second of the double on. -/
theorem lt_wholeSeconds_iff (delta n : Int) (hn : 0 ≤ n) :
    n < wholeSeconds delta ↔ (n : ℚ) + 1 ≤ totalSeconds delta := by
  have h := wholeSeconds_lt_iff delta (n + 1) (by omega)
  push_cast at h
  constructor
  · intro hlt
    by_contra hgt
    have := h.mpr (not_le.mp hgt)
    omega
  · intro hle
    by_contra hge
    exact absurd (h.mp (by omega)) (not_lt.mpr hle)

end PlantNexus.Time
