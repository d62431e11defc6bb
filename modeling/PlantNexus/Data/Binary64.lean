import Mathlib.Algebra.Order.Field.Basic
import Mathlib.Algebra.Order.Field.Power
import Mathlib.Algebra.Order.Field.Rat
import Mathlib.Algebra.Order.Floor.Ring
import Mathlib.Data.Int.Log
import Mathlib.Data.Rat.Floor
import Mathlib.Tactic.FieldSimp
import Mathlib.Tactic.Linarith
import Mathlib.Tactic.NormNum
import Mathlib.Tactic.Positivity
import Mathlib.Tactic.Ring

/-! Rounding to binary64.

`nearest` rounds a positive rational to a multiple of the unit in its last place, ties to even.
The unit does not go below that of the subnormal numbers, and the exponent has no upper bound: what
overflows is above every `Binary64`. Rounding is monotone (`nearest_mono`), so that the numbers
that round to one value form an interval; what is less than half a unit away from a value lies in
it (`nearest_eq_of_close`), and nothing farther than that (`abs_sub_le_of_nearest_eq`). -/
namespace PlantNexus.Data

/-! ### Integers -/

/-- The nearest integer, ties to even. -/
def roundEven (q : ℚ) : Int :=
  if q - ⌊q⌋ < 1 / 2 ∨ q - ⌊q⌋ = 1 / 2 ∧ ⌊q⌋ % 2 = 0 then ⌊q⌋ else ⌊q⌋ + 1

theorem abs_sub_roundEven_le (q : ℚ) : |q - roundEven q| ≤ 1 / 2 := by
  have hfloor := Int.floor_le q
  have hlt := Int.lt_floor_add_one q
  unfold roundEven
  split_ifs with h
  · have hle : q - ⌊q⌋ ≤ 1 / 2 := h.elim le_of_lt fun htie => htie.1.le
    rw [abs_le]
    constructor <;> linarith
  · have hge : 1 / 2 ≤ q - ⌊q⌋ := not_lt.mp fun hless => h (.inl hless)
    push_cast
    rw [abs_le]
    constructor <;> linarith

theorem roundEven_mono {a b : ℚ} (h : a ≤ b) : roundEven a ≤ roundEven b := by
  by_contra hless
  rw [not_le] at hless
  have hstep : (roundEven b : ℚ) + 1 ≤ roundEven a := by exact_mod_cast hless
  have ha := abs_le.mp (abs_sub_roundEven_le a)
  have hb := abs_le.mp (abs_sub_roundEven_le b)
  have heq : a = b := le_antisymm h (by linarith [ha.1, hb.2])
  rw [heq] at hless
  exact lt_irrefl _ hless

theorem roundEven_eq_of_close {q : ℚ} {n : Int} (h : |q - n| < 1 / 2) : roundEven q = n := by
  have hclose := abs_le.mp (abs_sub_roundEven_le q)
  have hn := abs_lt.mp h
  have hlow : (roundEven q : ℚ) < n + 1 := by linarith [hclose.1, hn.2]
  have hhigh : (n : ℚ) < roundEven q + 1 := by linarith [hclose.2, hn.1]
  have hlow' : roundEven q < n + 1 := by exact_mod_cast hlow
  have hhigh' : n < roundEven q + 1 := by exact_mod_cast hhigh
  omega

theorem roundEven_intCast (n : Int) : roundEven n = n :=
  roundEven_eq_of_close (by norm_num)

/-! ### Numbers -/

/-- The power of two that is the unit in the last place. -/
def unitPower (q : ℚ) : Int := max (Int.log 2 q - 52) (-1074)

/-- Rounding to nearest, ties to even. -/
def nearest (q : ℚ) : ℚ := roundEven (q / 2 ^ unitPower q) * 2 ^ unitPower q

theorem two_zpow_pos (p : Int) : (0 : ℚ) < 2 ^ p := zpow_pos (by norm_num) p

theorem two_zpow_add (n p : Int) : (2 : ℚ) ^ (n + p) = 2 ^ n * 2 ^ p := zpow_add₀ (by norm_num) n p

theorem two_zpow_le {p p' : Int} (h : p ≤ p') : (2 : ℚ) ^ p ≤ 2 ^ p' :=
  zpow_le_zpow_right₀ (by norm_num) h

/-- Where a number lies in the units of its last place. -/
structure HasUnit (q : ℚ) (p : Int) : Prop where
  least : -1074 ≤ p
  lt : q < 2 ^ (53 + p)
  le : p = -1074 ∨ 2 ^ (52 + p) ≤ q

theorem hasUnit_unitPower {q : ℚ} (hq : 0 < q) : HasUnit q (unitPower q) := by
  have hlt : q < (2 : ℚ) ^ (Int.log 2 q + 1) := by
    exact_mod_cast Int.lt_zpow_succ_log_self (R := ℚ) one_lt_two q
  have hle : (2 : ℚ) ^ Int.log 2 q ≤ q := by
    exact_mod_cast Int.zpow_log_le_self (R := ℚ) one_lt_two hq
  unfold unitPower
  refine ⟨le_max_right _ _, hlt.trans_le (two_zpow_le ?_), ?_⟩
  · have := le_max_left (Int.log 2 q - 52) (-1074)
    omega
  · rcases max_choice (Int.log 2 q - 52) (-1074) with hmax | hmax
    · right
      rw [hmax, show 52 + (Int.log 2 q - 52) = Int.log 2 q by ring]
      exact hle
    · exact .inl hmax

theorem HasUnit.unitPower_eq {q : ℚ} {p : Int} (hq : 0 < q) (h : HasUnit q p) :
    unitPower q = p := by
  have hown := hasUnit_unitPower hq
  have hbelow : ∀ {a b : Int}, HasUnit q a → HasUnit q b → ¬a < b := by
    intro a b ha hb hlt
    rcases hb.le with hleast | hge
    · have := ha.least
      omega
    · have hbound : (2 : ℚ) ^ (53 + a) ≤ 2 ^ (52 + b) := two_zpow_le (by omega)
      exact absurd (ha.lt.trans_le (hbound.trans hge)) (lt_irrefl q)
  exact le_antisymm (not_lt.mp (hbelow h hown)) (not_lt.mp (hbelow hown h))

theorem nearest_eq {q : ℚ} {p : Int} (hq : 0 < q) (h : HasUnit q p) :
    nearest q = roundEven (q / 2 ^ p) * 2 ^ p := by
  rw [nearest, h.unitPower_eq hq]

theorem abs_sub_nearest_le (q : ℚ) : |q - nearest q| ≤ 2 ^ unitPower q / 2 := by
  have hpos := two_zpow_pos (unitPower q)
  have hscale : q - nearest q = (q / 2 ^ unitPower q - roundEven (q / 2 ^ unitPower q)) *
      2 ^ unitPower q := by
    rw [nearest, sub_mul, div_mul_cancel₀ q hpos.ne']
  rw [hscale, abs_mul, abs_of_pos hpos]
  calc _ ≤ 1 / 2 * (2 : ℚ) ^ unitPower q :=
        mul_le_mul_of_nonneg_right (abs_sub_roundEven_le _) hpos.le
    _ = 2 ^ unitPower q / 2 := by ring

/-- A whole number of units up to which a number rounds. -/
theorem nearest_le {q : ℚ} {p : Int} (hq : 0 < q) (h : HasUnit q p) {n : Int}
    (hle : q ≤ n * 2 ^ p) : nearest q ≤ n * 2 ^ p := by
  have hpos := two_zpow_pos p
  rw [nearest_eq hq h]
  refine mul_le_mul_of_nonneg_right ?_ hpos.le
  have hmono := roundEven_mono ((div_le_iff₀ hpos).mpr hle)
  rw [roundEven_intCast] at hmono
  exact_mod_cast hmono

theorem le_nearest {q : ℚ} {p : Int} (hq : 0 < q) (h : HasUnit q p) {n : Int}
    (hle : n * 2 ^ p ≤ q) : n * 2 ^ p ≤ nearest q := by
  have hpos := two_zpow_pos p
  rw [nearest_eq hq h]
  refine mul_le_mul_of_nonneg_right ?_ hpos.le
  have hmono := roundEven_mono ((le_div_iff₀ hpos).mpr hle)
  rw [roundEven_intCast] at hmono
  exact_mod_cast hmono

/-- **Rounding is monotone.** -/
theorem nearest_mono {a b : ℚ} (ha : 0 < a) (h : a ≤ b) : nearest a ≤ nearest b := by
  have hb := ha.trans_le h
  have hunitA := hasUnit_unitPower ha
  have hunitB := hasUnit_unitPower hb
  have hlog : unitPower a ≤ unitPower b := by
    have := Int.log_mono_right (b := 2) ha h
    unfold unitPower
    omega
  rcases hlog.eq_or_lt with heq | hlt
  · -- in the same units
    rw [nearest, nearest, ← heq]
    have hpos := two_zpow_pos (unitPower a)
    refine mul_le_mul_of_nonneg_right ?_ hpos.le
    exact_mod_cast roundEven_mono (div_le_div_of_nonneg_right h hpos.le)
  · -- a power of two lies between them
    have hge : (2 : ℚ) ^ (52 + unitPower b) ≤ b := by
      refine hunitB.le.resolve_left fun hleast => ?_
      have := hunitA.least
      omega
    calc nearest a ≤ ((2 ^ 53 : Int) : ℚ) * 2 ^ unitPower a := by
          refine nearest_le ha hunitA ?_
          have hlt := hunitA.lt.le
          rw [two_zpow_add] at hlt
          exact_mod_cast hlt
      _ = 2 ^ (53 + unitPower a) := by
          rw [two_zpow_add]
          norm_num
      _ ≤ 2 ^ (52 + unitPower b) := two_zpow_le (by omega)
      _ = ((2 ^ 52 : Int) : ℚ) * 2 ^ unitPower b := by
          rw [two_zpow_add]
          norm_num
      _ ≤ nearest b := by
          refine le_nearest hb hunitB ?_
          rw [two_zpow_add] at hge
          exact_mod_cast hge

/-- A positive finite binary64 number. -/
structure Binary64 where
  significand : Nat
  power : Int
  positive : 0 < significand
  fits : significand < 2 ^ 53
  least : -1074 ≤ power
  greatest : power ≤ 971
  normal : power = -1074 ∨ 2 ^ 52 ≤ significand

namespace Binary64
variable (x : Binary64)

def value : ℚ := x.significand * 2 ^ x.power

theorem value_pos : 0 < x.value :=
  mul_pos (by exact_mod_cast x.positive) (two_zpow_pos _)

theorem hasUnit : HasUnit x.value x.power := by
  have hpos := two_zpow_pos x.power
  refine ⟨x.least, ?_, x.normal.imp_right fun hnormal => ?_⟩
  · rw [two_zpow_add]
    exact mul_lt_mul_of_pos_right (by exact_mod_cast x.fits) hpos
  · rw [two_zpow_add]
    exact mul_le_mul_of_nonneg_right (by exact_mod_cast hnormal) hpos.le

theorem nearest_value : nearest x.value = x.value := by
  have hpos := two_zpow_pos x.power
  have hquotient : x.value / 2 ^ x.power = ((x.significand : Int) : ℚ) := by
    rw [value, mul_div_cancel_right₀ _ hpos.ne']
    norm_cast
  rw [nearest_eq x.value_pos x.hasUnit, hquotient, roundEven_intCast]
  rfl

/-- How far below the number everything still rounds to it: half a unit, or a quarter where the
numbers below lie closer together. -/
def gapBelow : ℚ :=
  if x.significand = 2 ^ 52 ∧ x.power ≠ -1074 then 2 ^ x.power / 4 else 2 ^ x.power / 2

theorem gapBelow_le : x.gapBelow ≤ 2 ^ x.power / 2 := by
  have hpos := two_zpow_pos x.power
  unfold gapBelow
  split_ifs <;> linarith

/-- **What is close to a value rounds to it.** -/
theorem nearest_eq_of_close {q : ℚ} (hlow : x.value - x.gapBelow < q)
    (hhigh : q < x.value + 2 ^ x.power / 2) : nearest q = x.value := by
  have hpos := two_zpow_pos x.power
  have hgap := x.gapBelow_le
  have hone : (1 : ℚ) ≤ x.significand := by exact_mod_cast x.positive
  have hvalue : x.value = x.significand * 2 ^ x.power := rfl
  have hq : 0 < q := by nlinarith
  by_cases hbinade : x.power = -1074 ∨ 2 ^ (52 + x.power) ≤ q
  · have hunit : HasUnit q x.power := by
      refine ⟨x.least, ?_, hbinade⟩
      have hfits : (x.significand : ℚ) ≤ 2 ^ 53 - 1 := by
        have : x.significand + 1 ≤ 2 ^ 53 := x.fits
        have : ((x.significand + 1 : Nat) : ℚ) ≤ 2 ^ 53 := by exact_mod_cast this
        push_cast at this
        linarith
      rw [two_zpow_add]
      have hle := mul_le_mul_of_nonneg_right hfits hpos.le
      have hpow : (2 : ℚ) ^ (53 : Int) = 2 ^ 53 := by norm_num
      rw [hpow]
      linarith
    have hround : roundEven (q / 2 ^ x.power) = (x.significand : Int) := by
      refine roundEven_eq_of_close ?_
      have hscale :
          q / 2 ^ x.power - ((x.significand : Int) : ℚ) = (q - x.value) / 2 ^ x.power := by
        rw [hvalue, sub_div, mul_div_cancel_right₀ _ hpos.ne']
        norm_cast
      rw [hscale, abs_div, abs_of_pos hpos, div_lt_iff₀ hpos, abs_lt]
      constructor <;> linarith
    rw [nearest_eq hq hunit, hround]
    rfl
  · -- just below a power of two, where the unit is half as large
    obtain ⟨hsubnormal, hbelow⟩ := not_or.mp hbinade
    rw [not_le, two_zpow_add] at hbelow
    have hnormal : (2 : ℚ) ^ (52 : Int) ≤ x.significand := by
      exact_mod_cast x.normal.resolve_left hsubnormal
    have hpower : x.significand = 2 ^ 52 := by
      by_contra hne
      have hge : 2 ^ 52 + 1 ≤ x.significand :=
        lt_of_le_of_ne (x.normal.resolve_left hsubnormal) (Ne.symm hne)
      have hge : (2 : ℚ) ^ (52 : Int) + 1 ≤ x.significand := by exact_mod_cast hge
      have := mul_le_mul_of_nonneg_right hge hpos.le
      linarith
    have hgap : x.gapBelow = 2 ^ x.power / 4 := by
      rw [gapBelow, if_pos ⟨hpower, hsubnormal⟩]
    have hhalf : (2 : ℚ) ^ x.power = 2 * 2 ^ (x.power - 1) := by
      rw [show x.power = 1 + (x.power - 1) by ring, two_zpow_add, add_sub_cancel_left]
      norm_num
    have hsmall := two_zpow_pos (x.power - 1)
    have hcast : (x.significand : ℚ) = 2 ^ 52 := by exact_mod_cast hpower
    have hpow : (2 : ℚ) ^ (52 : Int) = 2 ^ 52 := by norm_num
    rw [hpow] at hbelow
    have hunit : HasUnit q (x.power - 1) := by
      refine ⟨by have := x.least; omega, ?_, .inr ?_⟩
      · rw [two_zpow_add]
        calc q < 2 ^ 52 * 2 ^ x.power := hbelow
          _ = 2 ^ (53 : Int) * 2 ^ (x.power - 1) := by
            rw [hhalf]
            norm_num
            ring
      · rw [two_zpow_add, hpow]
        nlinarith
    have hround : roundEven (q / 2 ^ (x.power - 1)) = 2 ^ 53 := by
      refine roundEven_eq_of_close ?_
      have hscale : q / 2 ^ (x.power - 1) - ((2 ^ 53 : Int) : ℚ) =
          (q - x.value) / 2 ^ (x.power - 1) := by
        rw [hvalue, hcast, hhalf, sub_div]
        congr 1
        rw [show (2 : ℚ) ^ 52 * (2 * 2 ^ (x.power - 1)) = 2 ^ 53 * 2 ^ (x.power - 1) by ring,
          mul_div_cancel_right₀ _ hsmall.ne']
        norm_num
      rw [hscale, abs_div, abs_of_pos hsmall, div_lt_iff₀ hsmall, abs_lt]
      constructor <;> nlinarith
    rw [nearest_eq hq hunit, hround, hvalue, hcast, hhalf]
    push_cast
    ring

/-- **What rounds to a value is at most half a unit away.** -/
theorem abs_sub_le_of_nearest_eq {q : ℚ} (hq : 0 < q) (h : nearest q = x.value) :
    |q - x.value| ≤ 2 ^ x.power / 2 := by
  have hunit := hasUnit_unitPower hq
  have hle : unitPower q ≤ x.power := by
    by_contra hlt
    rw [not_le] at hlt
    have hge : (2 : ℚ) ^ (52 + unitPower q) ≤ q := by
      refine hunit.le.resolve_left fun hleast => ?_
      have := x.least
      omega
    have hbound : ((2 ^ 52 : Int) : ℚ) * 2 ^ unitPower q ≤ nearest q := by
      refine le_nearest hq hunit ?_
      rw [two_zpow_add] at hge
      exact_mod_cast hge
    have hsplit : ((2 ^ 52 : Int) : ℚ) * 2 ^ unitPower q = 2 ^ (52 + unitPower q) := by
      rw [two_zpow_add]
      norm_num
    have hpowers : (2 : ℚ) ^ (53 + x.power) ≤ 2 ^ (52 + unitPower q) := two_zpow_le (by omega)
    rw [h, hsplit] at hbound
    exact absurd (x.hasUnit.lt.trans_le (hpowers.trans hbound)) (lt_irrefl _)
  rw [← h]
  have hunits := two_zpow_le hle
  linarith [abs_sub_nearest_le q]

/-- The numbers that round to one value form an interval. -/
theorem nearest_eq_of_between {a b c : ℚ} (ha : 0 < a) (hab : a ≤ b) (hbc : b ≤ c)
    (hfirst : nearest a = x.value) (hlast : nearest c = x.value) : nearest b = x.value :=
  le_antisymm ((nearest_mono (ha.trans_le hab) hbc).trans_eq hlast)
    (hfirst.symm.trans_le (nearest_mono ha hab))

end Binary64
end PlantNexus.Data
