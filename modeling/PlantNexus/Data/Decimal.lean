import PlantNexus.Data.Binary64
import Mathlib.Data.List.TakeWhile
import Mathlib.Data.Nat.Digits.Lemmas

/-! Decimals and the shortest of them that round to a number. -/
namespace PlantNexus.Data

/-- A positive decimal: a coefficient and a power of ten. -/
structure Decimal where
  coefficient : Nat
  exponent : Int
  positive : 0 < coefficient
deriving DecidableEq

theorem ten_zpow_pos (e : Int) : (0 : ℚ) < 10 ^ e := zpow_pos (by norm_num) e

theorem ten_zpow_add (n e : Int) : (10 : ℚ) ^ (n + e) = 10 ^ n * 10 ^ e :=
  zpow_add₀ (by norm_num) n e

theorem ten_zpow_le {e e' : Int} (h : e ≤ e') : (10 : ℚ) ^ e ≤ 10 ^ e' :=
  zpow_le_zpow_right₀ (by norm_num) h

namespace Decimal
variable (d : Decimal)

def value : ℚ := d.coefficient * 10 ^ d.exponent

/-- The number of significant digits: those of the coefficient without its trailing zeros. -/
def digits : Nat := ((Nat.digits 10 d.coefficient).dropWhile (· = 0)).length

/-- The exponent of the leading digit. -/
def leading : Int := d.exponent + Nat.log 10 d.coefficient

theorem value_pos : 0 < d.value :=
  mul_pos (by exact_mod_cast d.positive) (ten_zpow_pos _)

theorem length_digits : (Nat.digits 10 d.coefficient).length = Nat.log 10 d.coefficient + 1 :=
  Nat.length_digits 10 _ (by norm_num) d.positive.ne'

theorem digits_le {n : Nat} (hn : 1 ≤ n) (h : d.coefficient ≤ 10 ^ n) : d.digits ≤ n := by
  unfold digits
  rcases h.eq_or_lt with heq | hlt
  · have hdigits : Nat.digits 10 (10 ^ n) = List.replicate n 0 ++ [1] := by
      have hmul := Nat.digits_base_pow_mul (b := 10) (k := n) (m := 1) (by norm_num) (by norm_num)
      rwa [mul_one, Nat.digits_of_lt 10 1 (by norm_num) (by norm_num)] at hmul
    rw [heq, hdigits, List.dropWhile_append_of_pos, List.dropWhile_cons_of_neg (by norm_num),
      List.length_singleton]
    · exact hn
    · intro digit hdigit
      rw [List.eq_of_mem_replicate hdigit]
      rfl
  · refine ((List.dropWhile_sublist _).length_le).trans ?_
    rw [d.length_digits]
    exact Nat.log_lt_of_lt_pow d.positive.ne' hlt

/-- The decimal as a coefficient of its significant digits alone. -/
theorem exists_coefficient : ∃ k : Nat, 10 ^ (d.digits - 1) ≤ k ∧ k < 10 ^ d.digits ∧
    1 ≤ d.digits ∧ d.value = k * 10 ^ (d.leading - d.digits + 1) := by
  set zeros := (Nat.digits 10 d.coefficient).takeWhile (· = 0) with hzeros
  set rest := (Nat.digits 10 d.coefficient).dropWhile (· = 0) with hrest
  have hsplit : zeros ++ rest = Nat.digits 10 d.coefficient := List.takeWhile_append_dropWhile
  have hreplicate : zeros = List.replicate zeros.length 0 := by
    refine List.eq_replicate_of_mem fun digit hdigit => ?_
    simpa using List.mem_takeWhile_imp hdigit
  have hcoefficient : d.coefficient = 10 ^ zeros.length * Nat.ofDigits 10 rest := by
    have hvalue := Nat.ofDigits_digits 10 d.coefficient
    rw [← hsplit, Nat.ofDigits_append, hreplicate, Nat.ofDigits_replicate_zero, zero_add] at hvalue
    rw [← hvalue, List.length_replicate]
  have hdigits : d.digits = rest.length := rfl
  have hlength : zeros.length + rest.length = Nat.log 10 d.coefficient + 1 := by
    rw [← List.length_append, hsplit, d.length_digits]
  have hlt : Nat.ofDigits 10 rest < 10 ^ rest.length :=
    Nat.ofDigits_lt_base_pow_length (by norm_num) fun digit hdigit =>
      Nat.digits_lt_base (by norm_num) (hsplit ▸ List.mem_append_right _ hdigit)
  have hpos : 0 < Nat.ofDigits 10 rest := by
    refine Nat.pos_of_ne_zero fun hzero => d.positive.ne' ?_
    rw [hcoefficient, hzero, mul_zero]
  have hone : 1 ≤ rest.length := by
    by_contra hnone
    have hempty : rest.length = 0 := by omega
    rw [hempty, pow_zero] at hlt
    omega
  refine ⟨Nat.ofDigits 10 rest, ?_, hlt, hone, ?_⟩
  · have hlog : 10 ^ Nat.log 10 d.coefficient ≤ d.coefficient :=
      Nat.pow_log_le_self 10 d.positive.ne'
    rw [show Nat.log 10 d.coefficient = zeros.length + (rest.length - 1) by omega, pow_add] at hlog
    rw [hdigits]
    have hpos : 0 < 10 ^ zeros.length := Nat.pow_pos (by norm_num)
    exact Nat.le_of_mul_le_mul_left (hlog.trans_eq hcoefficient) hpos
  · rw [value, leading, hdigits]
    have hexponent : d.exponent + (Nat.log 10 d.coefficient : Int) - rest.length + 1 =
        zeros.length + d.exponent := by omega
    rw [hexponent, ten_zpow_add, zpow_natCast]
    nth_rewrite 1 [hcoefficient]
    push_cast
    ring

/-- The leading digit bounds the decimal from both sides. -/
theorem leading_bounds : (10 : ℚ) ^ d.leading ≤ d.value ∧ d.value < 10 ^ (d.leading + 1) := by
  have hpos := ten_zpow_pos d.exponent
  have hle : (10 : ℚ) ^ (Nat.log 10 d.coefficient : Int) ≤ d.coefficient := by
    rw [zpow_natCast]
    exact_mod_cast Nat.pow_log_le_self 10 d.positive.ne'
  have hlt : (d.coefficient : ℚ) < 10 ^ ((Nat.log 10 d.coefficient : Int) + 1) := by
    have h := Nat.lt_pow_succ_log_self (b := 10) (by norm_num) d.coefficient
    exact_mod_cast h
  constructor
  · rw [leading, add_comm, ten_zpow_add]
    exact mul_le_mul_of_nonneg_right hle hpos.le
  · rw [leading, add_assoc, add_comm, ten_zpow_add]
    exact mul_lt_mul_of_pos_right hlt hpos

end Decimal

/-- The decimal rounds to the number, and no decimal that does has fewer digits. -/
structure Shortest (x : Binary64) (d : Decimal) : Prop where
  rounds : nearest d.value = x.value
  least : ∀ other : Decimal, nearest other.value = x.value → d.digits ≤ other.digits

end PlantNexus.Data
