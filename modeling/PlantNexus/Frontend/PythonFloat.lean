import PlantNexus.Data.Decimal
import PlantNexus.Data.Lists
import Mathlib.Data.Nat.Cast.Order.Field
import Mathlib.Data.Prod.Lex

/-! Python's `repr` of a float, as the client writes it.

The digit loop of `pythonFloat` tries one precision after the other, at each of them the two
integers next to the scaled number, and takes the nearest that reads back as the number. Started
from the exponent of a shortest decimal it returns a shortest decimal that is nearest to the number
(`digitLoop_shortest`). `Number(text)` is rounding to nearest, ties to even. -/
namespace PlantNexus.Frontend
open Data

/-! ### The source -/

/-- The number that the 64 bits of a positive finite number stand for. -/
def ofBits (bits : Nat) (hpositive : 0 < bits) (hfinite : bits < 2047 * 2 ^ 52) : Binary64 where
  significand := if bits / 2 ^ 52 = 0 then bits % 2 ^ 52 else bits % 2 ^ 52 + 2 ^ 52
  power := if bits / 2 ^ 52 = 0 then -1074 else (bits / 2 ^ 52 : Nat) - 1075
  positive := by split_ifs <;> omega
  fits := by split_ifs <;> omega
  least := by split_ifs <;> omega
  greatest := by split_ifs <;> omega
  normal := by split_ifs <;> omega

section
variable (x : Binary64)

def numerator : Nat :=
  if 0 ≤ x.power then x.significand * 2 ^ x.power.toNat else x.significand

def denominator : Nat := if x.power < 0 then 2 ^ (-x.power).toNat else 1

/-- The number over the unit of the last digit, as a fraction. -/
def top (scale : Int) : Nat :=
  if scale < 0 then numerator x * 10 ^ (-scale).toNat else numerator x

def bottom (scale : Int) : Nat :=
  if 0 < scale then denominator x * 10 ^ scale.toNat else denominator x

/-- A candidate that reads back as the number. -/
def ReadsBack (scale : Int) (candidate : Nat) : Prop :=
  0 < candidate ∧ nearest (candidate * 10 ^ scale) = x.value

instance (scale : Int) (candidate : Nat) : Decidable (ReadsBack x scale candidate) :=
  inferInstanceAs (Decidable (_ ∧ _))

/-- The distance of a candidate, and its parity where two are as near. -/
def rank (scale : Int) (candidate : Nat) : Nat ×ₗ Nat :=
  toLex ((((candidate * bottom x scale : Nat) : Int) - top x scale).natAbs, candidate % 2)

/-- The candidates at a scale, the selected one first. -/
def candidates (scale : Int) : List Nat :=
  let floor := top x scale / bottom x scale
  sortByKey (rank x scale)
    ([floor, floor + 1].filter fun candidate => ReadsBack x scale candidate)

/-- The loop over `digits`, for as many rounds as are left. -/
def digitLoop (decimalExponent : Int) : Nat → Nat → Option (Nat × Int)
  | 0, _ => none
  | left + 1, digits =>
    let scale := decimalExponent - digits + 1
    match candidates x scale with
    | [] => digitLoop decimalExponent left (digits + 1)
    | selected :: _ => some (selected, scale)

end

/-- `text.replace(/0+$/u, "")` -/
def withoutZeros (text : List Char) : List Char := (text.reverse.dropWhile (· = '0')).reverse

/-- The digits of a float as Python writes them. -/
def formatted (negative : Bool) (selected : Nat) (scale : Int) : String :=
  let digits := (toString selected).toList
  let scientificExponent : Int := digits.length - 1 + scale
  let text := withoutZeros digits
  let sign := if negative then "-" else ""
  let point := scientificExponent + 1
  if scientificExponent < -4 ∨ 16 ≤ scientificExponent then
    let fraction := if 1 < text.length then '.' :: text.drop 1 else []
    let expSign := if scientificExponent < 0 then "-" else "+"
    let exponent := toString scientificExponent.natAbs
    let padded := if exponent.length < 2 then "0" ++ exponent else exponent
    sign ++ String.ofList (text.take 1 ++ fraction) ++ "e" ++ expSign ++ padded
  else if point ≤ 0 then
    sign ++ "0." ++ String.ofList (List.replicate (-point).toNat '0' ++ text)
  else if text.length ≤ point then
    sign ++ String.ofList (text ++ List.replicate (point.toNat - text.length) '0') ++ ".0"
  else
    sign ++ String.ofList (text.take point.toNat) ++ "." ++ String.ofList (text.drop point.toNat)

/-- `pythonFloat` of a finite number but zero; `none` is its `TypeError`. -/
def pythonFloat (negative : Bool) (magnitude : Binary64) (decimalExponent : Int) : Option String :=
  (digitLoop magnitude decimalExponent 17 1).map fun found => formatted negative found.1 found.2

/-! ### One precision -/

section
variable (x : Binary64)

theorem denominator_pos : 0 < denominator x := by
  unfold denominator
  split_ifs
  · exact Nat.pow_pos (by norm_num)
  · exact Nat.one_pos

theorem numerator_eq : (numerator x : ℚ) = x.value * denominator x := by
  unfold numerator denominator Binary64.value
  rcases le_or_gt 0 x.power with hpower | hpower
  · rw [if_pos hpower, if_neg (not_lt.mpr hpower)]
    obtain ⟨n, hn⟩ := Int.eq_ofNat_of_zero_le hpower
    rw [hn, Int.toNat_natCast, zpow_natCast]
    push_cast
    ring
  · rw [if_neg (not_le.mpr hpower), if_pos hpower]
    obtain ⟨n, hn⟩ := Int.eq_ofNat_of_zero_le (neg_nonneg.mpr hpower.le)
    have hpow : x.power = -(n : Int) := by omega
    rw [hpow, neg_neg, Int.toNat_natCast, zpow_neg, zpow_natCast]
    push_cast
    field_simp

theorem bottom_pos (scale : Int) : 0 < bottom x scale := by
  unfold bottom
  split_ifs
  · exact Nat.mul_pos (denominator_pos x) (Nat.pow_pos (by norm_num))
  · exact denominator_pos x

/-- The fraction is the number in units of the scale. -/
theorem top_eq (scale : Int) : (top x scale : ℚ) * 10 ^ scale = x.value * bottom x scale := by
  have hnumerator := numerator_eq x
  unfold top bottom
  rcases lt_trichotomy scale 0 with hscale | rfl | hscale
  · rw [if_pos hscale, if_neg (not_lt.mpr hscale.le)]
    obtain ⟨n, hn⟩ := Int.eq_ofNat_of_zero_le (neg_nonneg.mpr hscale.le)
    have hpow : scale = -(n : Int) := by omega
    rw [hpow, neg_neg, Int.toNat_natCast, zpow_neg, zpow_natCast]
    push_cast
    rw [hnumerator]
    field_simp
  · simp [hnumerator]
  · rw [if_neg (not_lt.mpr hscale.le), if_pos hscale]
    obtain ⟨n, hn⟩ := Int.eq_ofNat_of_zero_le hscale.le
    rw [hn, Int.toNat_natCast, zpow_natCast]
    push_cast
    rw [hnumerator]
    ring

/-- The number lies between the two candidates. -/
theorem floor_bounds (scale : Int) :
    ((top x scale / bottom x scale : Nat) : ℚ) * 10 ^ scale ≤ x.value ∧
      x.value < ((top x scale / bottom x scale + 1 : Nat) : ℚ) * 10 ^ scale := by
  have hbottom : (0 : ℚ) < bottom x scale := by exact_mod_cast bottom_pos x scale
  have hscale := ten_zpow_pos scale
  have hvalue : x.value = (top x scale : ℚ) / bottom x scale * 10 ^ scale := by
    rw [div_mul_eq_mul_div, top_eq, mul_div_cancel_right₀ _ hbottom.ne']
  constructor
  · rw [hvalue]
    refine mul_le_mul_of_nonneg_right ?_ hscale.le
    exact Nat.cast_div_le
  · rw [hvalue]
    refine mul_lt_mul_of_pos_right ?_ hscale
    rw [div_lt_iff₀ hbottom]
    exact_mod_cast Nat.lt_mul_of_div_lt (Nat.lt_succ_self _) (bottom_pos x scale)

theorem rank_distance {scale : Int} {a b : Nat} (h : rank x scale a ≤ rank x scale b) :
    |(a : ℚ) * 10 ^ scale - x.value| ≤ |(b : ℚ) * 10 ^ scale - x.value| := by
  have hbottom : (0 : ℚ) < bottom x scale := by exact_mod_cast bottom_pos x scale
  have hscale := ten_zpow_pos scale
  have hdistance : ∀ c : Nat, |(c : ℚ) * 10 ^ scale - x.value| * bottom x scale =
      ((((c * bottom x scale : Nat) : Int) - top x scale).natAbs : ℚ) * 10 ^ scale := by
    intro c
    rw [Nat.cast_natAbs, Int.cast_abs]
    nth_rewrite 1 [← abs_of_pos hbottom]
    nth_rewrite 2 [← abs_of_pos hscale]
    rw [← abs_mul, ← abs_mul]
    push_cast
    rw [sub_mul, sub_mul, top_eq]
    ring_nf
  have hle : (((a * bottom x scale : Nat) : Int) - top x scale).natAbs ≤
      (((b * bottom x scale : Nat) : Int) - top x scale).natAbs := by
    rcases Prod.Lex.toLex_le_toLex.mp h with hlt | ⟨heq, -⟩
    · exact hlt.le
    · exact heq.le
  refine le_of_mul_le_mul_right ?_ hbottom
  rw [hdistance, hdistance]
  exact mul_le_mul_of_nonneg_right (by exact_mod_cast hle) hscale.le

theorem mem_candidates {scale : Int} {c : Nat} : c ∈ candidates x scale ↔
    (c = top x scale / bottom x scale ∨ c = top x scale / bottom x scale + 1) ∧
      ReadsBack x scale c := by
  rw [candidates, mem_sortByKey, List.mem_filter, decide_eq_true_eq, List.mem_cons,
    List.mem_singleton]

/-- **Of all that reads back at a scale one of the two candidates is as near**, by the convexity of
what rounds to one number. -/
theorem exists_candidate {scale : Int} {k : Nat} (h : ReadsBack x scale k) :
    ∃ c ∈ candidates x scale,
      |(c : ℚ) * 10 ^ scale - x.value| ≤ |(k : ℚ) * 10 ^ scale - x.value| := by
  obtain ⟨hlow, hhigh⟩ := floor_bounds x scale
  have hscale := ten_zpow_pos scale
  set f := top x scale / bottom x scale with hf
  obtain ⟨hk, hround⟩ := h
  have hkpos : (0 : ℚ) < k * 10 ^ scale := mul_pos (by exact_mod_cast hk) hscale
  rcases Nat.lt_or_ge f k with hfk | hkf
  · have hstep : ((f + 1 : Nat) : ℚ) * 10 ^ scale ≤ k * 10 ^ scale :=
      mul_le_mul_of_nonneg_right (by exact_mod_cast hfk) hscale.le
    refine ⟨f + 1, (mem_candidates x).mpr ⟨.inr rfl, Nat.succ_pos f, ?_⟩, ?_⟩
    · exact x.nearest_eq_of_between x.value_pos hhigh.le hstep x.nearest_value hround
    · rw [abs_of_nonneg (by linarith), abs_of_nonneg (by linarith)]
      linarith
  · have hstep : (k : ℚ) * 10 ^ scale ≤ f * 10 ^ scale :=
      mul_le_mul_of_nonneg_right (by exact_mod_cast hkf) hscale.le
    refine ⟨f, (mem_candidates x).mpr ⟨.inl rfl, hk.trans_le hkf, ?_⟩, ?_⟩
    · exact x.nearest_eq_of_between hkpos hstep hlow hround x.nearest_value
    · rw [abs_of_nonpos (by linarith), abs_of_nonpos (by linarith)]
      linarith

/-- The selected candidate is as near as anything that reads back at its scale. -/
theorem selected_nearest {scale : Int} {selected : Nat} {rest : List Nat}
    (h : candidates x scale = selected :: rest) {k : Nat} (hk : ReadsBack x scale k) :
    |(selected : ℚ) * 10 ^ scale - x.value| ≤ |(k : ℚ) * 10 ^ scale - x.value| := by
  obtain ⟨c, hc, hle⟩ := exists_candidate x hk
  refine le_trans (rank_distance x ?_) hle
  have hsorted : (selected :: rest).Pairwise fun a b => rank x scale a ≤ rank x scale b :=
    h ▸ sortByKey_pairwise _ _
  rw [h] at hc
  rcases List.mem_cons.mp hc with rfl | hc
  · exact le_rfl
  · exact (List.pairwise_cons.mp hsorted).1 c hc

end

/-! ### The least numbers

Away from the least subnormal numbers at most one of two decimals of one digit rounds to a number,
and the exponent of a shortest decimal is that of the number or the next one. -/

/-- The least subnormal number in the units of its decimal. -/
theorem least_bounds :
    494 * (10 : ℚ) ^ (-326 : Int) < 2 ^ (-1074 : Int) ∧
      (2 : ℚ) ^ (-1074 : Int) < 495 * 10 ^ (-326 : Int) := by
  -- the powers are split so that their exponents stay small
  have hten : (10 : ℚ) ^ (-326 : Int) = ((10 ^ 163) ^ 2)⁻¹ := by
    rw [← pow_mul, zpow_neg]
    rfl
  have htwo : (2 : ℚ) ^ (-1074 : Int) = ((2 ^ 179) ^ 6)⁻¹ := by
    rw [← pow_mul, zpow_neg]
    rfl
  rw [hten, htwo]
  constructor
  · rw [mul_inv_lt_iff₀ (by positivity), ← div_eq_inv_mul, lt_div_iff₀ (by positivity)]
    norm_num
  · rw [← div_eq_mul_inv, lt_div_iff₀ (by positivity), inv_mul_lt_iff₀ (by positivity)]
    norm_num

theorem ten_zpow_scaled (n : Nat) : (10 : ℚ) ^ ((n : Int) - 326) = 10 ^ n * 10 ^ (-326 : Int) := by
  rw [sub_eq_add_neg, ten_zpow_add, zpow_natCast]

section
variable {x : Binary64}

/-- A number of few units is subnormal. -/
theorem power_eq_least (h : x.value ≤ 10 * 2 ^ x.power) : x.power = -1074 := by
  refine x.normal.resolve_right fun hnormal => ?_
  have hpos := two_zpow_pos x.power
  have hle : (x.significand : ℚ) ≤ 10 := le_of_mul_le_mul_right h hpos
  have hle : x.significand ≤ 10 := by exact_mod_cast hle
  omega

/-- The exponent of a power of ten between two bounds. -/
theorem exponent_eq {e : Int} {n : Int} (hlow : (10 : ℚ) ^ (n - 1) < 10 ^ e)
    (hhigh : (10 : ℚ) ^ e < 10 ^ (n + 1)) : e = n := by
  have h1 := (zpow_lt_zpow_iff_right₀ (by norm_num : (1 : ℚ) < 10)).mp hlow
  have h2 := (zpow_lt_zpow_iff_right₀ (by norm_num : (1 : ℚ) < 10)).mp hhigh
  omega

theorem distance_le {d : Decimal} (h : nearest d.value = x.value) :
    |d.value - x.value| ≤ 2 ^ x.power / 2 :=
  x.abs_sub_le_of_nearest_eq d.value_pos h

/-- A power of ten has one digit. -/
def tenPower (e : Int) : Decimal := ⟨1, e, Nat.one_pos⟩

theorem value_tenPower (e : Int) : (tenPower e).value = 10 ^ e := by
  rw [Decimal.value, tenPower, Nat.cast_one, one_mul]

theorem digits_tenPower_le (e : Int) : (tenPower e).digits ≤ 1 :=
  Decimal.digits_le _ le_rfl (by norm_num [tenPower])

/-- A decimal of one digit is at most nine of its leading power. -/
theorem value_le_nine {d : Decimal} (h : d.digits ≤ 1) : d.value ≤ 9 * 10 ^ d.leading := by
  obtain ⟨k, -, hk, hone, hvalue⟩ := d.exists_coefficient
  have hdigits : d.digits = 1 := le_antisymm h hone
  rw [hdigits] at hk hvalue
  have hnine : (k : ℚ) ≤ 9 := by
    have : k ≤ 9 := by omega
    exact_mod_cast this
  rw [hvalue, show d.leading - ((1 : Nat) : Int) + 1 = d.leading by push_cast; ring]
  exact mul_le_mul_of_nonneg_right hnine (ten_zpow_pos _).le

/-- **A number does not reach the next power of ten** over a shortest decimal that rounds to it. -/
theorem value_lt {d : Decimal} (h : Shortest x d) : x.value < 10 ^ (d.leading + 1) := by
  by_contra hge
  rw [not_lt] at hge
  have hunit := two_zpow_pos x.power
  have hten : (10 : ℚ) ^ (d.leading + 1) = 10 * 10 ^ d.leading := by
    rw [add_comm, ten_zpow_add]
    norm_num
  have hone : d.digits ≤ 1 := by
    refine (h.least (tenPower (d.leading + 1)) ?_).trans (digits_tenPower_le _)
    rw [value_tenPower]
    exact x.nearest_eq_of_between d.value_pos d.leading_bounds.2.le hge h.rounds x.nearest_value
  have hnine := value_le_nine hone
  have hclose := abs_le.mp (distance_le h.rounds)
  set t := (10 : ℚ) ^ d.leading with ht
  rw [hten] at hge
  have hpower : x.power = -1074 := power_eq_least (by linarith [hclose.1])
  obtain ⟨hlow, hhigh⟩ := least_bounds
  rw [hpower] at hclose hunit
  have hvalue : x.value = x.significand * 2 ^ (-1074 : Int) := by rw [Binary64.value, hpower]
  set u := (2 : ℚ) ^ (-1074 : Int) with hu
  have hsignificand : (1 : ℚ) ≤ x.significand := by exact_mod_cast x.positive
  have hleast : u ≤ x.value := by
    rw [hvalue]
    exact le_mul_of_one_le_left hunit.le hsignificand
  have hleading : d.leading = -324 := by
    refine exponent_eq ?_ ?_
    · rw [← ht]
      have : (10 : ℚ) ^ (-324 - 1 : Int) = 10 ^ 1 * 10 ^ (-326 : Int) := ten_zpow_scaled 1
      linarith [hclose.1]
    · rw [← ht]
      have : (10 : ℚ) ^ (-324 + 1 : Int) = 10 ^ 3 * 10 ^ (-326 : Int) := ten_zpow_scaled 3
      linarith [hclose.1]
  have htvalue : t = 10 ^ 2 * 10 ^ (-326 : Int) := by
    rw [ht, hleading]
    exact ten_zpow_scaled 2
  have hmicro := ten_zpow_pos (-326)
  rcases Nat.lt_or_ge x.significand 3 with hsmall | hlarge
  · have hle : (x.significand : ℚ) ≤ 2 := by
      have : x.significand ≤ 2 := by omega
      exact_mod_cast this
    have := mul_le_mul_of_nonneg_right hle hunit.le
    linarith
  · have hle : (3 : ℚ) ≤ x.significand := by exact_mod_cast hlarge
    have := mul_le_mul_of_nonneg_right hle hunit.le
    linarith [hclose.1]

/-- Where a power of ten above a number rounds to it, no decimal of one digit is nearer. -/
theorem tenPower_nearest {e : Int} (hbelow : x.value < 10 ^ e)
    (hround : nearest (10 ^ e) = x.value) {other : Decimal} (hother : nearest other.value = x.value)
    (hone : other.digits ≤ 1) (hleading : other.leading < e) :
    |(10 : ℚ) ^ e - x.value| ≤ |other.value - x.value| := by
  have hunit := two_zpow_pos x.power
  have hten : (10 : ℚ) ^ e = 10 * 10 ^ (e - 1) := by
    rw [show e = 1 + (e - 1) by ring, ten_zpow_add, add_sub_cancel_left]
    norm_num
  have hnine : other.value ≤ 9 * 10 ^ (e - 1) :=
    (value_le_nine hone).trans
      (mul_le_mul_of_nonneg_left (ten_zpow_le (by omega)) (by norm_num))
  have hclose := abs_le.mp (distance_le hother)
  have hclose' := abs_le.mp (x.abs_sub_le_of_nearest_eq (ten_zpow_pos e) hround)
  set t := (10 : ℚ) ^ (e - 1) with ht
  rw [hten] at hbelow hclose' ⊢
  have hpower : x.power = -1074 := power_eq_least (by linarith [hclose.1, hclose'.2])
  obtain ⟨hlow, hhigh⟩ := least_bounds
  rw [hpower] at hclose hclose' hunit
  have hvalue : x.value = x.significand * 2 ^ (-1074 : Int) := by rw [Binary64.value, hpower]
  set u := (2 : ℚ) ^ (-1074 : Int) with hu
  have hsignificand : (1 : ℚ) ≤ x.significand := by exact_mod_cast x.positive
  have hleast : u ≤ x.value := by
    rw [hvalue]
    exact le_mul_of_one_le_left hunit.le hsignificand
  have hexponent : e - 1 = -324 := by
    refine exponent_eq ?_ ?_
    · rw [← ht]
      have : (10 : ℚ) ^ (-324 - 1 : Int) = 10 ^ 1 * 10 ^ (-326 : Int) := ten_zpow_scaled 1
      linarith
    · rw [← ht]
      have : (10 : ℚ) ^ (-324 + 1 : Int) = 10 ^ 3 * 10 ^ (-326 : Int) := ten_zpow_scaled 3
      linarith [hclose.1, hclose'.2]
  have htvalue : t = 10 ^ 2 * 10 ^ (-326 : Int) := by
    rw [ht, hexponent]
    exact ten_zpow_scaled 2
  have hmicro := ten_zpow_pos (-326)
  have htwo : (2 : ℚ) ≤ x.significand := by
    rcases Nat.lt_or_ge x.significand 2 with hsmall | hlarge
    · have hle : (x.significand : ℚ) ≤ 1 := by
        have : x.significand ≤ 1 := by omega
        exact_mod_cast this
      have := mul_le_mul_of_nonneg_right hle hunit.le
      linarith [hclose'.2]
    · exact_mod_cast hlarge
  have hdouble := mul_le_mul_of_nonneg_right htwo hunit.le
  rw [abs_of_pos (by linarith), abs_of_nonpos (by linarith)]
  linarith

end

/-! ### The loop -/

section
variable (x : Binary64)

/-- Seventeen digits are enough: their unit is less than twice the smaller gap. -/
theorem exists_seventeen : ∃ d : Decimal, nearest d.value = x.value ∧ d.digits ≤ 17 := by
  have hpos := x.value_pos
  have hunit := two_zpow_pos x.power
  set e := Int.log 10 x.value with he
  have hlow : (10 : ℚ) ^ e ≤ x.value := by
    exact_mod_cast Int.zpow_log_le_self (R := ℚ) (by norm_num : 1 < 10) hpos
  have hhigh : x.value < (10 : ℚ) ^ (e + 1) := by
    exact_mod_cast Int.lt_zpow_succ_log_self (R := ℚ) (by norm_num : 1 < 10) x.value
  have hscale := ten_zpow_pos (e - 16)
  have hsixteen : (10 : ℚ) ^ e = 10 ^ 16 * 10 ^ (e - 16) := by
    rw [show e = ((16 : Nat) : Int) + (e - 16) by push_cast; ring, ten_zpow_add, zpow_natCast]
    congr 2
    push_cast
    ring
  have hseventeen : (10 : ℚ) ^ (e + 1) = 10 ^ 17 * 10 ^ (e - 16) := by
    rw [show e + 1 = ((17 : Nat) : Int) + (e - 16) by push_cast; ring, ten_zpow_add, zpow_natCast]
  have hvalue : x.value = x.significand * 2 ^ x.power := rfl
  -- half the unit of the last digit is less than the gap
  have hgap : (10 : ℚ) ^ (e - 16) / 2 < x.gapBelow := by
    unfold Binary64.gapBelow
    split_ifs with hedge
    · have hcast : (x.significand : ℚ) = 2 ^ 52 := by exact_mod_cast hedge.1
      rw [hvalue, hcast] at hlow
      rw [hsixteen] at hlow
      linarith
    · have hfits : (x.significand : ℚ) ≤ 2 ^ 53 := by exact_mod_cast x.fits.le
      have := mul_le_mul_of_nonneg_right hfits hunit.le
      rw [hvalue, hsixteen] at hlow
      linarith
  set k := roundEven (x.value / 10 ^ (e - 16)) with hk
  have hclose : |(k : ℚ) * 10 ^ (e - 16) - x.value| ≤ 10 ^ (e - 16) / 2 := by
    have hround := abs_sub_roundEven_le (x.value / 10 ^ (e - 16))
    rw [← hk, abs_sub_comm] at hround
    have hscaled : (k : ℚ) * 10 ^ (e - 16) - x.value =
        (k - x.value / 10 ^ (e - 16)) * 10 ^ (e - 16) := by
      rw [sub_mul, div_mul_cancel₀ _ hscale.ne']
    rw [hscaled, abs_mul, abs_of_pos hscale]
    linarith [mul_le_mul_of_nonneg_right hround hscale.le]
  have hlower : 1 ≤ k := by
    have hmono := roundEven_mono (show ((1 : Int) : ℚ) ≤ x.value / 10 ^ (e - 16) by
      rw [le_div_iff₀ hscale]
      push_cast
      linarith)
    rwa [roundEven_intCast] at hmono
  have hupper : k ≤ 10 ^ 17 := by
    have hmono := roundEven_mono (show x.value / 10 ^ (e - 16) ≤ (((10 ^ 17 : Int)) : ℚ) by
      rw [div_le_iff₀ hscale]
      push_cast
      linarith)
    rwa [roundEven_intCast] at hmono
  obtain ⟨n, hn⟩ := Int.eq_ofNat_of_zero_le (show 0 ≤ k by omega)
  refine ⟨⟨n, e - 16, by omega⟩, ?_, Decimal.digits_le _ (by norm_num) ?_⟩
  · have hdecimal : (Decimal.mk n (e - 16) (by omega)).value = (k : ℚ) * 10 ^ (e - 16) := by
      rw [Decimal.value, hn]
      push_cast
      rfl
    rw [hdecimal]
    have hsplit := abs_le.mp hclose
    exact x.nearest_eq_of_close (by linarith) (by linarith [x.gapBelow_le])
  · have : (n : Int) ≤ 10 ^ 17 := hn ▸ hupper
    exact_mod_cast this

/-- The loop returns at the first precision that has a candidate. -/
theorem digitLoop_eq {decimalExponent : Int} {n selected : Nat} {rest : List Nat}
    (hfirst : candidates x (decimalExponent - n + 1) = selected :: rest) (left digits : Nat)
    (hle : digits ≤ n) (hlt : n < digits + left)
    (hnone : ∀ m, digits ≤ m → m < n → candidates x (decimalExponent - m + 1) = []) :
    digitLoop x decimalExponent left digits = some (selected, decimalExponent - n + 1) := by
  induction left generalizing digits with
  | zero => omega
  | succ left ih =>
    rw [digitLoop]
    rcases hle.eq_or_lt with rfl | hless
    · rw [hfirst]
    · rw [hnone digits le_rfl hless]
      exact ih (digits + 1) hless (by omega) fun m hm => hnone m (by omega)

variable {x} in
/-- A decimal of a leading exponent lies on the grid of its own precision. -/
theorem readsBack_of_digits {d : Decimal} (h : nearest d.value = x.value) :
    ∃ k : Nat, ReadsBack x (d.leading - d.digits + 1) k ∧
      d.value = k * 10 ^ (d.leading - d.digits + 1) := by
  obtain ⟨k, hlow, -, -, hvalue⟩ := d.exists_coefficient
  exact ⟨k, ⟨(Nat.pow_pos (by norm_num)).trans_le hlow, hvalue ▸ h⟩, hvalue⟩

variable {x} in
/-- The candidates at a precision of a shortest decimal's exponent have no more digits. -/
theorem candidate_le {d : Decimal} (hd : Shortest x d) {n c : Nat}
    (hc : c ∈ candidates x (d.leading - n + 1)) : c ≤ 10 ^ n := by
  have hscale := ten_zpow_pos (d.leading - n + 1)
  have hgrid : (10 : ℚ) ^ (d.leading + 1) = ((10 ^ n : Nat) : ℚ) * 10 ^ (d.leading - n + 1) := by
    rw [show d.leading + 1 = (n : Int) + (d.leading - n + 1) by ring, ten_zpow_add, zpow_natCast]
    push_cast
    rfl
  have hfloor := (floor_bounds x (d.leading - n + 1)).1.trans_lt (value_lt hd)
  rw [hgrid] at hfloor
  have hlt : top x (d.leading - n + 1) / bottom x (d.leading - n + 1) < 10 ^ n := by
    exact_mod_cast lt_of_mul_lt_mul_right hfloor hscale.le
  rcases ((mem_candidates x).mp hc).1 with rfl | rfl
  · exact hlt.le
  · exact hlt

variable {x} in
/-- At the precision of the shortest decimals the selected candidate is as near as each of them. -/
theorem selected_le {start other : Decimal} (hstart : Shortest x start) (hother : Shortest x other)
    {selected : Nat} {rest : List Nat}
    (hfirst : candidates x (start.leading - start.digits + 1) = selected :: rest) :
    |(selected : ℚ) * 10 ^ (start.leading - start.digits + 1) - x.value| ≤
      |other.value - x.value| := by
  have hsame : other.digits = start.digits :=
    le_antisymm (hother.least start hstart.rounds) (hstart.least other hother.rounds)
  have hgrid : ((10 ^ start.digits : Nat) : ℚ) * 10 ^ (start.leading - start.digits + 1) =
      10 ^ (start.leading + 1) := by
    rw [Nat.cast_pow, ← zpow_natCast, Nat.cast_ofNat, ← ten_zpow_add]
    congr 1
    ring
  rcases lt_trichotomy other.leading start.leading with hless | heq | hmore
  · -- a power of ten lies between the other decimal and the number, or above both
    have hpower : other.value < 10 ^ start.leading :=
      other.leading_bounds.2.trans_le (ten_zpow_le (by omega))
    have hreads : nearest (10 ^ start.leading) = x.value := by
      rcases le_or_gt (10 ^ start.leading) x.value with hle | hgt
      · exact x.nearest_eq_of_between other.value_pos hpower.le hle hother.rounds x.nearest_value
      · exact x.nearest_eq_of_between x.value_pos hgt.le start.leading_bounds.1 x.nearest_value
          hstart.rounds
    obtain ⟨-, -, -, hone, -⟩ := start.exists_coefficient
    have hdigit : start.digits = 1 := by
      refine le_antisymm ((hstart.least (tenPower start.leading) ?_).trans
        (digits_tenPower_le _)) hone
      rw [value_tenPower]
      exact hreads
    have hscale : start.leading - (start.digits : Int) + 1 = start.leading := by
      rw [hdigit]
      push_cast
      ring
    rw [hscale] at hfirst ⊢
    have hread : ReadsBack x start.leading 1 := by
      refine ⟨Nat.one_pos, ?_⟩
      rw [Nat.cast_one, one_mul]
      exact hreads
    refine (selected_nearest x hfirst hread).trans ?_
    rw [Nat.cast_one, one_mul]
    rcases le_or_gt (10 ^ start.leading) x.value with hle | hgt
    · rw [abs_of_nonpos (by linarith), abs_of_nonpos (by linarith)]
      linarith
    · exact tenPower_nearest hgt hreads hother.rounds (by omega) hless
  · -- both stand on the same grid
    obtain ⟨k, hk, hvalue⟩ := readsBack_of_digits hother.rounds
    rw [heq, hsame] at hk hvalue
    rw [hvalue]
    exact selected_nearest x hfirst hk
  · -- the next power of ten lies between the number and the other decimal
    have hpower : (10 : ℚ) ^ (start.leading + 1) ≤ other.value :=
      (ten_zpow_le (by omega)).trans other.leading_bounds.1
    have hbelow := value_lt hstart
    have hreads : ReadsBack x (start.leading - start.digits + 1) (10 ^ start.digits) := by
      refine ⟨Nat.pow_pos (by norm_num), ?_⟩
      rw [hgrid]
      exact x.nearest_eq_of_between x.value_pos hbelow.le hpower x.nearest_value hother.rounds
    refine (selected_nearest x hfirst hreads).trans ?_
    rw [hgrid, abs_of_pos (by linarith), abs_of_pos (by linarith)]
    linarith

/-- **The digit loop returns a shortest decimal**: started from the leading exponent of any shortest
decimal that rounds to a number it succeeds within seventeen digits, with a shortest decimal that is
nearest to the number among these. -/
theorem digitLoop_shortest (start : Decimal) (hstart : Shortest x start) :
    ∃ d : Decimal, digitLoop x start.leading 17 1 = some (d.coefficient, d.exponent) ∧
      Shortest x d ∧ d.digits ≤ 17 ∧
      ∀ other, Shortest x other → |d.value - x.value| ≤ |other.value - x.value| := by
  obtain ⟨-, -, -, hone, -⟩ := start.exists_coefficient
  obtain ⟨enough, hrounds, hseventeen⟩ := exists_seventeen x
  have hbound : start.digits ≤ 17 := (hstart.least enough hrounds).trans hseventeen
  obtain ⟨k, hk, -⟩ := readsBack_of_digits hstart.rounds
  obtain ⟨c, hc, -⟩ := exists_candidate x hk
  obtain ⟨selected, rest, hfirst⟩ := List.exists_cons_of_ne_nil (List.ne_nil_of_mem hc)
  have hselected : selected ∈ candidates x (start.leading - start.digits + 1) :=
    hfirst ▸ List.mem_cons_self ..
  obtain ⟨-, hpositive, hround⟩ := (mem_candidates x).mp hselected
  -- a candidate at a smaller precision would be a shorter decimal
  have hnone : ∀ m, 1 ≤ m → m < start.digits → candidates x (start.leading - m + 1) = [] := by
    intro m hm hless
    by_contra hsome
    obtain ⟨c, hc⟩ := List.exists_mem_of_ne_nil _ hsome
    obtain ⟨-, hcpos, hcround⟩ := (mem_candidates x).mp hc
    have hdigits := Decimal.digits_le ⟨c, start.leading - m + 1, hcpos⟩ hm (candidate_le hstart hc)
    exact absurd (hstart.least ⟨c, start.leading - m + 1, hcpos⟩ hcround) (by omega)
  have hdigits := Decimal.digits_le ⟨selected, start.leading - start.digits + 1, hpositive⟩ hone
    (candidate_le hstart hselected)
  refine ⟨⟨selected, start.leading - start.digits + 1, hpositive⟩,
    digitLoop_eq x hfirst 17 1 hone (by omega) hnone, ?_, hdigits.trans hbound, ?_⟩
  · exact ⟨hround, fun other hother => hdigits.trans (hstart.least other hother)⟩
  · exact fun other hother => selected_le hstart hother hfirst

/-- Every number has a shortest decimal to start from. -/
theorem exists_shortest : ∃ d : Decimal, Shortest x d := by
  classical
  have hsome : ∃ n, ∃ d : Decimal, nearest d.value = x.value ∧ d.digits = n := by
    obtain ⟨d, hrounds, -⟩ := exists_seventeen x
    exact ⟨d.digits, d, hrounds, rfl⟩
  obtain ⟨d, hrounds, hdigits⟩ := Nat.find_spec hsome
  refine ⟨d, hrounds, fun other hother => ?_⟩
  rw [hdigits]
  exact Nat.find_min' hsome ⟨other, hother, rfl⟩

end

/-- The number 1. -/
def one : Binary64 := ofBits (1023 * 2 ^ 52) (by norm_num) (by norm_num)

theorem shortest_one : Shortest one (tenPower 0) := by
  refine ⟨?_, fun other _ => ?_⟩
  · have hvalue : (tenPower 0).value = one.value := by
      rw [value_tenPower, Binary64.value, one, ofBits]
      norm_num
    rw [hvalue]
    exact one.nearest_value
  · obtain ⟨-, -, -, hone, -⟩ := other.exists_coefficient
    exact (digits_tenPower_le 0).trans hone

theorem digitLoop_shortest_one :
    Shortest one (tenPower 0) ∧ ∃ d : Decimal,
      digitLoop one (tenPower 0).leading 17 1 = some (d.coefficient, d.exponent) ∧
      Shortest one d ∧ d.digits ≤ 17 ∧
      ∀ other, Shortest one other → |d.value - one.value| ≤ |other.value - one.value| :=
  ⟨shortest_one, digitLoop_shortest one (tenPower 0) shortest_one⟩

end PlantNexus.Frontend
