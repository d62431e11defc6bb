import PlantNexus.Domain.Types
import Mathlib.Data.String.Basic

/-! The order of written instants.

An instant written at second precision has digits of fixed widths between fixed marks, most
significant first, so the texts of two instants are in the order of their seconds
(`formatUtcInstant_lt_iff`). No other form of an instant takes part in that order: a fraction of a
second sorts before the whole second it follows. -/
namespace PlantNexus.Domain
open Time

/-! ### Texts of fixed widths -/

theorem append_lt_append {a b r s : List Char} (hlength : a.length = b.length) (h : a < b) :
    a ++ r < b ++ s := by
  induction a generalizing b with
  | nil =>
    rw [List.eq_nil_of_length_eq_zero hlength.symm] at h
    exact absurd h (List.not_lt_nil _)
  | cons x xs ih =>
    cases b with
    | nil => cases hlength
    | cons y ys =>
      rw [List.cons_lt_cons_iff] at h
      rw [List.cons_append, List.cons_append, List.cons_lt_cons_iff]
      obtain hlt | ⟨heq, hlt⟩ := h
      · exact .inl hlt
      · exact .inr ⟨heq, ih (Nat.succ.inj hlength) hlt⟩

theorem append_lt_of_lt {r s : List Char} (a : List Char) (h : r < s) : a ++ r < a ++ s := by
  induction a with
  | nil => exact h
  | cons x xs ih =>
    rw [List.cons_append, List.cons_append, List.cons_lt_cons_iff]
    exact .inr ⟨rfl, ih⟩

theorem cons_lt_of_lt {r s : List Char} (c : Char) (h : r < s) : c :: r < c :: s :=
  append_lt_of_lt [c] h

theorem length_padDigits (n value : Nat) : (padDigits n value).length = n := by
  induction n with
  | zero => rfl
  | succ n ih => rw [padDigits, List.length_cons, ih]

theorem digitChar_lt_of_lt : ∀ e < 10, ∀ d < e, Nat.digitChar d < Nat.digitChar e := by decide

/-- Numbers of one width are written in their order. -/
theorem padDigits_lt (n : Nat) {v w : Nat} (h : v % 10 ^ n < w % 10 ^ n) :
    padDigits n v < padDigits n w := by
  induction n with
  | zero => simp [Nat.mod_one] at h
  | succ n ih =>
    have hv : v % 10 ^ (n + 1) = v % 10 ^ n + 10 ^ n * (v / 10 ^ n % 10) := Nat.mod_pow_succ
    have hw : w % 10 ^ (n + 1) = w % 10 ^ n + 10 ^ n * (w / 10 ^ n % 10) := Nat.mod_pow_succ
    have hpow : 0 < 10 ^ n := Nat.pow_pos (by decide)
    have hvlt := Nat.mod_lt v hpow
    rw [padDigits, padDigits, List.cons_lt_cons_iff]
    rcases lt_trichotomy (v / 10 ^ n % 10) (w / 10 ^ n % 10) with hlt | heq | hgt
    · exact .inl (digitChar_lt_of_lt _ (Nat.mod_lt _ (by decide)) _ hlt)
    · rw [hv, hw, heq] at h
      exact .inr ⟨by rw [heq], ih (Nat.lt_of_add_lt_add_right h)⟩
    · have hstep : 10 ^ n * (w / 10 ^ n % 10) + 10 ^ n ≤ 10 ^ n * (v / 10 ^ n % 10) := by
        rw [← Nat.mul_succ]
        exact Nat.mul_le_mul_left _ hgt
      have hwlt := Nat.mod_lt w hpow
      omega

theorem padDigits_lt_of_lt (n : Nat) {v w : Nat} (h : v < w) (hw : w < 10 ^ n) :
    padDigits n v < padDigits n w := by
  refine padDigits_lt n ?_
  rw [Nat.mod_eq_of_lt hw, Nat.mod_eq_of_lt (h.trans hw)]
  exact h

theorem padDigits_append_lt (n : Nat) {v w : Nat} (h : v < w) (hw : w < 10 ^ n)
    (r s : List Char) : padDigits n v ++ r < padDigits n w ++ s :=
  append_lt_append (by rw [length_padDigits, length_padDigits]) (padDigits_lt_of_lt n h hw)

/-! ### Dates -/

/-- A cycle that ends with the year `n + 1` adds one to the cycles before it. -/
theorem succ_div_eq (n d : Nat) :
    (n + 1) / d = n / d + if (n + 1) % d = 0 then 1 else 0 := by
  simp only [Nat.succ_div, Nat.dvd_iff_mod_eq_zero]

theorem daysBeforeYear_succ (year : Nat) (hpos : 1 ≤ year) :
    daysBeforeYear (year + 1) = daysBeforeYear year + if isLeap year then 366 else 365 := by
  obtain ⟨n, rfl⟩ : ∃ n, year = n + 1 := ⟨year - 1, by omega⟩
  have hleap : isLeap (n + 1) = true ↔
      (n + 1) % 4 = 0 ∧ ((n + 1) % 100 ≠ 0 ∨ (n + 1) % 400 = 0) := by simp [isLeap]
  have h100 : (n + 1) % 100 = 0 → (n + 1) % 4 = 0 := by omega
  have h400 : (n + 1) % 400 = 0 → (n + 1) % 100 = 0 := by omega
  have hle : n / 100 ≤ n / 4 := Nat.div_le_div_left (by decide) (by decide)
  simp only [daysBeforeYear, Nat.add_sub_cancel, hleap, succ_div_eq n 4,
    succ_div_eq n 100, succ_div_eq n 400]
  generalize n / 4 = q4 at hle ⊢
  generalize n / 100 = q100 at hle ⊢
  generalize n / 400 = q400
  generalize (n + 1) % 4 = r4 at h100 ⊢
  generalize (n + 1) % 100 = r100 at h100 h400 ⊢
  generalize (n + 1) % 400 = r400 at h400 ⊢
  split_ifs <;> omega

theorem daysBeforeMonth_step : ∀ leap : Bool, ∀ month' ≤ 12, ∀ month < month', 1 ≤ month →
    daysBeforeMonth leap month + daysInMonth leap month ≤ daysBeforeMonth leap month' := by
  decide

/-- A date with a smaller day number is lexicographically smaller. -/
theorem ymd_lt_of_ordinal_lt {y m d y' m' d' : Nat} (hdate : IsDate y m d)
    (hdate' : IsDate y' m' d') (h : ymdToOrdinal y m d < ymdToOrdinal y' m' d') :
    y < y' ∨ y = y' ∧ (m < m' ∨ m = m' ∧ d < d') := by
  simp only [ymdToOrdinal] at h
  rcases lt_trichotomy y y' with hlt | rfl | hgt
  · exact .inl hlt
  · refine .inr ⟨rfl, ?_⟩
    rcases lt_trichotomy m m' with hlt | rfl | hgt
    · exact .inl hlt
    · exact .inr ⟨rfl, by omega⟩
    · have hstep := daysBeforeMonth_step (isLeap y) m hdate.month_le m' hgt hdate'.month_pos
      have hday := hdate'.day_le
      have hpos := hdate.day_pos
      omega
  · have hend := daysInMonth_end y' m' hdate'.month_pos hdate'.month_le
    have hyear := daysBeforeYear_succ y' hdate'.year_pos
    have hmono := daysBeforeYear_mono (y' + 1) y (by omega) hgt
    have hday := hdate'.day_le
    have hpos := hdate.day_pos
    omega

theorem isoDateText_eq (ordinal : Nat) : isoDateText ordinal =
    padDigits 4 (ordinalToYmd ordinal).1 ++ '-' :: (padDigits 2 (ordinalToYmd ordinal).2.1 ++
      '-' :: padDigits 2 (ordinalToYmd ordinal).2.2) := rfl

theorem isoDateText_lt {a b : Nat} (hpos : 1 ≤ a) (h : a < b) (hle : b ≤ maxOrdinal) :
    isoDateText a < isoDateText b := by
  obtain ⟨hdate, hordinal⟩ := ordinalToYmd_spec a hpos (by omega)
  obtain ⟨hdate', hordinal'⟩ := ordinalToYmd_spec b (by omega) hle
  rw [isoDateText_eq, isoDateText_eq]
  rw [← hordinal, ← hordinal'] at h
  clear hordinal hordinal' hle hpos
  generalize ordinalToYmd a = date at hdate h ⊢
  generalize ordinalToYmd b = date' at hdate' h ⊢
  have hdays : daysInMonth (isLeap date'.1) date'.2.1 ≤ 31 := by
    have htable : ∀ leap : Bool, ∀ month ≤ 12, daysInMonth leap month ≤ 31 := by decide
    exact htable _ _ hdate'.month_le
  rcases ymd_lt_of_ordinal_lt hdate hdate' h with hyear | ⟨hyear, hmonth | ⟨hmonth, hday⟩⟩
  · exact padDigits_append_lt 4 hyear (by have := hdate'.year_le; omega) _ _
  · rw [hyear]
    refine append_lt_of_lt _ (cons_lt_of_lt '-' ?_)
    exact padDigits_append_lt 2 hmonth (by have := hdate'.month_le; omega) _ _
  · rw [hyear, hmonth]
    refine append_lt_of_lt _ (cons_lt_of_lt '-' ?_)
    refine append_lt_of_lt _ (cons_lt_of_lt '-' ?_)
    exact padDigits_lt_of_lt 2 hday (by have := hdate'.day_le; omega)

theorem length_isoDateText (ordinal : Nat) : (isoDateText ordinal).length = 10 := by
  simp [isoDateText_eq, length_padDigits]

/-! ### Times -/

theorem isoTimeText_lt {a b : Nat} (h : a < b) (hb : b < 86400) :
    isoTimeText a < isoTimeText b := by
  rw [isoTimeText, isoTimeText]
  rcases lt_trichotomy (a / 3600) (b / 3600) with hlt | heq | hgt
  · exact padDigits_append_lt 2 hlt (by omega) _ _
  · rw [heq]
    refine append_lt_of_lt _ (cons_lt_of_lt ':' ?_)
    rcases lt_trichotomy (a / 60 % 60) (b / 60 % 60) with hlt | heq' | hgt
    · exact padDigits_append_lt 2 hlt (by omega) _ _
    · rw [heq']
      refine append_lt_of_lt _ (cons_lt_of_lt ':' ?_)
      exact padDigits_lt_of_lt 2 (by omega) (by omega)
    · omega
  · omega

theorem isoformatSeconds_lt {a b : Datetime} (h : a.seconds < b.seconds) :
    isoformatSeconds a < isoformatSeconds b := by
  have hrange := a.ordinal_range
  have hrange' := b.ordinal_range
  rw [isoformatSeconds, isoformatSeconds]
  rcases lt_trichotomy a.ordinal b.ordinal with hlt | heq | hgt
  · refine append_lt_append (by rw [length_isoDateText, length_isoDateText]) ?_
    exact isoDateText_lt hrange.1 hlt hrange'.2
  · rw [heq]
    refine append_lt_of_lt _ (cons_lt_of_lt 'T' ?_)
    refine isoTimeText_lt ?_ (Nat.mod_lt _ (by decide))
    simp only [Datetime.ordinal] at heq
    omega
  · simp only [Datetime.ordinal] at hgt
    omega

/-- **Written instants are in the order of their seconds.** -/
theorem formatUtcInstant_lt_iff (a b : Datetime) :
    formatUtcInstant a < formatUtcInstant b ↔ a.seconds < b.seconds := by
  have hforward : ∀ c d : Datetime, c.seconds < d.seconds →
      formatUtcInstant c < formatUtcInstant d := by
    intro c d hlt
    rw [formatUtcInstant, formatUtcInstant, String.lt_iff,
      String.toList_ofList, String.toList_ofList]
    refine append_lt_append ?_ (isoformatSeconds_lt hlt)
    simp [isoformatSeconds, length_isoDateText, isoTimeText, length_padDigits]
  refine ⟨?_, hforward a b⟩
  intro htext
  rcases lt_trichotomy a.seconds b.seconds with hlt | heq | hgt
  · exact hlt
  · have hsame : isoformatSeconds a = isoformatSeconds b := by
      rw [isoformatSeconds, isoformatSeconds, Datetime.ordinal, Datetime.ordinal, heq]
    rw [formatUtcInstant, formatUtcInstant, hsame] at htext
    exact absurd htext (lt_irrefl _)
  · exact absurd (hforward b a hgt) (lt_asymm htext)

end PlantNexus.Domain
