import PlantNexus.Time.Instant

/-! ISO 8601 texts of instants.

`fromisoformat` reads the forms `datetime.fromisoformat` documents: extended and
basic calendar dates, week dates, any single character between date and time, the
extended and basic times of day with an optional fraction (digits past the sixth are
dropped), and a UTC offset or `Z`. `isoformatSeconds` writes the second-precision
extended form. `fromisoformat_isoformatSeconds` is the round trip: what was written
is read back as the instant without its fraction of a second. -/
namespace PlantNexus.Time

/-! ### Digits -/

/-- Exactly `n` ASCII digits, read after the accumulated value. -/
def parseDigits : Nat → Nat → List Char → Option (Nat × List Char)
  | 0, acc, cs => some (acc, cs)
  | _ + 1, _, [] => none
  | n + 1, acc, c :: cs =>
    if c.isDigit then parseDigits n (10 * acc + (c.toNat - 48)) cs else none

/-- The last `n` decimal digits of a number, zero padded. -/
def padDigits : Nat → Nat → List Char
  | 0, _ => []
  | n + 1, value => Nat.digitChar (value / 10 ^ n % 10) :: padDigits n value

theorem digitChar_isDigit (d : Nat) (h : d < 10) : (Nat.digitChar d).isDigit = true := by
  interval_cases d <;> decide

theorem digitChar_value (d : Nat) (h : d < 10) : (Nat.digitChar d).toNat - 48 = d := by
  interval_cases d <;> decide

theorem parseDigits_padDigits (n acc value : Nat) (rest : List Char) :
    parseDigits n acc (padDigits n value ++ rest) =
      some (acc * 10 ^ n + value % 10 ^ n, rest) := by
  induction n generalizing acc with
  | zero => simp [parseDigits, padDigits, Nat.mod_one]
  | succ n ih =>
    have hd : value / 10 ^ n % 10 < 10 := Nat.mod_lt _ (by omega)
    simp only [padDigits, List.cons_append, parseDigits, digitChar_isDigit _ hd,
      digitChar_value _ hd, if_true, ih]
    have hmod : value % 10 ^ (n + 1) = value % 10 ^ n + 10 ^ n * (value / 10 ^ n % 10) :=
      Nat.mod_pow_succ
    rw [hmod, pow_succ]
    congr 2
    ring

/-- A number that fits its width is read back exactly. -/
theorem parseDigits_pad_of_lt (n value : Nat) (rest : List Char) (h : value < 10 ^ n) :
    parseDigits n 0 (padDigits n value ++ rest) = some (value, rest) := by
  rw [parseDigits_padDigits, Nat.mod_eq_of_lt h]
  simp

/-! ### Dates -/

/-- A calendar date as its day number. -/
def isoCalendarDate (year month day : Nat) : Option Nat :=
  if IsDate year month day then some (ymdToOrdinal year month day) else none

/-- An ISO week date as its day number. -/
def isoWeekDate (year week day : Nat) : Option Nat :=
  let first := ymdToOrdinal year 1 1
  let weekday := (first + 6) % 7
  let monday := if weekday > 3 then first - weekday + 7 else first - weekday
  -- only years that start on a Thursday, and leap years on a Wednesday, have week 53
  let long := weekday = 3 ∨ weekday = 2 ∧ isLeap year
  if 1 ≤ year ∧ year ≤ 9999 ∧ 1 ≤ week ∧ (week ≤ 52 ∨ week = 53 ∧ long) ∧
      1 ≤ day ∧ day ≤ 7 then
    let ordinal := monday + (week - 1) * 7 + (day - 1)
    if 1 ≤ ordinal ∧ ordinal ≤ maxOrdinal then some ordinal else none
  else none

/-- A leading hyphen, where the extended form demands one. -/
def expectHyphen (extended : Bool) (cs : List Char) : Option (List Char) :=
  match extended, cs with
  | false, cs => some cs
  | true, '-' :: cs => some cs
  | true, _ => none

def parseWeekDate (extended : Bool) (year : Nat) (cs : List Char) : Option Nat := do
  let (week, cs) ← parseDigits 2 0 cs
  match cs with
  | [] => isoWeekDate year week 1
  | cs =>
    let cs ← expectHyphen extended cs
    let (day, _) ← parseDigits 1 0 cs
    isoWeekDate year week day

def parseCalendarDate (extended : Bool) (year : Nat) (cs : List Char) : Option Nat := do
  let (month, cs) ← parseDigits 2 0 cs
  let cs ← expectHyphen extended cs
  let (day, _) ← parseDigits 2 0 cs
  isoCalendarDate year month day

/-- The date part of an ISO text, as a day number. -/
def parseDate (cs : List Char) : Option Nat := do
  let (year, cs) ← parseDigits 4 0 cs
  match cs with
  | '-' :: 'W' :: cs => parseWeekDate true year cs
  | '-' :: cs => parseCalendarDate true year cs
  | 'W' :: cs => parseWeekDate false year cs
  | cs => parseCalendarDate false year cs

/-- Where the date part ends. Week dates may or may not carry a weekday, and the
separator may be any character, so the digits that follow decide. -/
def dateLength (cs : List Char) : Nat :=
  if cs[4]? = some '-' then
    if cs[5]? = some 'W' then
      if cs[8]? = some '-' then
        if (cs[10]?).any Char.isDigit then 8 else 10
      else 8
    else 10
  else if cs[4]? = some 'W' then
    let digits := 7 + ((cs.drop 7).takeWhile Char.isDigit).length
    if digits < 9 then digits else if digits % 2 = 0 then 7 else 8
  else 8

/-! ### Times of day and offsets -/

/-- Digits of a fraction of a second as microseconds. -/
def parseFraction (cs : List Char) : Option Nat :=
  if cs ≠ [] ∧ cs.all Char.isDigit then
    (parseDigits 6 0 (cs ++ List.replicate 6 '0')).map Prod.fst
  else none

/-- A time of day in microseconds. -/
def clockMicros (hour minute second micros : Nat) : Option Nat :=
  if hour < 24 ∧ minute < 60 ∧ second < 60 then
    some (((hour * 60 + minute) * 60 + second) * 1000000 + micros)
  else none

/-- What may follow the seconds. -/
def parseSecondsTail (hour minute second : Nat) (cs : List Char) : Option Nat :=
  match cs with
  | [] => clockMicros hour minute second 0
  | c :: cs =>
    if c = '.' ∨ c = ',' then (parseFraction cs).bind (clockMicros hour minute second) else none

/-- `HH`, `HH:MM`, `HH:MM:SS[.f]` or the same without colons. -/
def parseTimeOfDay (cs : List Char) : Option Nat := do
  let (hour, cs) ← parseDigits 2 0 cs
  match cs with
  | [] => clockMicros hour 0 0 0
  | ':' :: cs =>
    let (minute, cs) ← parseDigits 2 0 cs
    match cs with
    | [] => clockMicros hour minute 0 0
    | ':' :: cs =>
      let (second, cs) ← parseDigits 2 0 cs
      parseSecondsTail hour minute second cs
    | _ => none
  | cs =>
    let (minute, cs) ← parseDigits 2 0 cs
    match cs with
    | [] => clockMicros hour minute 0 0
    | cs =>
      let (second, cs) ← parseDigits 2 0 cs
      parseSecondsTail hour minute second cs

def isZoneMark (c : Char) : Bool := c == '+' || c == '-' || c == 'Z'

/-- A UTC offset in microseconds; `none` inside for a naive time. -/
def parseZone (cs : List Char) : Option (Option Int) :=
  match cs with
  | [] => some none
  | 'Z' :: rest => if rest = [] then some (some 0) else none
  | '+' :: rest => (parseTimeOfDay rest).map fun us => some (us : Int)
  | _ :: rest => (parseTimeOfDay rest).map fun us => some (-(us : Int))

/-- The instant of a day number and a time of day. -/
def ofOrdinal (ordinal micros : Nat) : Option Datetime :=
  let total : Int := ((ordinal : Int) - 1) * 86400 * 1000000 + micros
  if h : 0 ≤ total ∧ total < microsLimit then some ⟨total, h.1, h.2⟩ else none

/-- `datetime.fromisoformat`: the local date and time and its UTC offset, if any. -/
def fromisoformat (cs : List Char) : Option (Datetime × Option Int) := do
  let ordinal ← parseDate (cs.take (dateLength cs))
  match cs.drop (dateLength cs) with
  | [] =>
    let d ← ofOrdinal ordinal 0
    some (d, none)
  | _ :: time =>
    let us ← parseTimeOfDay (time.takeWhile fun c => !isZoneMark c)
    let zone ← parseZone (time.dropWhile fun c => !isZoneMark c)
    let d ← ofOrdinal ordinal us
    some (d, zone)

/-! ### Writing -/

/-- Seconds since the start of year 1. -/
def Datetime.seconds (d : Datetime) : Nat := (d.micros / 1000000).toNat

/-- The day number of an instant. -/
def Datetime.ordinal (d : Datetime) : Nat := d.seconds / 86400 + 1

def isoDateText (ordinal : Nat) : List Char :=
  let (year, month, day) := ordinalToYmd ordinal
  padDigits 4 year ++ '-' :: (padDigits 2 month ++ '-' :: padDigits 2 day)

def isoTimeText (second : Nat) : List Char :=
  padDigits 2 (second / 3600) ++ ':' ::
    (padDigits 2 (second / 60 % 60) ++ ':' :: padDigits 2 (second % 60))

/-- `isoformat(timespec="seconds")` of a UTC instant, without its offset. -/
def isoformatSeconds (d : Datetime) : List Char :=
  isoDateText d.ordinal ++ 'T' :: isoTimeText (d.seconds % 86400)

theorem Datetime.ordinal_range (d : Datetime) : 1 ≤ d.ordinal ∧ d.ordinal ≤ maxOrdinal := by
  have := d.nonneg
  have hlt := d.lt
  simp only [microsLimit] at hlt
  simp only [ordinal, seconds]
  omega

/-! ### The round trip -/

theorem parseTimeOfDay_isoTimeText (second : Nat) (h : second < 86400) :
    parseTimeOfDay (isoTimeText second) = some (second * 1000000) := by
  have hh : second / 3600 < 10 ^ 2 := by omega
  have hm : second / 60 % 60 < 10 ^ 2 := by omega
  have hs : second % 60 < 10 ^ 2 := by omega
  have htail : parseDigits 2 0 (padDigits 2 (second % 60)) = some (second % 60, []) := by
    simpa using parseDigits_pad_of_lt 2 (second % 60) [] hs
  have hclock : second / 3600 < 24 ∧ second / 60 % 60 < 60 ∧ second % 60 < 60 := by omega
  simp only [parseTimeOfDay, isoTimeText, parseDigits_pad_of_lt _ _ _ hh,
    parseDigits_pad_of_lt _ _ _ hm, htail, Option.bind_eq_bind, Option.bind_some,
    parseSecondsTail, clockMicros, if_pos hclock]
  have hsum : (second / 3600 * 60 + second / 60 % 60) * 60 + second % 60 = second := by omega
  rw [hsum, Nat.add_zero]

theorem padDigits_two (value : Nat) :
    padDigits 2 value = [Nat.digitChar (value / 10 % 10), Nat.digitChar (value % 10)] := by
  simp [padDigits]

theorem digitChar_ne (d : Nat) (hd : d < 10) (c : Char) (hc : c.isDigit = false) :
    Nat.digitChar d ≠ c := by
  intro h
  rw [← h, digitChar_isDigit d hd] at hc
  cases hc

theorem parseDate_isoDateText (ordinal : Nat) (hpos : 1 ≤ ordinal) (hle : ordinal ≤ maxOrdinal) :
    parseDate (isoDateText ordinal) = some ordinal := by
  obtain ⟨hdate, hord⟩ := ordinalToYmd_spec ordinal hpos hle
  simp only [isoDateText]
  generalize (ordinalToYmd ordinal).1 = year at *
  generalize (ordinalToYmd ordinal).2.1 = month at *
  generalize (ordinalToYmd ordinal).2.2 = day at *
  have hy : year < 10 ^ 4 := by have := hdate.year_le; omega
  have hm : month < 10 ^ 2 := by have := hdate.month_le; omega
  have hd : day < 10 ^ 2 := by
    have := hdate.day_le
    have : daysInMonth (isLeap year) month ≤ 31 := by
      unfold daysInMonth
      repeat' split
      all_goals omega
    omega
  have hcal : parseCalendarDate true year (padDigits 2 month ++ '-' :: padDigits 2 day) =
      some ordinal := by
    have htail : parseDigits 2 0 (padDigits 2 day) = some (day, []) := by
      simpa using parseDigits_pad_of_lt 2 day [] hd
    simp only [parseCalendarDate, parseDigits_pad_of_lt _ _ _ hm, Option.bind_eq_bind,
      Option.bind_some, expectHyphen, htail, isoCalendarDate, if_pos hdate, hord]
  simp only [parseDate, parseDigits_pad_of_lt _ _ _ hy, Option.bind_eq_bind, Option.bind_some]
  -- the character after the first hyphen is a digit, so this is no week date
  have hw : Nat.digitChar (month / 10 % 10) ≠ 'W' :=
    digitChar_ne _ (Nat.mod_lt _ (by omega)) _ (by decide)
  rw [padDigits_two] at hcal ⊢
  simp only [List.cons_append] at hcal ⊢
  split
  · rename_i heq
    simp only [List.cons.injEq] at heq
    exact absurd heq.2.1 hw
  · rename_i heq
    simp only [List.cons.injEq, true_and] at heq
    rw [← heq]
    exact hcal
  · rename_i heq
    simp at heq
  · rename_i h1 h2
    exact absurd rfl (h1 _)

theorem isoTimeText_no_mark (second : Nat) : ∀ c ∈ isoTimeText second, isZoneMark c = false := by
  have hdigit : ∀ d < 10, isZoneMark (Nat.digitChar d) = false := by decide
  intro c hc
  simp only [isoTimeText, padDigits_two, List.cons_append, List.nil_append, List.mem_cons,
    List.not_mem_nil, or_false] at hc
  rcases hc with rfl | rfl | rfl | rfl | rfl | rfl | rfl | rfl <;>
    first | decide | exact hdigit _ (Nat.mod_lt _ (by omega))

theorem isoDateText_shape (ordinal : Nat) (rest : List Char) :
    dateLength (isoDateText ordinal ++ rest) = 10 ∧ (isoDateText ordinal).length = 10 := by
  simp only [isoDateText]
  generalize (ordinalToYmd ordinal).1 = year
  generalize (ordinalToYmd ordinal).2.1 = month
  generalize (ordinalToYmd ordinal).2.2 = day
  have hw : Nat.digitChar (month / 10 % 10) ≠ 'W' :=
    digitChar_ne _ (Nat.mod_lt _ (by omega)) _ (by decide)
  have hm : padDigits 2 month = [Nat.digitChar (month / 10 % 10), Nat.digitChar (month % 10)] :=
    padDigits_two month
  rw [hm]
  simp [dateLength, padDigits, hw]

/-- **Reading back a written instant gives the instant to the second, in UTC.** -/
theorem fromisoformat_isoformatSeconds (d : Datetime) :
    fromisoformat (isoformatSeconds d ++ ['+', '0', '0', ':', '0', '0']) =
      some (d.truncateToSecond, some 0) := by
  obtain ⟨hpos, hle⟩ := d.ordinal_range
  have hsecond : d.seconds % 86400 < 86400 := Nat.mod_lt _ (by omega)
  have hshape := fun rest => isoDateText_shape d.ordinal rest
  have hassoc : isoformatSeconds d ++ ['+', '0', '0', ':', '0', '0'] =
      isoDateText d.ordinal ++
        ('T' :: (isoTimeText (d.seconds % 86400) ++ ['+', '0', '0', ':', '0', '0'])) := by
    simp [isoformatSeconds]
  have hmark : ∀ c ∈ isoTimeText (d.seconds % 86400), (!isZoneMark c) = true := by
    intro c hc
    rw [isoTimeText_no_mark _ c hc]
    rfl
  have htake : (isoTimeText (d.seconds % 86400) ++ ['+', '0', '0', ':', '0', '0']).takeWhile
      (fun c => !isZoneMark c) = isoTimeText (d.seconds % 86400) := by
    rw [List.takeWhile_append_of_pos hmark]
    simp [isZoneMark]
  have hdrop : (isoTimeText (d.seconds % 86400) ++ ['+', '0', '0', ':', '0', '0']).dropWhile
      (fun c => !isZoneMark c) = ['+', '0', '0', ':', '0', '0'] := by
    rw [List.dropWhile_append_of_pos hmark]
    simp [isZoneMark]
  have hzone : parseZone ['+', '0', '0', ':', '0', '0'] = some (some 0) := by decide
  have htrunc : ofOrdinal d.ordinal (d.seconds % 86400 * 1000000) = some d.truncateToSecond := by
    have hnn := d.nonneg
    have hlt := d.lt
    have htotal : ((d.ordinal : Int) - 1) * 86400 * 1000000 +
        ((d.seconds % 86400 * 1000000 : Nat) : Int) = d.micros / 1000000 * 1000000 := by
      simp only [Datetime.ordinal, Datetime.seconds]
      omega
    simp only [ofOrdinal, htotal]
    rw [dif_pos ⟨by omega, by omega⟩]
    rfl
  rw [hassoc]
  unfold fromisoformat
  rw [(hshape _).1, List.take_left' (hshape []).2, List.drop_left' (hshape []).2]
  simp only [parseDate_isoDateText _ hpos hle, Option.bind_eq_bind, Option.bind_some, htake, hdrop,
    parseTimeOfDay_isoTimeText _ hsecond, hzone, htrunc]

end PlantNexus.Time
