import PlantNexus.Time.IsoText

/-! Domain value helpers: identifiers, UTC instants, durations and ticks.

An instant is accepted only in the form that ends in `Z` and is written back at second
precision, so `parseUtcInstant_formatUtcInstant` recovers the instant to the second. A
duration in seconds becomes a number of ticks by rounding up. -/
namespace PlantNexus.Domain
open Time

/-! ### Text -/

/-- `str.isspace` of one character. -/
def isSpace (c : Char) : Bool :=
  let n := c.toNat
  (9 ≤ n && n ≤ 13) || (28 ≤ n && n ≤ 32) || n == 0x85 || n == 0xA0 || n == 0x1680 ||
    (0x2000 ≤ n && n ≤ 0x200A) || n == 0x2028 || n == 0x2029 || n == 0x202F || n == 0x205F ||
    n == 0x3000

/-- `value.strip()` is not empty. -/
def hasText (value : String) : Bool := value.toList.any fun c => !isSpace c

/-- `canonical_id` accepts the value. -/
def isCanonicalId (value : String) : Bool :=
  value ≠ "" && value.length ≤ 256 &&
    value.toList.all fun c => !(isSpace c || c.toNat < 32 || c.toNat == 127)

/-! ### Instants -/

/-- `parse_utc_instant`, with the text of its `ContractValueError`. -/
def parseUtcInstant (value : String) : Except String Datetime :=
  if value.toList.getLast? = some 'Z' then
    match fromisoformat (value.toList.dropLast ++ ['+', '0', '0', ':', '0', '0']) with
    | none => .error "timestamp is not a valid RFC 3339 instant"
    | some (parsed, offset) =>
      -- `require_utc`
      if offset = some 0 then .ok parsed else .error "timestamp must be timezone-aware UTC"
  else .error "timestamp must use RFC 3339 UTC form ending in Z"

/-- `format_utc_instant`: second precision, the fraction dropped. -/
def formatUtcInstant (value : Datetime) : String :=
  String.ofList (isoformatSeconds value ++ ['Z'])

/-- **A written instant is read back to the second.** -/
theorem parseUtcInstant_formatUtcInstant (d : Datetime) :
    parseUtcInstant (formatUtcInstant d) = .ok d.truncateToSecond := by
  simp [parseUtcInstant, formatUtcInstant, fromisoformat_isoformatSeconds]

/-- A text that is the written form of what it parses to names a whole second. -/
theorem truncate_of_canonical (value : String) (d : Datetime)
    (hparse : parseUtcInstant value = .ok d) (hcanonical : formatUtcInstant d = value) :
    d.truncateToSecond = d := by
  have h := parseUtcInstant_formatUtcInstant d
  rw [hcanonical, hparse] at h
  injection h with h
  exact h.symm

/-- Written forms of whole seconds are distinct. -/
theorem formatUtcInstant_inj (a b : Datetime) (ha : a.truncateToSecond = a)
    (hb : b.truncateToSecond = b) (h : formatUtcInstant a = formatUtcInstant b) : a = b := by
  have hpa := parseUtcInstant_formatUtcInstant a
  rw [h, parseUtcInstant_formatUtcInstant b, ha, hb] at hpa
  injection hpa with hpa
  exact hpa.symm

/-! ### Durations -/

/-- `require_duration_seconds`. -/
def requireDurationSeconds (value : Int) (allowZero : Bool := true) : Except String Int :=
  if (if allowZero then 0 else 1) ≤ value then .ok value
  else if allowZero then .error "duration_seconds must be a non-negative integer"
  else .error "duration_seconds must be a positive integer"

/-- `require_tick_seconds`. -/
def requireTickSeconds (value : Int) : Except String Int :=
  if 0 < value then .ok value else .error "tick_seconds must be a positive integer"

/-- `ceil(duration_seconds / tick_seconds)` in integer arithmetic. -/
def durationTicks (duration tick : Int) : Int := (duration + tick - 1) / tick

/-- `duration_to_ticks`. -/
def durationToTicks (duration tick : Int) : Except String Int := do
  let duration ← requireDurationSeconds duration
  let tick ← requireTickSeconds tick
  return durationTicks duration tick

/-- A rounded-up number of ticks is the least one that covers the duration. -/
theorem durationTicks_le_iff (duration tick n : Int) (ht : 0 < tick) :
    durationTicks duration tick ≤ n ↔ duration ≤ n * tick := by
  unfold durationTicks
  rw [← Int.lt_add_one_iff, Int.ediv_lt_iff_lt_mul ht, Int.add_mul]
  omega

theorem durationTicks_pos (duration tick : Int) (ht : 0 < tick) (hd : 0 < duration) :
    0 < durationTicks duration tick := by
  by_contra h
  have := (durationTicks_le_iff duration tick 0 ht).mp (by omega)
  omega

/-- `ceil(a / b)` of positive integers, where the quotient is a double: the nearest one,
ties to even. A quotient beyond the largest double raises. -/
def ceilQuotient (a b : Nat) : Option Nat :=
  if a < b then some (if a * 2 ^ 1075 ≤ b then 0 else 1)
  else
    let exponent := (a / b).log2
    if exponent ≤ 52 then
      let scale := 2 ^ (52 - exponent)
      some ((roundHalfEven (a * scale) b + scale - 1) / scale)
    else
      let ulp := 2 ^ (exponent - 52)
      let value := roundHalfEven a (b * ulp) * ulp
      if value < 2 ^ 1024 then some value else none

end PlantNexus.Domain
