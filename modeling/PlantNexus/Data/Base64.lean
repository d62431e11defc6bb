import Mathlib.Data.List.DropRight

/-! Base64 with the URL-safe alphabet, over bytes.

The encoder writes three bytes as four characters and fills the last group with `=`. The decoder
is the lenient one of the standard library: it takes either alphabet, skips what belongs to
neither, and stops where the padding completes a group. What the encoder writes, with its padding
stripped and put back, is read back (`urlsafeB64decode_padded`). -/
namespace PlantNexus.Data.Base64

/-! ### Encoding -/

/-- The six-bit groups of a sequence of bytes, the last one filled with zeros. -/
def sextets : List UInt8 → List Nat
  | a :: b :: c :: rest =>
    a.toNat / 4 :: (a.toNat % 4 * 16 + b.toNat / 16) :: (b.toNat % 16 * 4 + c.toNat / 64) ::
      c.toNat % 64 :: sextets rest
  | [a, b] => [a.toNat / 4, a.toNat % 4 * 16 + b.toNat / 16, b.toNat % 16 * 4]
  | [a] => [a.toNat / 4, a.toNat % 4 * 16]
  | [] => []

def urlsafeChar (v : Nat) : Char :=
  if v < 26 then Char.ofNat (65 + v)
  else if v < 52 then Char.ofNat (71 + v)
  else if v < 62 then Char.ofNat (v - 4)
  else if v = 62 then '-'
  else '_'

/-- The `=` that complete a text of this length to groups of four. -/
def padding (length : Nat) : List Char := List.replicate ((4 - length % 4) % 4) '='

/-- `base64.urlsafe_b64encode` -/
def urlsafeB64encode (bytes : List UInt8) : List Char :=
  (sextets bytes).map urlsafeChar ++ padding (sextets bytes).length

/-- `text.rstrip("=")` -/
def rstripPadding (text : List Char) : List Char := text.rdropWhile (· = '=')

/-! ### Decoding -/

/-- The value of a character of either alphabet. -/
def charSextet (c : Char) : Option Nat :=
  let n := c.toNat
  if 65 ≤ n ∧ n ≤ 90 then some (n - 65)
  else if 97 ≤ n ∧ n ≤ 122 then some (n - 71)
  else if 48 ≤ n ∧ n ≤ 57 then some (n + 4)
  else if c = '-' ∨ c = '+' then some 62
  else if c = '_' ∨ c = '/' then some 63
  else none

/-- The bytes from inside a group: `quad` characters of it are read and leave the bits `left`. -/
def decodeFrom : Nat → Nat → Nat → List Char → Option (List UInt8)
  | quad, _, _, [] => if quad = 0 then some [] else none
  | quad, left, pads, c :: rest =>
    if c = '=' then
      if 2 ≤ quad then
        if 4 ≤ quad + (pads + 1) then some [] else decodeFrom quad left (pads + 1) rest
      else decodeFrom quad left pads rest
    else match charSextet c with
      | none => decodeFrom quad left pads rest
      | some v =>
        if quad = 0 then decodeFrom 1 v 0 rest
        else if quad = 1 then
          (decodeFrom 2 (v % 16) 0 rest).map (UInt8.ofNat (left * 4 + v / 16) :: ·)
        else if quad = 2 then
          (decodeFrom 3 (v % 4) 0 rest).map (UInt8.ofNat (left * 16 + v / 4) :: ·)
        else (decodeFrom 0 0 0 rest).map (UInt8.ofNat (left * 64 + v) :: ·)

/-- `base64.urlsafe_b64decode` of a text; a character outside ASCII does not encode. -/
def urlsafeB64decode (text : List Char) : Option (List UInt8) :=
  if text.all (·.toNat < 128) then decodeFrom 0 0 0 text else none

/-! ### Reading back -/

theorem charSextet_urlsafeChar : ∀ v < 64, charSextet (urlsafeChar v) = some v := by decide

theorem urlsafeChar_ne_pad : ∀ v < 64, urlsafeChar v ≠ '=' := by decide

theorem urlsafeChar_ascii : ∀ v < 64, (urlsafeChar v).toNat < 128 := by decide

theorem sextets_lt : ∀ bytes : List UInt8, ∀ v ∈ sextets bytes, v < 64
  | a :: b :: c :: rest => by
    have ha := a.toNat_lt
    have hb := b.toNat_lt
    have hc := c.toNat_lt
    intro v hv
    simp only [sextets, List.mem_cons] at hv
    rcases hv with rfl | rfl | rfl | rfl | hv
    · omega
    · omega
    · omega
    · omega
    · exact sextets_lt rest v hv
  | [a, b] => by
    have ha := a.toNat_lt
    have hb := b.toNat_lt
    intro v hv
    simp only [sextets, List.mem_cons, List.not_mem_nil, or_false] at hv
    omega
  | [a] => by
    have ha := a.toNat_lt
    intro v hv
    simp only [sextets, List.mem_cons, List.not_mem_nil, or_false] at hv
    omega
  | [] => by simp [sextets]

section Steps
variable {v left pads : Nat} (hv : v < 64) (rest : List Char)
include hv

theorem decodeFrom_zero :
    decodeFrom 0 left pads (urlsafeChar v :: rest) = decodeFrom 1 v 0 rest := by
  rw [decodeFrom, if_neg (urlsafeChar_ne_pad v hv), charSextet_urlsafeChar v hv]
  simp

theorem decodeFrom_one :
    decodeFrom 1 left pads (urlsafeChar v :: rest) =
      (decodeFrom 2 (v % 16) 0 rest).map (UInt8.ofNat (left * 4 + v / 16) :: ·) := by
  rw [decodeFrom, if_neg (urlsafeChar_ne_pad v hv), charSextet_urlsafeChar v hv]
  simp

theorem decodeFrom_two :
    decodeFrom 2 left pads (urlsafeChar v :: rest) =
      (decodeFrom 3 (v % 4) 0 rest).map (UInt8.ofNat (left * 16 + v / 4) :: ·) := by
  rw [decodeFrom, if_neg (urlsafeChar_ne_pad v hv), charSextet_urlsafeChar v hv]
  simp

theorem decodeFrom_three :
    decodeFrom 3 left pads (urlsafeChar v :: rest) =
      (decodeFrom 0 0 0 rest).map (UInt8.ofNat (left * 64 + v) :: ·) := by
  rw [decodeFrom, if_neg (urlsafeChar_ne_pad v hv), charSextet_urlsafeChar v hv]
  simp

end Steps

theorem ofNat_eq {n : Nat} {b : UInt8} (h : n = b.toNat) : UInt8.ofNat n = b := by
  rw [h, UInt8.ofNat_toNat]

theorem decodeFrom_sextets : ∀ bytes : List UInt8,
    decodeFrom 0 0 0 ((sextets bytes).map urlsafeChar ++ padding (sextets bytes).length) =
      some bytes
  | a :: b :: c :: rest => by
    have ha := a.toNat_lt
    have hb := b.toNat_lt
    have hc := c.toNat_lt
    have hpad : padding (sextets (a :: b :: c :: rest)).length = padding (sextets rest).length := by
      simp only [padding, sextets, List.length_cons]
      congr 1
      omega
    rw [hpad]
    simp only [sextets, List.map_cons, List.cons_append]
    rw [decodeFrom_zero (by omega), decodeFrom_one (by omega), decodeFrom_two (by omega),
      decodeFrom_three (by omega), decodeFrom_sextets rest, ofNat_eq (b := a) (by omega),
      ofNat_eq (b := b) (by omega), ofNat_eq (b := c) (by omega)]
    rfl
  | [a, b] => by
    have ha := a.toNat_lt
    have hb := b.toNat_lt
    simp only [sextets, List.map_cons, List.map_nil, List.cons_append, List.nil_append]
    rw [decodeFrom_zero (by omega), decodeFrom_one (by omega), decodeFrom_two (by omega),
      ofNat_eq (b := a) (by omega), ofNat_eq (b := b) (by omega)]
    rfl
  | [a] => by
    have ha := a.toNat_lt
    simp only [sextets, List.map_cons, List.map_nil, List.cons_append, List.nil_append]
    rw [decodeFrom_zero (by omega), decodeFrom_one (by omega), ofNat_eq (b := a) (by omega)]
    rfl
  | [] => rfl

theorem rstripPadding_append (text : List Char) (n : Nat) :
    rstripPadding (text ++ List.replicate n '=') = rstripPadding text := by
  induction n with
  | zero => rw [List.replicate_zero, List.append_nil]
  | succ n ih =>
    rw [List.replicate_succ', ← List.append_assoc, rstripPadding,
      List.rdropWhile_concat_pos _ _ _ (by simp)]
    exact ih

theorem rstripPadding_encode (bytes : List UInt8) :
    rstripPadding (urlsafeB64encode bytes) = (sextets bytes).map urlsafeChar := by
  rw [urlsafeB64encode, padding, rstripPadding_append, rstripPadding, List.rdropWhile_eq_self_iff]
  intro hne hpad
  obtain ⟨v, hv, heq⟩ := List.mem_map.mp (List.getLast_mem hne)
  exact urlsafeChar_ne_pad v (sextets_lt bytes v hv) (heq.trans (by simpa using hpad))

/-- **What is encoded is decoded.** The padding is stripped before and put back after. -/
theorem urlsafeB64decode_padded (bytes : List UInt8) :
    urlsafeB64decode (rstripPadding (urlsafeB64encode bytes) ++
      padding (rstripPadding (urlsafeB64encode bytes)).length) = some bytes := by
  rw [rstripPadding_encode, List.length_map, urlsafeB64decode, if_pos]
  · exact decodeFrom_sextets bytes
  · rw [List.all_append, Bool.and_eq_true, List.all_eq_true, List.all_eq_true]
    refine ⟨?_, ?_⟩
    · intro c hc
      obtain ⟨v, hv, rfl⟩ := List.mem_map.mp hc
      exact decide_eq_true (urlsafeChar_ascii v (sextets_lt bytes v hv))
    · intro c hc
      rw [List.eq_of_mem_replicate hc]
      rfl

end PlantNexus.Data.Base64
