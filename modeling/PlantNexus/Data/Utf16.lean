import PlantNexus.Data.Lists

/-! UTF-16 code units.

A JavaScript string is a list of code units. `encode` writes characters as units, one for a
character of the basic plane and a surrogate pair for any other; `codePoints` is what an
iteration over the string sees. The units in which no surrogate stands alone are exactly the
encoded texts (`paired_iff`), and for these the code points are the characters'. -/
namespace PlantNexus.Data.Utf16

def IsHigh (u : Nat) : Prop := 0xD800 ≤ u ∧ u ≤ 0xDBFF

def IsLow (u : Nat) : Prop := 0xDC00 ≤ u ∧ u ≤ 0xDFFF

instance (u : Nat) : Decidable (IsHigh u) := by unfold IsHigh; infer_instance

instance (u : Nat) : Decidable (IsLow u) := by unfold IsLow; infer_instance

/-- The code units of a character. -/
def encodeChar (c : Char) : List Nat :=
  if c.toNat < 0x10000 then [c.toNat]
  else [0xD800 + (c.toNat - 0x10000) / 0x400, 0xDC00 + (c.toNat - 0x10000) % 0x400]

def encode (text : List Char) : List Nat := text.flatMap encodeChar

/-- The code point of a surrogate pair. -/
def pairPoint (high low : Nat) : Nat := 0x10000 + (high - 0xD800) * 0x400 + (low - 0xDC00)

/-- The code points of a string; a surrogate that stands alone is one of its own. -/
def codePoints : List Nat → List Nat
  | [] => []
  | [u] => [u]
  | high :: low :: rest =>
    if IsHigh high ∧ IsLow low then pairPoint high low :: codePoints rest
    else high :: codePoints (low :: rest)

/-- No surrogate stands alone. -/
def Paired : List Nat → Prop
  | [] => True
  | [u] => ¬IsHigh u ∧ ¬IsLow u
  | high :: low :: rest =>
    if IsHigh high then IsLow low ∧ Paired rest else ¬IsLow high ∧ Paired (low :: rest)

instance decidablePaired : ∀ units : List Nat, Decidable (Paired units)
  | [] => isTrue trivial
  | [u] => inferInstanceAs (Decidable (¬IsHigh u ∧ ¬IsLow u))
  | high :: low :: rest =>
    have := decidablePaired rest
    have := decidablePaired (low :: rest)
    inferInstanceAs (Decidable
      (if IsHigh high then IsLow low ∧ Paired rest else ¬IsLow high ∧ Paired (low :: rest)))

/-- The character of a code point; the replacement character for a surrogate. -/
def scalar (point : Nat) : Char :=
  if h : point.isValidChar then Char.ofNatAux point h else '\ufffd'

/-- `TextEncoder.encode` -/
def textEncode (units : List Nat) : List UInt8 :=
  (codePoints units).flatMap fun point => String.utf8EncodeChar (scalar point)

/-! ### Characters -/

theorem char_range (c : Char) :
    c.toNat < 0xD800 ∨ (0xDFFF < c.toNat ∧ c.toNat < 0x110000) := c.valid

theorem scalar_toNat (c : Char) : scalar c.toNat = c := by
  have h : c.toNat.isValidChar := c.valid
  rw [scalar, dif_pos h]
  exact Char.ext (UInt32.toNat_inj.mp rfl)

/-- A code point that is no surrogate is a character's. -/
theorem exists_char (point : Nat) (h : point < 0xD800 ∨ (0xDFFF < point ∧ point < 0x110000)) :
    ∃ c : Char, c.toNat = point := by
  refine ⟨Char.ofNatAux point h, ?_⟩
  show (UInt32.ofNatLT point _).toNat = point
  rfl

theorem encodeChar_basic (c : Char) (h : c.toNat < 0x10000) : encodeChar c = [c.toNat] :=
  if_pos h

/-- A character outside the basic plane is a surrogate pair. -/
theorem encodeChar_pair (c : Char) (h : ¬c.toNat < 0x10000) :
    ∃ high low, encodeChar c = [high, low] ∧ IsHigh high ∧ IsLow low ∧
      pairPoint high low = c.toNat := by
  have hrange := char_range c
  refine ⟨_, _, if_neg h, ⟨by omega, by omega⟩, ⟨by omega, by omega⟩, ?_⟩
  unfold pairPoint
  omega

theorem encodeChar_lt (c : Char) : ∀ u ∈ encodeChar c, u < 0x10000 := by
  by_cases h : c.toNat < 0x10000
  · rw [encodeChar_basic c h]
    intro u hu
    rw [List.mem_singleton.mp hu]
    exact h
  · obtain ⟨high, low, heq, hhigh, hlow, -⟩ := encodeChar_pair c h
    rw [heq]
    intro u hu
    obtain rfl | hu := List.mem_cons.mp hu
    · exact Nat.lt_of_le_of_lt hhigh.2 (by decide)
    · rw [List.mem_singleton.mp hu]
      exact Nat.lt_of_le_of_lt hlow.2 (by decide)

/-- A character of the basic plane is no surrogate. -/
theorem not_surrogate (c : Char) (h : c.toNat < 0x10000) : ¬IsHigh c.toNat ∧ ¬IsLow c.toNat := by
  have hrange := char_range c
  unfold IsHigh IsLow
  omega

/-! ### Texts -/

theorem encode_cons (c : Char) (text : List Char) : encode (c :: text) = encodeChar c ++ encode text :=
  List.flatMap_cons

theorem codePoints_append_char (c : Char) (units : List Nat) :
    codePoints (encodeChar c ++ units) = c.toNat :: codePoints units := by
  by_cases h : c.toNat < 0x10000
  · rw [encodeChar_basic c h]
    obtain ⟨hhigh, -⟩ := not_surrogate c h
    cases units with
    | nil => rfl
    | cons u rest =>
      show codePoints (c.toNat :: u :: rest) = _
      rw [codePoints, if_neg fun hpair => hhigh hpair.1]
  · obtain ⟨high, low, heq, hhigh, hlow, hpoint⟩ := encodeChar_pair c h
    rw [heq]
    show codePoints (high :: low :: units) = _
    rw [codePoints, if_pos ⟨hhigh, hlow⟩, hpoint]

theorem codePoints_encode (text : List Char) : codePoints (encode text) = text.map Char.toNat := by
  induction text with
  | nil => rfl
  | cons c text ih => rw [encode_cons, codePoints_append_char, ih, List.map_cons]

theorem encode_injective {s t : List Char} (h : encode s = encode t) : s = t := by
  have hpoints := congrArg codePoints h
  rw [codePoints_encode, codePoints_encode] at hpoints
  exact List.map_injective_iff.mpr (fun _ _ heq => Char.toNat_inj.mp heq) hpoints

theorem textEncode_encode (text : List Char) :
    textEncode (encode text) = text.flatMap String.utf8EncodeChar := by
  rw [textEncode, codePoints_encode, List.flatMap_map]
  simp only [scalar_toNat]

theorem paired_append_char (c : Char) (units : List Nat) :
    Paired (encodeChar c ++ units) ↔ Paired units := by
  by_cases h : c.toNat < 0x10000
  · rw [encodeChar_basic c h]
    obtain ⟨hhigh, hlow⟩ := not_surrogate c h
    cases units with
    | nil => exact ⟨fun _ => trivial, fun _ => ⟨hhigh, hlow⟩⟩
    | cons u rest =>
      show Paired (c.toNat :: u :: rest) ↔ _
      rw [Paired, if_neg hhigh, and_iff_right hlow]
  · obtain ⟨high, low, heq, hhigh, hlow, -⟩ := encodeChar_pair c h
    rw [heq]
    show Paired (high :: low :: units) ↔ _
    rw [Paired, if_pos hhigh, and_iff_right hlow]

theorem paired_encode (text : List Char) : Paired (encode text) := by
  induction text with
  | nil => trivial
  | cons c text ih => rwa [encode_cons, paired_append_char]

/-- **Units in which no surrogate stands alone are the encoded texts.** -/
theorem paired_iff (units : List Nat) (hunits : ∀ u ∈ units, u < 0x10000) :
    Paired units ↔ ∃ text, units = encode text := by
  constructor
  · intro hpaired
    induction units using codePoints.induct with
    | case1 => exact ⟨[], rfl⟩
    | case2 u =>
      have hlt := hunits u (List.mem_singleton_self u)
      obtain ⟨hhigh, hlow⟩ := hpaired
      obtain ⟨c, hc⟩ := exists_char u (by unfold IsHigh at hhigh; unfold IsLow at hlow; omega)
      refine ⟨[c], ?_⟩
      rw [encode_cons, encodeChar_basic c (hc ▸ hlt), hc]
      rfl
    | case3 high low rest hpair ih =>
      obtain ⟨hhigh, hlow⟩ := hpair
      rw [Paired, if_pos hhigh] at hpaired
      obtain ⟨text, htext⟩ := ih
        (fun u hu => hunits u (List.mem_cons_of_mem _ (List.mem_cons_of_mem _ hu))) hpaired.2
      unfold IsHigh at hhigh
      unfold IsLow at hlow
      obtain ⟨c, hc⟩ := exists_char (pairPoint high low) (by unfold pairPoint; omega)
      unfold pairPoint at hc
      refine ⟨c :: text, ?_⟩
      have hfirst : 0xD800 + (c.toNat - 0x10000) / 0x400 = high := by omega
      have hsecond : 0xDC00 + (c.toNat - 0x10000) % 0x400 = low := by omega
      rw [encode_cons, ← htext, encodeChar, if_neg (by omega), hfirst, hsecond]
      rfl
    | case4 high low rest hpair ih =>
      have hlt := hunits high (List.mem_cons_self ..)
      have hhigh : ¬IsHigh high := by
        intro hhigh
        rw [Paired, if_pos hhigh] at hpaired
        exact hpair ⟨hhigh, hpaired.1⟩
      rw [Paired, if_neg hhigh] at hpaired
      obtain ⟨hlow, hrest⟩ := hpaired
      obtain ⟨text, htext⟩ := ih (fun u hu => hunits u (List.mem_cons_of_mem _ hu)) hrest
      obtain ⟨c, hc⟩ := exists_char high (by unfold IsHigh at hhigh; unfold IsLow at hlow; omega)
      refine ⟨c :: text, ?_⟩
      rw [encode_cons, encodeChar_basic c (hc ▸ hlt), hc, ← htext]
      rfl
  · intro hencoded
    obtain ⟨text, rfl⟩ := hencoded
    exact paired_encode text

end PlantNexus.Data.Utf16
