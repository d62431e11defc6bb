import Mathlib.Data.List.DropRight
import PlantNexus.Data.JsonRead

/-! Scanning a literal that goes on.

A literal is found in a longer text as it is found alone, as long as what follows it ends it
(`scanNumber_append`). An integer that is written out, an escaped character and a blank are
scanned back. -/
namespace PlantNexus.Data.JsonRead

/-! ### Blanks and strings -/

theorem skipBlanks_skipBlanks (cs : List Char) : skipBlanks (skipBlanks cs) = skipBlanks cs :=
  List.dropWhile_idempotent isBlank cs

theorem length_skipBlanks_le (cs : List Char) : (skipBlanks cs).length ≤ cs.length :=
  (List.dropWhile_sublist isBlank).length_le

theorem hexDigit?_lt {c : Char} {n : Nat} (h : hexDigit? c = some n) : n < 16 := by
  unfold hexDigit? at h
  split_ifs at h with hdigit hlower hupper
  · have hle : c.toNat ≤ '9'.toNat := (Char.isDigit_iff_toNat.mp hdigit).2
    have : '9'.toNat = 57 := by decide
    have := Option.some.inj h
    omega
  · have hle : c.toNat ≤ 'f'.toNat := hlower.2
    have : 'f'.toNat = 102 := by decide
    have := Option.some.inj h
    omega
  · have hle : c.toNat ≤ 'F'.toNat := hupper.2
    have : 'F'.toNat = 70 := by decide
    have := Option.some.inj h
    omega

theorem hex4_lt {cs rest : List Char} {n : Nat} (h : hex4 cs = some (n, rest)) : n < 0x10000 := by
  unfold hex4 at h
  split at h
  · simp only [Option.bind_eq_bind, Option.bind_eq_some_iff] at h
    obtain ⟨a, ha, b, hb, c, hc, d, hd, heq⟩ := h
    have hvalue : 4096 * a + 256 * b + 16 * c + d = n := (Prod.mk.inj (Option.some.inj heq)).1
    have := hexDigit?_lt ha
    have := hexDigit?_lt hb
    have := hexDigit?_lt hc
    have := hexDigit?_lt hd
    omega
  · cases h

theorem scanPieces_quote (rest : List Char) : scanPieces ('"' :: rest) = some ([], rest) := by
  rw [scanPieces.eq_def]
  exact if_pos rfl

theorem scanPieces_hex (h₁ h₂ h₃ h₄ : Char) (rest : List Char) :
    scanPieces ('\\' :: 'u' :: h₁ :: h₂ :: h₃ :: h₄ :: rest) = (do
      let (unit, _) ← hex4 [h₁, h₂, h₃, h₄]
      let (pieces, rest) ← scanPieces rest
      return (.escape unit :: pieces, rest)) := by
  rw [scanPieces, if_neg (by decide), if_pos rfl]

theorem scanPieces_letter (e : Char) (rest : List Char)
    (hnot : ∀ (h₁ h₂ h₃ h₄ : Char) (tail : List Char),
      e = 'u' → rest = h₁ :: h₂ :: h₃ :: h₄ :: tail → False) :
    scanPieces ('\\' :: e :: rest) = (do
      let letter ← escapeLetter e
      let (pieces, rest) ← scanPieces rest
      return (.char letter :: pieces, rest)) := by
  rw [scanPieces, if_neg (by decide), if_pos rfl]
  exact hnot

theorem scanPieces_char {c : Char} (hquote : c ≠ '"') (hslash : c ≠ '\\') (rest : List Char) :
    scanPieces (c :: rest) = if c.toNat < 32 then none else (do
      let (pieces, rest) ← scanPieces rest
      return (.char c :: pieces, rest)) := by
  rw [scanPieces.eq_def]
  exact (if_neg hquote).trans (if_neg hslash)


/-! ### Numbers -/

/-- What follows a value in a printed document. -/
def Ends (rest : List Char) : Prop :=
  rest = [] ∨ ∃ c tail, rest = c :: tail ∧ (c = ',' ∨ c = ']' ∨ c = '\x7d')

theorem ends_cons {c : Char} (h : c = ',' ∨ c = ']' ∨ c = '\x7d') (tail : List Char) :
    Ends (c :: tail) := .inr ⟨c, tail, rfl, h⟩

theorem Ends.skipBlanks {rest : List Char} (h : Ends rest) : skipBlanks rest = rest := by
  obtain rfl | ⟨c, tail, rfl, rfl | rfl | rfl⟩ := h
  all_goals rfl

theorem Ends.digits {rest : List Char} (h : Ends rest) (cs : List Char) :
    (cs ++ rest).takeWhile Char.isDigit = cs.takeWhile Char.isDigit ∧
      (cs ++ rest).dropWhile Char.isDigit = cs.dropWhile Char.isDigit ++ rest := by
  induction cs with
  | nil =>
    obtain rfl | ⟨c, tail, rfl, rfl | rfl | rfl⟩ := h
    all_goals exact ⟨rfl, rfl⟩
  | cons c cs ih =>
    cases hc : c.isDigit with
    | true => simp only [List.cons_append, List.takeWhile_cons, List.dropWhile_cons, hc, ih, if_true,
        and_self]
    | false => simp only [List.cons_append, List.takeWhile_cons, List.dropWhile_cons, hc,
        Bool.false_eq_true, if_false, and_self]

/-- `0|[1-9][0-9]*` -/
def scanMagnitude : List Char → Option (List Char × List Char)
  | '0' :: rest => some (['0'], rest)
  | c :: rest =>
    if c.isDigit then some (c :: rest.takeWhile Char.isDigit, rest.dropWhile Char.isDigit)
    else none
  | [] => none

theorem scanInteger_eq (cs : List Char) :
    let sign := if cs.head? = some '-' then ['-'] else []
    scanInteger cs =
      (scanMagnitude (cs.drop sign.length)).map fun s => (sign ++ s.1, s.2) := by
  unfold scanInteger
  dsimp only
  split
  · rename_i heq
    rw [heq]
    rfl
  · rename_i c rest hzero heq
    rw [heq, scanMagnitude]
    · split_ifs
      · rfl
      · rfl
      · rfl
      · rfl
    · exact hzero
  · rename_i heq
    rw [heq]
    rfl

theorem scanInteger_minus (cs : List Char) :
    scanInteger ('-' :: cs) = (scanMagnitude cs).map fun s => ('-' :: s.1, s.2) :=
  scanInteger_eq ('-' :: cs)

theorem scanInteger_of_ne {c : Char} (h : c ≠ '-') (cs : List Char) :
    scanInteger (c :: cs) = scanMagnitude (c :: cs) := by
  have hsign : ¬(c :: cs).head? = some '-' := fun heq => h (Option.some.inj heq)
  rw [scanInteger_eq, if_neg hsign]
  exact Option.map_id'

theorem scanMagnitude_zero (rest : List Char) : scanMagnitude ('0' :: rest) = some (['0'], rest) :=
  rfl

theorem scanMagnitude_digit {c : Char} (hzero : c ≠ '0') (hdigit : c.isDigit = true)
    (rest : List Char) : scanMagnitude (c :: rest) =
      some (c :: rest.takeWhile Char.isDigit, rest.dropWhile Char.isDigit) := by
  rw [scanMagnitude, if_pos hdigit]
  exact hzero

theorem scanMagnitude_cases {cs i tail : List Char} (h : scanMagnitude cs = some (i, tail)) :
    (i = ['0'] ∧ cs = '0' :: tail) ∨ ∃ c rest, c ≠ '0' ∧ c.isDigit = true ∧ cs = c :: rest ∧
      i = c :: rest.takeWhile Char.isDigit ∧ tail = rest.dropWhile Char.isDigit := by
  unfold scanMagnitude at h
  split at h
  · obtain ⟨rfl, rfl⟩ := Prod.mk.inj (Option.some.inj h)
    exact .inl ⟨rfl, rfl⟩
  · rename_i c rest hzero
    split_ifs at h with hdigit
    obtain ⟨rfl, rfl⟩ := Prod.mk.inj (Option.some.inj h)
    exact .inr ⟨c, rest, hzero, hdigit, rfl, rfl, rfl⟩
  · cases h

/-- A magnitude starts with a digit, is a part of the text, and is the same in a longer one. -/
theorem scanMagnitude_append {cs i tail : List Char} (h : scanMagnitude cs = some (i, tail)) :
    cs = i ++ tail ∧ (∃ c digits, cs = c :: digits ∧ c.isDigit = true) ∧
      ∀ rest, Ends rest → scanMagnitude (cs ++ rest) = some (i, tail ++ rest) := by
  obtain ⟨rfl, rfl⟩ | ⟨c, digits, hzero, hdigit, rfl, rfl, rfl⟩ := scanMagnitude_cases h
  · exact ⟨rfl, ⟨'0', tail, rfl, rfl⟩, fun _ _ => rfl⟩
  · refine ⟨?_, ⟨c, digits, rfl, hdigit⟩, ?_⟩
    · rw [List.cons_append, List.takeWhile_append_dropWhile]
    · intro rest hends
      obtain ⟨htake, hdrop⟩ := hends.digits digits
      rw [List.cons_append, scanMagnitude_digit hzero hdigit, htake, hdrop]

/-- The first character of a number literal. -/
def NumberHead (cs : List Char) : Prop := ∃ c tail, cs = c :: tail ∧ (c = '-' ∨ c.isDigit = true)

theorem scanInteger_append {cs i tail : List Char} (h : scanInteger cs = some (i, tail)) :
    cs = i ++ tail ∧ NumberHead cs ∧
      ∀ rest, Ends rest → scanInteger (cs ++ rest) = some (i, tail ++ rest) := by
  cases cs with
  | nil => cases h
  | cons c cs =>
    by_cases hc : c = '-'
    · subst hc
      rw [scanInteger_minus] at h
      obtain ⟨⟨i', tail'⟩, hscan, heq⟩ := Option.map_eq_some_iff.mp h
      obtain ⟨rfl, rfl⟩ := Prod.mk.inj heq
      obtain ⟨hsplit, -, happend⟩ := scanMagnitude_append hscan
      refine ⟨congrArg _ hsplit, ⟨'-', cs, rfl, .inl rfl⟩, ?_⟩
      intro rest hends
      rw [List.cons_append, scanInteger_minus, happend rest hends]
      rfl
    · rw [scanInteger_of_ne hc] at h
      obtain ⟨hsplit, ⟨d, digits, heq, hdigit⟩, happend⟩ := scanMagnitude_append h
      refine ⟨hsplit, ⟨d, digits, heq, .inr hdigit⟩, ?_⟩
      intro rest hends
      rw [List.cons_append, scanInteger_of_ne hc, ← List.cons_append, happend rest hends]

theorem scanInteger_length {cs i tail : List Char} (h : scanInteger cs = some (i, tail)) :
    tail.length < cs.length := by
  have hmagnitude : ∀ cs i, scanMagnitude cs = some (i, tail) → tail.length < cs.length := by
    intro cs i hscan
    obtain ⟨-, rfl⟩ | ⟨c, rest, -, -, rfl, -, rfl⟩ := scanMagnitude_cases hscan
    · exact Nat.lt_succ_self _
    · exact Nat.lt_succ_of_le (List.dropWhile_sublist _).length_le
  cases cs with
  | nil => cases h
  | cons c cs =>
    by_cases hc : c = '-'
    · subst hc
      rw [scanInteger_minus] at h
      obtain ⟨⟨i', tail'⟩, hscan, heq⟩ := Option.map_eq_some_iff.mp h
      obtain ⟨-, rfl⟩ := Prod.mk.inj heq
      exact Nat.lt_succ_of_lt (hmagnitude cs i' hscan)
    · rw [scanInteger_of_ne hc] at h
      exact hmagnitude _ i h

theorem scanFraction_append (cs : List Char) :
    cs = (scanFraction cs).1 ++ (scanFraction cs).2 ∧
      ∀ rest, Ends rest →
        scanFraction (cs ++ rest) = ((scanFraction cs).1, (scanFraction cs).2 ++ rest) := by
  by_cases hdot : ∃ c tail, cs = '.' :: c :: tail
  · obtain ⟨c, tail, rfl⟩ := hdot
    by_cases hdigit : c.isDigit = true
    · have hscan : ∀ tail, scanFraction ('.' :: c :: tail) =
          ('.' :: c :: tail.takeWhile Char.isDigit, tail.dropWhile Char.isDigit) :=
        fun _ => if_pos hdigit
      refine ⟨?_, ?_⟩
      · rw [hscan]
        simp only [List.cons_append, List.takeWhile_append_dropWhile]
      · intro rest hends
        obtain ⟨htake, hdrop⟩ := hends.digits tail
        rw [List.cons_append, List.cons_append, hscan, hscan, htake, hdrop]
    · have hscan : ∀ tail, scanFraction ('.' :: c :: tail) = ([], '.' :: c :: tail) :=
        fun _ => if_neg hdigit
      refine ⟨?_, ?_⟩
      · rw [hscan]
        rfl
      · intro rest hends
        rw [List.cons_append, List.cons_append, hscan, hscan]
        rfl
  · have hscan : ∀ cs, (∀ c tail, cs ≠ '.' :: c :: tail) → scanFraction cs = ([], cs) := by
      intro cs hcs
      unfold scanFraction
      split
      · exact (hcs _ _ rfl).elim
      · rfl
    have hnone : ∀ c tail, cs ≠ '.' :: c :: tail := fun c tail heq => hdot ⟨c, tail, heq⟩
    rw [hscan cs hnone]
    refine ⟨rfl, ?_⟩
    intro rest hends
    cases cs with
    | nil =>
      obtain rfl | ⟨c, tail, rfl, rfl | rfl | rfl⟩ := hends
      all_goals rfl
    | cons c cs =>
      cases cs with
      | nil =>
        obtain rfl | ⟨d, tail, rfl, hd⟩ := hends
        · exact hscan _ hnone
        · by_cases hc : c = '.'
          · subst hc
            obtain rfl | rfl | rfl := hd
            all_goals rfl
          · apply hscan
            intro e tail' heq
            exact hc (List.cons.inj heq).1
      | cons d cs =>
        apply hscan
        intro e tail heq
        obtain ⟨rfl, htail⟩ := List.cons.inj heq
        exact hnone d cs rfl

/-- The sign of an exponent. -/
def exponentSign : List Char → List Char
  | '+' :: _ => ['+']
  | '-' :: _ => ['-']
  | _ => []

/-- The digits of an exponent after its letter and sign. -/
def scanDigits (front : List Char) : List Char → Option (List Char × List Char)
  | c :: digits =>
    if c.isDigit then
      some (front ++ c :: digits.takeWhile Char.isDigit, digits.dropWhile Char.isDigit)
    else none
  | [] => none

theorem scanExponent_eq {e : Char} (he : e = 'e' ∨ e = 'E') (cs : List Char) :
    scanExponent (e :: cs) =
      (scanDigits (e :: exponentSign cs) (cs.drop (exponentSign cs).length)).getD
        ([], e :: cs) := by
  have hscan : scanExponent (e :: cs) =
      match cs.drop (exponentSign cs).length with
      | c :: digits =>
        if c.isDigit then
          (e :: exponentSign cs ++ c :: digits.takeWhile Char.isDigit,
            digits.dropWhile Char.isDigit)
        else ([], e :: cs)
      | [] => ([], e :: cs) := if_pos he
  rw [hscan]
  cases cs.drop (exponentSign cs).length with
  | nil => rfl
  | cons c digits =>
    show (if c.isDigit = true then _ else _) = Option.getD (if c.isDigit = true then _ else _) _
    split_ifs
    · rfl
    · rfl

theorem exponentSign_cons (c : Char) (cs : List Char) :
    exponentSign (c :: cs) = if c = '+' then ['+'] else if c = '-' then ['-'] else [] := by
  split_ifs with hplus hminus
  · rw [hplus]
    rfl
  · rw [hminus]
    rfl
  · rw [exponentSign]
    · exact fun _ heq => hplus (List.cons.inj heq).1
    · exact fun _ heq => hminus (List.cons.inj heq).1

theorem exponentSign_split (cs : List Char) :
    cs = exponentSign cs ++ cs.drop (exponentSign cs).length := by
  unfold exponentSign
  split
  · rfl
  · rfl
  · rfl

theorem Ends.exponentSign {rest : List Char} (h : Ends rest) (cs : List Char) :
    exponentSign (cs ++ rest) = exponentSign cs ∧
      (cs ++ rest).drop (exponentSign cs).length = cs.drop (exponentSign cs).length ++ rest := by
  cases cs with
  | nil =>
    obtain rfl | ⟨c, tail, rfl, rfl | rfl | rfl⟩ := h
    all_goals exact ⟨rfl, rfl⟩
  | cons c cs =>
    have hsign : JsonRead.exponentSign (c :: cs ++ rest) = JsonRead.exponentSign (c :: cs) := by
      rw [List.cons_append, exponentSign_cons, exponentSign_cons]
    refine ⟨hsign, List.drop_append_of_le_length ?_⟩
    conv_rhs => rw [exponentSign_split (c :: cs)]
    rw [List.length_append]
    exact Nat.le_add_right _ _

theorem scanDigits_append (front cs : List Char) {rest : List Char} (hends : Ends rest) :
    scanDigits front (cs ++ rest) =
      (scanDigits front cs).map fun s => (s.1, s.2 ++ rest) := by
  cases cs with
  | nil =>
    obtain rfl | ⟨c, tail, rfl, rfl | rfl | rfl⟩ := hends
    all_goals rfl
  | cons c digits =>
    obtain ⟨htake, hdrop⟩ := hends.digits digits
    rw [List.cons_append, scanDigits, scanDigits, htake, hdrop]
    split_ifs
    · rfl
    · rfl

theorem scanDigits_split {front cs digits tail : List Char}
    (h : scanDigits front cs = some (digits, tail)) : front ++ cs = digits ++ tail := by
  cases cs with
  | nil => cases h
  | cons c cs =>
    rw [scanDigits] at h
    split_ifs at h
    obtain ⟨rfl, rfl⟩ := Prod.mk.inj (Option.some.inj h)
    rw [List.append_assoc, List.cons_append, List.takeWhile_append_dropWhile]

theorem scanExponent_append (cs : List Char) :
    cs = (scanExponent cs).1 ++ (scanExponent cs).2 ∧
      ∀ rest, Ends rest →
        scanExponent (cs ++ rest) = ((scanExponent cs).1, (scanExponent cs).2 ++ rest) := by
  cases cs with
  | nil =>
    refine ⟨rfl, ?_⟩
    intro rest hends
    obtain rfl | ⟨c, tail, rfl, rfl | rfl | rfl⟩ := hends
    all_goals rfl
  | cons e cs =>
    by_cases he : e = 'e' ∨ e = 'E'
    · refine ⟨?_, ?_⟩
      · rw [scanExponent_eq he]
        cases hscan : scanDigits (e :: exponentSign cs) (cs.drop (exponentSign cs).length) with
        | none => rfl
        | some scanned =>
          obtain ⟨digits, tail⟩ := scanned
          rw [Option.getD_some, ← scanDigits_split hscan, List.cons_append, ← exponentSign_split]
      · intro rest hends
        obtain ⟨hsign, hdrop⟩ := hends.exponentSign cs
        rw [List.cons_append, scanExponent_eq he, scanExponent_eq he, hsign, hdrop,
          scanDigits_append _ _ hends]
        cases scanDigits (e :: exponentSign cs) (cs.drop (exponentSign cs).length) with
        | none => rfl
        | some scanned => rfl
    · have hscan : ∀ tail, scanExponent (e :: tail) = ([], e :: tail) := fun _ => if_neg he
      rw [hscan]
      exact ⟨rfl, fun rest _ => hscan (cs ++ rest)⟩

theorem scanNumber_eq (cs : List Char) : scanNumber cs = (scanInteger cs).map fun s =>
    (⟨s.1, (scanFraction s.2).1 ++ (scanExponent (scanFraction s.2).2).1⟩,
      (scanExponent (scanFraction s.2).2).2) := by
  unfold scanNumber
  cases scanInteger cs with
  | none => rfl
  | some s => rfl

theorem scanNumber_length {cs rest : List Char} {token : NumberToken}
    (h : scanNumber cs = some (token, rest)) : rest.length < cs.length := by
  rw [scanNumber_eq] at h
  obtain ⟨⟨integer, tail⟩, hinteger, heq⟩ := Option.map_eq_some_iff.mp h
  have hlength := scanInteger_length hinteger
  have hfraction := congrArg List.length (scanFraction_append tail).1
  have hexponent := congrArg List.length (scanExponent_append (scanFraction tail).2).1
  rw [List.length_append] at hfraction hexponent
  rw [← (Prod.mk.inj heq).2]
  dsimp only
  omega

/-- A number literal, in a text that it does not end. -/
theorem scanNumber_append {cs : List Char} {token : NumberToken}
    (h : scanNumber cs = some (token, [])) :
    cs = token.integer ++ token.tail ∧ NumberHead cs ∧
      ∀ rest, Ends rest → scanNumber (cs ++ rest) = some (token, rest) := by
  rw [scanNumber_eq] at h
  obtain ⟨⟨integer, tail⟩, hinteger, heq⟩ := Option.map_eq_some_iff.mp h
  obtain ⟨rfl, hnil⟩ := Prod.mk.inj heq
  obtain ⟨hsplit, hhead, hintegerAppend⟩ := scanInteger_append hinteger
  obtain ⟨hfraction, hfractionAppend⟩ := scanFraction_append tail
  obtain ⟨hexponent, hexponentAppend⟩ := scanExponent_append (scanFraction tail).2
  dsimp only at hnil ⊢
  refine ⟨?_, hhead, ?_⟩
  · rw [hnil, List.append_nil] at hexponent
    rw [← hexponent, ← hfraction, ← hsplit]
  · intro rest hends
    rw [scanNumber_eq, hintegerAppend rest hends, Option.map_some, hfractionAppend rest hends,
      hexponentAppend rest hends, hnil, List.nil_append]

/-! ### Integers -/

theorem digitChar_ne_zero : ∀ n < 10, 0 < n → n.digitChar ≠ '0' := by decide

theorem toDigits_head_ne_zero (n : Nat) (hn : 0 < n) :
    ∃ c digits, Nat.toDigits 10 n = c :: digits ∧ c ≠ '0' := by
  induction n using Nat.strongRecOn with
  | ind n ih =>
    by_cases hlt : n < 10
    · refine ⟨n.digitChar, [], Nat.toDigits_of_lt_base hlt, ?_⟩
      exact digitChar_ne_zero n hlt hn
    · obtain ⟨c, digits, heq, hne⟩ := ih (n / 10) (by omega) (by omega)
      rw [Nat.toDigits_of_base_le (by decide) (by omega), heq]
      exact ⟨c, _, rfl, hne⟩

theorem digits_takeWhile {digits : List Char} (h : ∀ c ∈ digits, c.isDigit = true) :
    digits.takeWhile Char.isDigit = digits ∧ digits.dropWhile Char.isDigit = [] :=
  ⟨List.takeWhile_eq_self_iff.mpr h, List.dropWhile_eq_nil_iff.mpr h⟩

theorem scanMagnitude_toDigits (n : Nat) :
    scanMagnitude (Nat.toDigits 10 n) = some (Nat.toDigits 10 n, []) := by
  cases Nat.eq_zero_or_pos n with
  | inl hzero =>
    subst hzero
    rfl
  | inr hpos =>
    obtain ⟨c, digits, heq, hne⟩ := toDigits_head_ne_zero n hpos
    have hdigit : ∀ d ∈ c :: digits, d.isDigit = true := by
      rw [← heq]
      exact fun d hd => Nat.isDigit_of_mem_toDigits (by decide) (by decide) hd
    obtain ⟨htake, hdrop⟩ := digits_takeWhile fun d hd => hdigit d (List.mem_cons_of_mem c hd)
    rw [heq, scanMagnitude_digit hne (hdigit c (List.mem_cons_self ..)), htake, hdrop]

/-- An integer that is written out is scanned back. -/
theorem scanNumber_int (n : Int) :
    scanNumber (toString n).toList = some (⟨(toString n).toList, []⟩, []) := by
  have hinteger : scanInteger (toString n).toList = some ((toString n).toList, []) := by
    rw [Json.int_toList]
    split_ifs
    · obtain ⟨c, digits, heq, hdigit⟩ := Json.toDigits_head n.toNat
      have hne : c ≠ '-' := by
        intro hc
        rw [hc] at hdigit
        cases hdigit
      have hscan := scanMagnitude_toDigits n.toNat
      rw [heq] at hscan ⊢
      rw [scanInteger_of_ne hne, hscan]
    · rw [scanInteger_minus, scanMagnitude_toDigits]
      rfl
  unfold scanNumber
  rw [hinteger]
  rfl

theorem integerValue_int (n : Int) : integerValue (toString n).toList = n := by
  rw [Json.int_toList]
  split_ifs with hn
  · obtain ⟨c, digits, heq, hdigit⟩ := Json.toDigits_head n.toNat
    have hne : c ≠ '-' := by
      intro hc
      rw [hc] at hdigit
      cases hdigit
    have hvalue := Nat.ofDigitChars_ten_toDigits (n := n.toNat)
    rw [heq] at hvalue ⊢
    rw [integerValue, hvalue]
    · omega
    · exact fun _ heq => hne (List.cons.inj heq).1
  · rw [integerValue, Nat.ofDigitChars_ten_toDigits]
    omega

end PlantNexus.Data.JsonRead
