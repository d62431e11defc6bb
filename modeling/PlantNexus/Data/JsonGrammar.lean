import Mathlib
import PlantNexus.Data.JsonScan

/-! The grammar of JSON text.

A text is a list of code units, or of code points. `Spells` says which texts of the RFC 8259
grammar spell a syntax tree; a tree keeps number literals, repeated member names and surrogates
that stand alone. `readTree` reads a text into its tree, and it finds exactly the trees that the
text spells (`readTree_iff`): a scanner takes as much as the grammar lets it, and what stands behind
a value in the grammar never goes on with a number. -/
namespace PlantNexus.Data.JsonGrammar
open JsonRead

/-- The syntax of a JSON value. -/
inductive Tree where
  | null
  | bool (value : Bool)
  | number (token : NumberToken)
  | str (value : List Nat)
  | arr (items : List Tree)
  | obj (members : List (List Nat × Tree))

/-- The code points of a text. -/
def codes (text : List Char) : List Nat := text.map Char.toNat

/-! ### Number literals -/

def IsDigits (cs : List Char) : Prop := ∀ c ∈ cs, c.isDigit = true

/-- `zero / ( digit1-9 *DIGIT )` -/
def IsMagnitude (cs : List Char) : Prop :=
  cs = ['0'] ∨ ∃ c ds, cs = c :: ds ∧ c ≠ '0' ∧ c.isDigit = true ∧ IsDigits ds

/-- `[ minus ] int` -/
def IsInteger (cs : List Char) : Prop := IsMagnitude cs ∨ ∃ m, cs = '-' :: m ∧ IsMagnitude m

/-- `[ decimal-point 1*DIGIT ]` -/
def IsFraction (cs : List Char) : Prop :=
  cs = [] ∨ ∃ c ds, cs = '.' :: c :: ds ∧ c.isDigit = true ∧ IsDigits ds

/-- `[ e [ minus / plus ] 1*DIGIT ]` -/
def IsExponent (cs : List Char) : Prop :=
  cs = [] ∨ ∃ e sign c ds, (e = 'e' ∨ e = 'E') ∧ (sign = [] ∨ sign = ['+'] ∨ sign = ['-']) ∧
    c.isDigit = true ∧ IsDigits ds ∧ cs = e :: (sign ++ c :: ds)

/-- `number` -/
structure IsNumber (token : NumberToken) : Prop where
  integer : IsInteger token.integer
  tail : ∃ fraction exponent, IsFraction fraction ∧ IsExponent exponent ∧
    token.tail = fraction ++ exponent

/-- No digit goes on. -/
def EndsDigits (rest : List Char) : Prop := ∀ c ∈ rest.head?, c.isDigit = false

/-- No part of a number literal goes on. -/
def EndsNumber (rest : List Char) : Prop :=
  ∀ c ∈ rest.head?, c.isDigit = false ∧ c ≠ '.' ∧ c ≠ 'e' ∧ c ≠ 'E'

theorem EndsNumber.endsDigits {rest : List Char} (h : EndsNumber rest) : EndsDigits rest :=
  fun c hc => (h c hc).1

theorem isDigits_takeWhile (cs : List Char) : IsDigits (cs.takeWhile Char.isDigit) :=
  fun _ hc => List.mem_takeWhile_imp hc

/-- A run of digits is taken whole. -/
theorem IsDigits.run {ds rest : List Char} (hds : IsDigits ds) (hrest : EndsDigits rest) :
    (ds ++ rest).takeWhile Char.isDigit = ds ∧ (ds ++ rest).dropWhile Char.isDigit = rest := by
  induction ds with
  | nil =>
    cases rest with
    | nil => exact ⟨rfl, rfl⟩
    | cons c rest =>
      have hc := hrest c rfl
      exact ⟨List.takeWhile_cons_of_neg (by rw [hc]; decide),
        List.dropWhile_cons_of_neg (by rw [hc]; decide)⟩
  | cons d ds ih =>
    obtain ⟨hd, hds⟩ := List.forall_mem_cons.mp hds
    obtain ⟨htake, hdrop⟩ := ih hds
    rw [List.cons_append, List.takeWhile_cons_of_pos hd, List.dropWhile_cons_of_pos hd, htake,
      hdrop]
    exact ⟨rfl, rfl⟩

theorem scanMagnitude_sound {cs magnitude rest : List Char}
    (h : scanMagnitude cs = some (magnitude, rest)) :
    IsMagnitude magnitude ∧ cs = magnitude ++ rest := by
  refine ⟨?_, (scanMagnitude_append h).1⟩
  obtain ⟨rfl, -⟩ | ⟨c, tail, hzero, hdigit, -, rfl, -⟩ := scanMagnitude_cases h
  · exact .inl rfl
  · exact .inr ⟨c, _, rfl, hzero, hdigit, isDigits_takeWhile tail⟩

theorem scanMagnitude_complete {magnitude rest : List Char} (h : IsMagnitude magnitude)
    (hrest : EndsDigits rest) : scanMagnitude (magnitude ++ rest) = some (magnitude, rest) := by
  obtain rfl | ⟨c, ds, rfl, hzero, hdigit, hds⟩ := h
  · rfl
  · obtain ⟨htake, hdrop⟩ := hds.run hrest
    rw [List.cons_append, scanMagnitude_digit hzero hdigit, htake, hdrop]

theorem IsMagnitude.head_ne_minus {magnitude : List Char} (h : IsMagnitude magnitude) :
    ∃ c cs, magnitude = c :: cs ∧ c ≠ '-' ∧ c.isDigit = true := by
  obtain rfl | ⟨c, ds, rfl, -, hdigit, -⟩ := h
  · exact ⟨'0', [], rfl, by decide, rfl⟩
  · refine ⟨c, ds, rfl, ?_, hdigit⟩
    rintro rfl
    exact absurd hdigit (by decide)

theorem scanInteger_sound {cs integer rest : List Char}
    (h : scanInteger cs = some (integer, rest)) : IsInteger integer ∧ cs = integer ++ rest := by
  refine ⟨?_, (scanInteger_append h).1⟩
  cases cs with
  | nil => cases h
  | cons c cs =>
    by_cases hc : c = '-'
    · subst hc
      rw [scanInteger_minus] at h
      obtain ⟨⟨magnitude, tail⟩, hscan, heq⟩ := Option.map_eq_some_iff.mp h
      obtain ⟨rfl, rfl⟩ := Prod.mk.inj heq
      exact .inr ⟨magnitude, rfl, (scanMagnitude_sound hscan).1⟩
    · rw [scanInteger_of_ne hc] at h
      exact .inl (scanMagnitude_sound h).1

theorem scanInteger_complete {integer rest : List Char} (h : IsInteger integer)
    (hrest : EndsDigits rest) : scanInteger (integer ++ rest) = some (integer, rest) := by
  obtain h | ⟨magnitude, rfl, h⟩ := h
  · have hscan := scanMagnitude_complete h hrest
    obtain ⟨c, cs, rfl, hc, -⟩ := h.head_ne_minus
    rw [List.cons_append, scanInteger_of_ne hc, ← List.cons_append, hscan]
  · rw [List.cons_append, scanInteger_minus, scanMagnitude_complete h hrest]
    rfl

theorem scanFraction_sound (cs : List Char) :
    IsFraction (scanFraction cs).1 ∧ cs = (scanFraction cs).1 ++ (scanFraction cs).2 := by
  refine ⟨?_, (scanFraction_append cs).1⟩
  unfold scanFraction
  split
  · split_ifs with hdigit
    · exact .inr ⟨_, _, rfl, hdigit, isDigits_takeWhile _⟩
    · exact .inl rfl
  · exact .inl rfl

theorem scanFraction_complete {fraction rest : List Char} (h : IsFraction fraction)
    (hrest : EndsDigits rest) (hdot : fraction = [] → rest.head? ≠ some '.') :
    scanFraction (fraction ++ rest) = (fraction, rest) := by
  obtain rfl | ⟨c, ds, rfl, hdigit, hds⟩ := h
  · show scanFraction rest = _
    unfold scanFraction
    split
    · exact absurd rfl (hdot rfl)
    · rfl
  · obtain ⟨htake, hdrop⟩ := hds.run hrest
    have hscan : scanFraction ('.' :: c :: (ds ++ rest)) =
        ('.' :: c :: (ds ++ rest).takeWhile Char.isDigit,
          (ds ++ rest).dropWhile Char.isDigit) := if_pos hdigit
    rw [List.cons_append, List.cons_append, hscan, htake, hdrop]

theorem scanExponent_sound (cs : List Char) :
    IsExponent (scanExponent cs).1 ∧ cs = (scanExponent cs).1 ++ (scanExponent cs).2 := by
  refine ⟨?_, (scanExponent_append cs).1⟩
  cases cs with
  | nil => exact .inl rfl
  | cons e cs =>
    by_cases he : e = 'e' ∨ e = 'E'
    · rw [scanExponent_eq he]
      cases hdigits : cs.drop (exponentSign cs).length with
      | nil => exact .inl rfl
      | cons c ds =>
        rw [scanDigits]
        split_ifs with hdigit
        · refine .inr ⟨e, exponentSign cs, c, _, he, ?_, hdigit, isDigits_takeWhile ds, rfl⟩
          unfold exponentSign
          split
          · exact .inr (.inl rfl)
          · exact .inr (.inr rfl)
          · exact .inl rfl
        · exact .inl rfl
    · have hscan : scanExponent (e :: cs) = ([], e :: cs) := if_neg he
      rw [hscan]
      exact .inl rfl

theorem scanExponent_complete {exponent rest : List Char} (h : IsExponent exponent)
    (hrest : EndsNumber rest) : scanExponent (exponent ++ rest) = (exponent, rest) := by
  obtain rfl | ⟨e, sign, c, ds, he, hsign, hdigit, hds, rfl⟩ := h
  · cases rest with
    | nil => rfl
    | cons c rest =>
      obtain ⟨-, -, hlower, hupper⟩ := hrest c rfl
      exact if_neg (not_or.mpr ⟨hlower, hupper⟩)
  · obtain ⟨htake, hdrop⟩ := hds.run hrest.endsDigits
    have hplain : exponentSign (c :: (ds ++ rest)) = [] := by
      rw [exponentSign_cons, if_neg, if_neg]
      · rintro rfl
        exact absurd hdigit (by decide)
      · rintro rfl
        exact absurd hdigit (by decide)
    have hfound : exponentSign (sign ++ c :: (ds ++ rest)) = sign := by
      obtain rfl | rfl | rfl := hsign
      · exact hplain
      · rfl
      · rfl
    rw [List.cons_append, List.append_assoc, List.cons_append, scanExponent_eq he, hfound,
      List.drop_left, scanDigits, if_pos hdigit, htake, hdrop]
    rfl

/-- A number literal that was scanned. -/
theorem scanNumber_sound {cs rest : List Char} {token : NumberToken}
    (h : scanNumber cs = some (token, rest)) :
    IsNumber token ∧ cs = token.integer ++ token.tail ++ rest := by
  unfold scanNumber at h
  obtain ⟨⟨integer, tail⟩, hinteger, heq⟩ := Option.bind_eq_some_iff.mp h
  obtain ⟨htoken, hrest⟩ := Prod.mk.inj (Option.some.inj heq)
  have htoken' : token = ⟨integer, (scanFraction tail).1 ++
      (scanExponent (scanFraction tail).2).1⟩ := htoken.symm
  have hrest' : rest = (scanExponent (scanFraction tail).2).2 := hrest.symm
  obtain ⟨hint, hsplit⟩ := scanInteger_sound hinteger
  obtain ⟨hfraction, hfirst⟩ := scanFraction_sound tail
  obtain ⟨hexponent, hsecond⟩ := scanExponent_sound (scanFraction tail).2
  rw [htoken', hrest']
  refine ⟨⟨hint, _, _, hfraction, hexponent, rfl⟩, ?_⟩
  rw [List.append_assoc, List.append_assoc, ← hsecond, ← hfirst, hsplit]

/-- A number literal is scanned whole. -/
theorem scanNumber_complete {token : NumberToken} {rest : List Char} (h : IsNumber token)
    (hrest : EndsNumber rest) :
    scanNumber (token.integer ++ token.tail ++ rest) = some (token, rest) := by
  obtain ⟨integer, tail⟩ := token
  obtain ⟨hint, fraction, exponent, hfraction, hexponent, rfl⟩ := h
  have hmark : ∀ c ∈ (exponent ++ rest).head?, c.isDigit = false ∧ c ≠ '.' := by
    intro c hc
    obtain rfl | ⟨e, sign, d, ds, he, -, -, -, rfl⟩ := hexponent
    · exact ⟨(hrest c hc).1, (hrest c hc).2.1⟩
    · obtain rfl := Option.some.inj hc
      obtain rfl | rfl := he
      · exact ⟨by decide, by decide⟩
      · exact ⟨by decide, by decide⟩
  have hafter : EndsDigits (fraction ++ (exponent ++ rest)) := by
    obtain rfl | ⟨d, ds, rfl, -, -⟩ := hfraction
    · exact fun c hc => (hmark c hc).1
    · intro c hc
      obtain rfl := Option.some.inj hc
      decide
  show scanNumber (integer ++ (fraction ++ exponent) ++ rest) = _
  rw [List.append_assoc, List.append_assoc]
  unfold scanNumber
  rw [scanInteger_complete hint hafter]
  show some ((NumberToken.mk integer ((scanFraction (fraction ++ (exponent ++ rest))).1 ++
    (scanExponent (scanFraction (fraction ++ (exponent ++ rest))).2).1)),
    (scanExponent (scanFraction (fraction ++ (exponent ++ rest))).2).2) = _
  rw [scanFraction_complete hfraction (fun c hc => (hmark c hc).1)
    (fun _ hdot => (hmark '.' hdot).2 rfl), scanExponent_complete hexponent hrest]

/-! ### Strings -/

/-- The value of a hexadecimal digit. -/
def hexValue (u : Nat) : Option Nat :=
  if 48 ≤ u ∧ u ≤ 57 then some (u - 48)
  else if 97 ≤ u ∧ u ≤ 102 then some (u - 87)
  else if 65 ≤ u ∧ u ≤ 70 then some (u - 55)
  else none

/-- The unit of four hexadecimal digits. -/
def hexUnit (a b c d : Nat) : Option Nat := do
  let a ← hexValue a
  let b ← hexValue b
  let c ← hexValue c
  let d ← hexValue d
  return 4096 * a + 256 * b + 16 * c + d

/-- The letters of the short escapes and what they stand for. -/
def shortEscapes : List (Nat × Nat) :=
  [(34, 34), (92, 92), (47, 47), (98, 8), (102, 12), (110, 10), (114, 13), (116, 9)]

def shortEscape (letter : Nat) : Option Nat :=
  (dictGet Prod.fst shortEscapes letter).map Prod.snd

/-- `*char`, with the units that it stands for. -/
inductive Content : List Nat → List Nat → Prop
  | nil : Content [] []
  | unescaped {u : Nat} {text value : List Nat} (hcontrol : ¬u < 32) (hquote : u ≠ 34)
      (hslash : u ≠ 92) (htail : Content text value) : Content (u :: text) (u :: value)
  | short {letter u : Nat} {text value : List Nat} (hshort : shortEscape letter = some u)
      (htail : Content text value) : Content (92 :: letter :: text) (u :: value)
  | hex {a b c d u : Nat} {text value : List Nat} (hhex : hexUnit a b c d = some u)
      (htail : Content text value) : Content (92 :: 117 :: a :: b :: c :: d :: text) (u :: value)

/-- `string` -/
def SpellsString (value text : List Nat) : Prop :=
  ∃ content, Content content value ∧ text = 34 :: (content ++ [34])

/-- A string after its opening quotation mark, up to the closing one. -/
def readContent : List Nat → Option (List Nat × List Nat)
  | [] => none
  | 34 :: rest => some ([], rest)
  | 92 :: 117 :: a :: b :: c :: d :: rest => do
    let unit ← hexUnit a b c d
    let (value, rest) ← readContent rest
    return (unit :: value, rest)
  | 92 :: letter :: rest => do
    let unit ← shortEscape letter
    let (value, rest) ← readContent rest
    return (unit :: value, rest)
  | u :: rest =>
    if u < 32 ∨ u = 92 then none
    else do
      let (value, rest) ← readContent rest
      return (u :: value, rest)

theorem readContent_sound {cs value rest : List Nat} (h : readContent cs = some (value, rest)) :
    ∃ text, Content text value ∧ cs = text ++ 34 :: rest := by
  induction cs using readContent.induct generalizing value rest with
  | case1 => cases h
  | case2 tail =>
    obtain ⟨rfl, rfl⟩ := Prod.mk.inj (Option.some.inj h)
    exact ⟨[], .nil, rfl⟩
  | case3 a b c d tail ih =>
    obtain ⟨unit, hunit, h⟩ := Option.bind_eq_some_iff.mp h
    obtain ⟨⟨value', rest'⟩, hread, heq⟩ := Option.bind_eq_some_iff.mp h
    obtain ⟨rfl, rfl⟩ := Prod.mk.inj (Option.some.inj heq)
    obtain ⟨text, htext, rfl⟩ := ih hread
    exact ⟨_, .hex hunit htext, rfl⟩
  | case4 letter tail hnot ih =>
    rw [readContent] at h
    · obtain ⟨unit, hunit, h⟩ := Option.bind_eq_some_iff.mp h
      obtain ⟨⟨value', rest'⟩, hread, heq⟩ := Option.bind_eq_some_iff.mp h
      obtain ⟨rfl, rfl⟩ := Prod.mk.inj (Option.some.inj heq)
      obtain ⟨text, htext, rfl⟩ := ih hread
      exact ⟨_, .short hunit htext, rfl⟩
    · exact hnot
  | case5 u tail hquote hhex hshort hbad =>
    rw [readContent, if_pos hbad] at h
    · cases h
    · exact hquote
    · exact hhex
    · exact hshort
  | case6 u tail hquote hhex hshort hgood ih =>
    rw [readContent, if_neg hgood] at h
    · obtain ⟨⟨value', rest'⟩, hread, heq⟩ := Option.bind_eq_some_iff.mp h
      obtain ⟨rfl, rfl⟩ := Prod.mk.inj (Option.some.inj heq)
      obtain ⟨text, htext, rfl⟩ := ih hread
      obtain ⟨hcontrol, hslash⟩ := not_or.mp hgood
      exact ⟨_, .unescaped hcontrol hquote hslash htext, rfl⟩
    · exact hquote
    · exact hhex
    · exact hshort

theorem readContent_complete {text value : List Nat} (h : Content text value) (rest : List Nat) :
    readContent (text ++ 34 :: rest) = some (value, rest) := by
  induction h with
  | nil => rfl
  | unescaped hcontrol hquote hslash htail ih =>
    rw [List.cons_append, readContent, if_neg (not_or.mpr ⟨hcontrol, hslash⟩), ih]
    · rfl
    · exact hquote
    · exact fun _ _ _ _ _ hu => absurd hu hslash
    · exact fun _ _ hu => absurd hu hslash
  | short hshort htail ih =>
    rename_i letter u text value
    rw [List.cons_append, List.cons_append, readContent, hshort, ih]
    · rfl
    · rintro a b c d tail rfl -
      cases hshort
  | hex hhex htail ih =>
    simp only [List.cons_append]
    rw [readContent, hhex, ih]
    rfl

/-! ### Values -/

def isBlank (u : Nat) : Bool := u = 32 || u = 9 || u = 10 || u = 13

/-- `ws` -/
def Blank (text : List Nat) : Prop := ∀ u ∈ text, isBlank u = true

/-- A text with blanks around it. -/
def Padded (spelling : List Nat → Prop) (text : List Nat) : Prop :=
  ∃ front inner back, Blank front ∧ spelling inner ∧ Blank back ∧ text = front ++ (inner ++ back)

mutual

/-- `value` -/
def Spells : Tree → List Nat → Prop
  | .null, text => text = codes "null".toList
  | .bool value, text => text = codes (if value then "true" else "false").toList
  | .number token, text => IsNumber token ∧ text = codes (token.integer ++ token.tail)
  | .str value, text => SpellsString value text
  | .arr [], text => ∃ inner, Blank inner ∧ text = 91 :: (inner ++ [93])
  | .arr (item :: items), text => ∃ first rest, Padded (Spells item) first ∧
      SpellsItems items rest ∧ text = 91 :: (first ++ (rest ++ [93]))
  | .obj [], text => ∃ inner, Blank inner ∧ text = 123 :: (inner ++ [125])
  | .obj ((name, value) :: members), text => ∃ key first rest, Padded (SpellsString name) key ∧
      Padded (Spells value) first ∧ SpellsMembers members rest ∧
      text = 123 :: (key ++ 58 :: (first ++ (rest ++ [125])))

/-- `*( value-separator value )` -/
def SpellsItems : List Tree → List Nat → Prop
  | [], text => text = []
  | item :: items, text => ∃ first rest, Padded (Spells item) first ∧ SpellsItems items rest ∧
      text = 44 :: (first ++ rest)

/-- `*( value-separator member )` -/
def SpellsMembers : List (List Nat × Tree) → List Nat → Prop
  | [], text => text = []
  | (name, value) :: members, text => ∃ key first rest, Padded (SpellsString name) key ∧
      Padded (Spells value) first ∧ SpellsMembers members rest ∧
      text = 44 :: (key ++ 58 :: (first ++ rest))

end

/-! ### Reading -/

def skipBlanks (text : List Nat) : List Nat := text.dropWhile isBlank

/-- A constant or a number. -/
def readAtom (text : List Nat) : Option (Tree × List Nat) :=
  if (codes "true".toList).isPrefixOf text then some (.bool true, text.drop 4)
  else if (codes "false".toList).isPrefixOf text then some (.bool false, text.drop 5)
  else if (codes "null".toList).isPrefixOf text then some (.null, text.drop 4)
  else (scanNumber (text.map Utf16.scalar)).map fun found =>
    (.number found.1, text.drop (found.1.integer ++ found.1.tail).length)

mutual

def readValue : Nat → List Nat → Option (Tree × List Nat)
  | 0, _ => none
  | fuel + 1, text =>
    match skipBlanks text with
    | 34 :: rest => do
      let (value, rest) ← readContent rest
      return (.str value, rest)
    | 91 :: rest =>
      match skipBlanks rest with
      | 93 :: rest => some (.arr [], rest)
      | rest => do
        let (items, rest) ← readItems fuel rest
        return (.arr items, rest)
    | 123 :: rest =>
      match skipBlanks rest with
      | 125 :: rest => some (.obj [], rest)
      | rest => do
        let (members, rest) ← readMembers fuel rest
        return (.obj members, rest)
    | text => readAtom text

def readItems : Nat → List Nat → Option (List Tree × List Nat)
  | 0, _ => none
  | fuel + 1, text => do
    let (item, rest) ← readValue fuel text
    match skipBlanks rest with
    | 44 :: rest => do
      let (items, rest) ← readItems fuel rest
      return (item :: items, rest)
    | 93 :: rest => some ([item], rest)
    | _ => none

def readMembers : Nat → List Nat → Option (List (List Nat × Tree) × List Nat)
  | 0, _ => none
  | fuel + 1, text =>
    match skipBlanks text with
    | 34 :: rest => do
      let (name, rest) ← readContent rest
      match skipBlanks rest with
      | 58 :: rest => do
        let (value, rest) ← readValue fuel rest
        match skipBlanks rest with
        | 44 :: rest => do
          let (members, rest) ← readMembers fuel rest
          return ((name, value) :: members, rest)
        | 125 :: rest => some ([(name, value)], rest)
        | _ => none
      | _ => none
    | _ => none

end

/-- The tree of a text. -/
def readTree (text : List Nat) : Option Tree :=
  match readValue (2 * text.length + 1) text with
  | some (tree, rest) => if skipBlanks rest = [] then some tree else none
  | none => none

/-! ### One step of the reader -/

section
variable {fuel : Nat} {text tail rest : List Nat}

theorem readValue_string (hskip : skipBlanks text = 34 :: tail) :
    readValue (fuel + 1) text = (readContent tail).map fun r => (.str r.1, r.2) := by
  simp only [readValue, hskip]
  cases readContent tail with
  | none => rfl
  | some found => rfl

theorem readValue_emptyArray (hskip : skipBlanks text = 91 :: tail)
    (hclose : skipBlanks tail = 93 :: rest) :
    readValue (fuel + 1) text = some (.arr [], rest) := by
  simp only [readValue, hskip, hclose]

theorem readValue_array (hskip : skipBlanks text = 91 :: tail)
    (hopen : ∀ rest, skipBlanks tail ≠ 93 :: rest) :
    readValue (fuel + 1) text =
      (readItems fuel (skipBlanks tail)).map fun r => (.arr r.1, r.2) := by
  simp only [readValue, hskip]
  cases readItems fuel (skipBlanks tail) with
  | none => rfl
  | some found => rfl

theorem readValue_emptyObject (hskip : skipBlanks text = 123 :: tail)
    (hclose : skipBlanks tail = 125 :: rest) :
    readValue (fuel + 1) text = some (.obj [], rest) := by
  simp only [readValue, hskip, hclose]

theorem readValue_object (hskip : skipBlanks text = 123 :: tail)
    (hopen : ∀ rest, skipBlanks tail ≠ 125 :: rest) :
    readValue (fuel + 1) text =
      (readMembers fuel (skipBlanks tail)).map fun r => (.obj r.1, r.2) := by
  simp only [readValue, hskip]
  cases readMembers fuel (skipBlanks tail) with
  | none => rfl
  | some found => rfl

theorem readValue_atom (hstring : ∀ tail, skipBlanks text ≠ 34 :: tail)
    (harray : ∀ tail, skipBlanks text ≠ 91 :: tail)
    (hobject : ∀ tail, skipBlanks text ≠ 123 :: tail) :
    readValue (fuel + 1) text = readAtom (skipBlanks text) := by
  rw [readValue]
  split
  · rename_i heq
    exact absurd heq (hstring _)
  · rename_i heq
    exact absurd heq (harray _)
  · rename_i heq
    exact absurd heq (hobject _)
  · rfl

/-- One item and what stands behind it. -/
theorem readItems_succ_iff {items : List Tree} :
    readItems (fuel + 1) text = some (items, rest) ↔
      ∃ item more after, items = item :: more ∧ readValue fuel text = some (item, after) ∧
        ((more = [] ∧ skipBlanks after = 93 :: rest) ∨
          ∃ inner, skipBlanks after = 44 :: inner ∧
            readItems fuel inner = some (more, rest)) := by
  rw [readItems]
  constructor
  · intro h
    obtain ⟨⟨item, after⟩, hitem, hnext⟩ := Option.bind_eq_some_iff.mp h
    dsimp only at hnext
    split at hnext
    · rename_i inner hcomma
      obtain ⟨⟨more, last⟩, hmore, heq⟩ := Option.bind_eq_some_iff.mp hnext
      obtain ⟨rfl, rfl⟩ := Prod.mk.inj (Option.some.inj heq)
      exact ⟨item, more, after, rfl, hitem, .inr ⟨inner, hcomma, hmore⟩⟩
    · rename_i last hclose
      obtain ⟨rfl, rfl⟩ := Prod.mk.inj (Option.some.inj hnext)
      exact ⟨item, [], after, rfl, hitem, .inl ⟨rfl, hclose⟩⟩
    · cases hnext
  · rintro ⟨item, more, after, rfl, hitem, ⟨rfl, hclose⟩ | ⟨inner, hcomma, hmore⟩⟩
    · simp [hitem, hclose]
    · simp [hitem, hcomma, hmore]

/-- One member and what stands behind it. -/
theorem readMembers_succ_iff {members : List (List Nat × Tree)} :
    readMembers (fuel + 1) text = some (members, rest) ↔
      ∃ name value more key behind colon after, members = (name, value) :: more ∧
        skipBlanks text = 34 :: key ∧ readContent key = some (name, behind) ∧
        skipBlanks behind = 58 :: colon ∧ readValue fuel colon = some (value, after) ∧
        ((more = [] ∧ skipBlanks after = 125 :: rest) ∨
          ∃ inner, skipBlanks after = 44 :: inner ∧
            readMembers fuel inner = some (more, rest)) := by
  rw [readMembers]
  constructor
  · intro h
    split at h
    · rename_i key hkey
      obtain ⟨⟨name, behind⟩, hname, hnext⟩ := Option.bind_eq_some_iff.mp h
      dsimp only at hnext
      split at hnext
      · rename_i colon hcolon
        obtain ⟨⟨value, after⟩, hvalue, hlast⟩ := Option.bind_eq_some_iff.mp hnext
        dsimp only at hlast
        split at hlast
        · rename_i inner hcomma
          obtain ⟨⟨more, last⟩, hmore, heq⟩ := Option.bind_eq_some_iff.mp hlast
          obtain ⟨rfl, rfl⟩ := Prod.mk.inj (Option.some.inj heq)
          exact ⟨name, value, more, key, behind, colon, after, rfl, hkey, hname, hcolon, hvalue,
            .inr ⟨inner, hcomma, hmore⟩⟩
        · rename_i last hclose
          obtain ⟨rfl, rfl⟩ := Prod.mk.inj (Option.some.inj hlast)
          exact ⟨name, value, [], key, behind, colon, after, rfl, hkey, hname, hcolon, hvalue,
            .inl ⟨rfl, hclose⟩⟩
        · cases hlast
      · cases hnext
    · cases h
  · rintro ⟨name, value, more, key, behind, colon, after, rfl, hkey, hname, hcolon, hvalue,
      ⟨rfl, hclose⟩ | ⟨inner, hcomma, hmore⟩⟩
    · simp [hkey, hname, hcolon, hvalue, hclose]
    · simp [hkey, hname, hcolon, hvalue, hcomma, hmore]

end

/-! ### What is read is spelled -/

theorem skipBlanks_split (text : List Nat) :
    ∃ front, Blank front ∧ text = front ++ skipBlanks text :=
  ⟨text.takeWhile isBlank, fun _ hu => List.mem_takeWhile_imp hu,
    (List.takeWhile_append_dropWhile ..).symm⟩

/-- A character that is no replacement comes from its own code. -/
theorem scalar_eq_iff {u : Nat} {c : Char} (hc : c ≠ '\ufffd') (h : Utf16.scalar u = c) :
    u = c.toNat := by
  unfold Utf16.scalar at h
  split_ifs at h with hvalid
  · rw [← h]
    rfl
  · exact absurd h.symm hc

/-- An ASCII text that stands at the front of the characters stands at the front of the codes. -/
theorem codes_of_map_scalar {text : List Nat} {front rest : List Char}
    (hfront : ∀ c ∈ front, c ≠ '\ufffd') (h : text.map Utf16.scalar = front ++ rest) :
    text = codes front ++ text.drop front.length := by
  induction front generalizing text with
  | nil => rfl
  | cons c front ih =>
    cases text with
    | nil => cases h
    | cons u text =>
      obtain ⟨hu, htext⟩ := List.cons.inj h
      obtain ⟨hc, hfront⟩ := List.forall_mem_cons.mp hfront
      rw [List.length_cons, List.drop_succ_cons, codes, List.map_cons, List.cons_append,
        ← scalar_eq_iff hc hu]
      exact congrArg _ (ih hfront htext)

theorem IsDigits.ne_replacement {ds : List Char} (h : IsDigits ds) : ∀ c ∈ ds, c ≠ '\ufffd' := by
  rintro c hc rfl
  exact absurd (h _ hc) (by decide)

/-- A number literal is ASCII text. -/
theorem IsNumber.ne_replacement {token : NumberToken} (h : IsNumber token) :
    ∀ c ∈ token.integer ++ token.tail, c ≠ '\ufffd' := by
  have hdigit : ∀ {c : Char}, c.isDigit = true → c ≠ '\ufffd' := by
    rintro c hc rfl
    exact absurd hc (by decide)
  have hmagnitude : ∀ cs, IsMagnitude cs → ∀ c ∈ cs, c ≠ '\ufffd' := by
    rintro cs (rfl | ⟨d, ds, rfl, -, hd, hds⟩)
    · exact List.forall_mem_singleton.mpr (by decide)
    · exact List.forall_mem_cons.mpr ⟨hdigit hd, hds.ne_replacement⟩
  obtain ⟨fraction, exponent, hfraction, hexponent, htail⟩ := h.tail
  rw [htail]
  refine List.forall_mem_append.mpr ⟨?_, List.forall_mem_append.mpr ⟨?_, ?_⟩⟩
  · obtain hint | ⟨magnitude, heq, hint⟩ := h.integer
    · exact hmagnitude _ hint
    · rw [heq]
      exact List.forall_mem_cons.mpr ⟨by decide, hmagnitude _ hint⟩
  · obtain rfl | ⟨d, ds, rfl, hd, hds⟩ := hfraction
    · exact List.forall_mem_nil _
    · exact List.forall_mem_cons.mpr ⟨by decide,
        List.forall_mem_cons.mpr ⟨hdigit hd, hds.ne_replacement⟩⟩
  · obtain rfl | ⟨e, sign, d, ds, he, hsign, hd, hds, rfl⟩ := hexponent
    · exact List.forall_mem_nil _
    · refine List.forall_mem_cons.mpr ⟨?_, List.forall_mem_append.mpr ⟨?_,
        List.forall_mem_cons.mpr ⟨hdigit hd, hds.ne_replacement⟩⟩⟩
      · obtain rfl | rfl := he
        · decide
        · decide
      · obtain rfl | rfl | rfl := hsign
        · exact List.forall_mem_nil _
        · exact List.forall_mem_singleton.mpr (by decide)
        · exact List.forall_mem_singleton.mpr (by decide)

theorem readAtom_sound {text rest : List Nat} {tree : Tree}
    (h : readAtom text = some (tree, rest)) : ∃ front, Spells tree front ∧ text = front ++ rest := by
  unfold readAtom at h
  split_ifs at h with htrue hfalse hnull
  · obtain ⟨tail, rfl⟩ := List.isPrefixOf_iff_prefix.mp htrue
    obtain ⟨rfl, rfl⟩ := Prod.mk.inj (Option.some.inj h)
    exact ⟨_, rfl, rfl⟩
  · obtain ⟨tail, rfl⟩ := List.isPrefixOf_iff_prefix.mp hfalse
    obtain ⟨rfl, rfl⟩ := Prod.mk.inj (Option.some.inj h)
    exact ⟨_, rfl, rfl⟩
  · obtain ⟨tail, rfl⟩ := List.isPrefixOf_iff_prefix.mp hnull
    obtain ⟨rfl, rfl⟩ := Prod.mk.inj (Option.some.inj h)
    exact ⟨_, rfl, rfl⟩
  · obtain ⟨⟨token, tail⟩, hscan, heq⟩ := Option.map_eq_some_iff.mp h
    obtain ⟨rfl, rfl⟩ := Prod.mk.inj heq
    obtain ⟨hnumber, hsplit⟩ := scanNumber_sound hscan
    exact ⟨_, ⟨hnumber, rfl⟩, codes_of_map_scalar hnumber.ne_replacement hsplit⟩

/-- Blanks in front of blanks. -/
theorem Padded.blanks {spelling : List Nat → Prop} {blanks text : List Nat}
    (h : Padded spelling text) (hblanks : Blank blanks) : Padded spelling (blanks ++ text) := by
  obtain ⟨front, inner, back, hfront, hinner, hback, rfl⟩ := h
  exact ⟨blanks ++ front, inner, back, List.forall_mem_append.mpr ⟨hblanks, hfront⟩, hinner, hback,
    (List.append_assoc ..).symm⟩

/-- A value after blanks, and what stands behind it. -/
def ValueIn (text : List Nat) (tree : Tree) (rest : List Nat) : Prop :=
  ∃ front inner, Blank front ∧ Spells tree inner ∧ text = front ++ (inner ++ rest)

/-- The items of an array up to its closing bracket. -/
def ItemsIn (text : List Nat) (items : List Tree) (rest : List Nat) : Prop :=
  ∃ item more first following, items = item :: more ∧ Padded (Spells item) first ∧
    SpellsItems more following ∧ text = first ++ (following ++ 93 :: rest)

/-- The members of an object up to its closing brace. -/
def MembersIn (text : List Nat) (members : List (List Nat × Tree)) (rest : List Nat) : Prop :=
  ∃ name value more key first following, members = (name, value) :: more ∧
    Padded (SpellsString name) key ∧ Padded (Spells value) first ∧
    SpellsMembers more following ∧ text = key ++ 58 :: (first ++ (following ++ 125 :: rest))

theorem readContent_string {text rest value : List Nat}
    (h : readContent text = some (value, rest)) :
    ∃ inner, SpellsString value inner ∧ 34 :: text = inner ++ rest := by
  obtain ⟨content, hcontent, rfl⟩ := readContent_sound h
  refine ⟨_, ⟨content, hcontent, rfl⟩, ?_⟩
  rw [List.cons_append, List.append_assoc]
  rfl

/-- What is read with some fuel is there. -/
structure ReadSound (fuel : Nat) : Prop where
  value : ∀ text tree rest, readValue fuel text = some (tree, rest) → ValueIn text tree rest
  items : ∀ text items rest, readItems fuel text = some (items, rest) → ItemsIn text items rest
  members : ∀ text members rest, readMembers fuel text = some (members, rest) →
    MembersIn text members rest

theorem readValue_sound {fuel : Nat} (ih : ReadSound fuel) {text rest : List Nat} {tree : Tree}
    (h : readValue (fuel + 1) text = some (tree, rest)) : ValueIn text tree rest := by
  obtain ⟨front, hfront, htext⟩ := skipBlanks_split text
  suffices ∃ inner, Spells tree inner ∧ skipBlanks text = inner ++ rest by
    obtain ⟨inner, hinner, hskip⟩ := this
    exact ⟨front, inner, hfront, hinner, by rw [← hskip]; exact htext⟩
  by_cases hstring : ∃ tail, skipBlanks text = 34 :: tail
  · obtain ⟨tail, hskip⟩ := hstring
    rw [readValue_string hskip] at h
    obtain ⟨⟨value, after⟩, hread, heq⟩ := Option.map_eq_some_iff.mp h
    obtain ⟨rfl, rfl⟩ := Prod.mk.inj heq
    rw [hskip]
    exact readContent_string hread
  by_cases harray : ∃ tail, skipBlanks text = 91 :: tail
  · obtain ⟨tail, hskip⟩ := harray
    obtain ⟨blanks, hblanks, htail⟩ := skipBlanks_split tail
    by_cases hempty : ∃ after, skipBlanks tail = 93 :: after
    · obtain ⟨after, hclose⟩ := hempty
      rw [readValue_emptyArray hskip hclose] at h
      obtain ⟨rfl, rfl⟩ := Prod.mk.inj (Option.some.inj h)
      refine ⟨_, ⟨blanks, hblanks, rfl⟩, ?_⟩
      rw [hskip, htail, hclose, List.cons_append, List.append_assoc]
      rfl
    · rw [readValue_array hskip (not_exists.mp hempty)] at h
      obtain ⟨⟨items, after⟩, hread, heq⟩ := Option.map_eq_some_iff.mp h
      obtain ⟨rfl, rfl⟩ := Prod.mk.inj heq
      obtain ⟨item, more, first, following, rfl, hfirst, hmore, hsplit⟩ := ih.items _ _ _ hread
      refine ⟨_, ⟨blanks ++ first, following, hfirst.blanks hblanks, hmore, rfl⟩, ?_⟩
      rw [hskip, htail, hsplit]
      simp only [List.cons_append, List.append_assoc, List.nil_append]
  by_cases hobject : ∃ tail, skipBlanks text = 123 :: tail
  · obtain ⟨tail, hskip⟩ := hobject
    obtain ⟨blanks, hblanks, htail⟩ := skipBlanks_split tail
    by_cases hempty : ∃ after, skipBlanks tail = 125 :: after
    · obtain ⟨after, hclose⟩ := hempty
      rw [readValue_emptyObject hskip hclose] at h
      obtain ⟨rfl, rfl⟩ := Prod.mk.inj (Option.some.inj h)
      refine ⟨_, ⟨blanks, hblanks, rfl⟩, ?_⟩
      rw [hskip, htail, hclose, List.cons_append, List.append_assoc]
      rfl
    · rw [readValue_object hskip (not_exists.mp hempty)] at h
      obtain ⟨⟨members, after⟩, hread, heq⟩ := Option.map_eq_some_iff.mp h
      obtain ⟨rfl, rfl⟩ := Prod.mk.inj heq
      obtain ⟨name, value, more, key, first, following, rfl, hkey, hfirst, hmore, hsplit⟩ :=
        ih.members _ _ _ hread
      refine ⟨_, ⟨blanks ++ key, first, following, hkey.blanks hblanks, hfirst, hmore, rfl⟩, ?_⟩
      rw [hskip, htail, hsplit]
      simp only [List.cons_append, List.append_assoc, List.nil_append]
  rw [readValue_atom (not_exists.mp hstring) (not_exists.mp harray) (not_exists.mp hobject)] at h
  exact readAtom_sound h

theorem readItems_sound {fuel : Nat} (ih : ReadSound fuel) {text rest : List Nat}
    {items : List Tree} (h : readItems (fuel + 1) text = some (items, rest)) :
    ItemsIn text items rest := by
  obtain ⟨item, more, after, rfl, hitem, hnext⟩ := readItems_succ_iff.mp h
  obtain ⟨front, inner, hfront, hinner, htext⟩ := ih.value _ _ _ hitem
  obtain ⟨back, hback, hafter⟩ := skipBlanks_split after
  have hpadded : Padded (Spells item) (front ++ (inner ++ back)) :=
    ⟨front, inner, back, hfront, hinner, hback, rfl⟩
  obtain ⟨rfl, hclose⟩ | ⟨inside, hcomma, hmore⟩ := hnext
  · refine ⟨item, [], _, [], rfl, hpadded, rfl, ?_⟩
    rw [htext, hafter, hclose]
    simp only [List.append_assoc, List.nil_append]
  · obtain ⟨second, others, first, following, rfl, hfirst, hothers, htail⟩ := ih.items _ _ _ hmore
    refine ⟨item, second :: others, _, 44 :: (first ++ following), rfl, hpadded,
      ⟨first, following, hfirst, hothers, rfl⟩, ?_⟩
    rw [htext, hafter, hcomma, htail]
    simp only [List.cons_append, List.append_assoc]

theorem readMembers_sound {fuel : Nat} (ih : ReadSound fuel) {text rest : List Nat}
    {members : List (List Nat × Tree)} (h : readMembers (fuel + 1) text = some (members, rest)) :
    MembersIn text members rest := by
  obtain ⟨name, value, more, inside, behind, colon, after, rfl, hskip, hname, hcolon, hvalue,
    hnext⟩ := readMembers_succ_iff.mp h
  obtain ⟨front, hfront, htext⟩ := skipBlanks_split text
  obtain ⟨keyText, hkeyText, hkeySplit⟩ := readContent_string hname
  obtain ⟨gap, hgap, hbehind⟩ := skipBlanks_split behind
  have hkey : Padded (SpellsString name) (front ++ (keyText ++ gap)) :=
    ⟨front, keyText, gap, hfront, hkeyText, hgap, rfl⟩
  obtain ⟨pre, inner, hpre, hinner, hcolonText⟩ := ih.value _ _ _ hvalue
  obtain ⟨back, hback, hafter⟩ := skipBlanks_split after
  have hpadded : Padded (Spells value) (pre ++ (inner ++ back)) :=
    ⟨pre, inner, back, hpre, hinner, hback, rfl⟩
  obtain ⟨rfl, hclose⟩ | ⟨inside, hcomma, hmore⟩ := hnext
  · refine ⟨name, value, [], _, _, [], rfl, hkey, hpadded, rfl, ?_⟩
    rw [htext, hskip, hkeySplit, hbehind, hcolon, hcolonText, hafter, hclose]
    simp only [List.append_assoc, List.nil_append]
  · obtain ⟨name', value', others, key', first, following, rfl, hkey', hfirst, hothers,
      hcommaText⟩ := ih.members _ _ _ hmore
    refine ⟨name, value, (name', value') :: others, _, _,
      44 :: (key' ++ 58 :: (first ++ following)), rfl, hkey, hpadded,
      ⟨key', first, following, hkey', hfirst, hothers, rfl⟩, ?_⟩
    rw [htext, hskip, hkeySplit, hbehind, hcolon, hcolonText, hafter, hcomma, hcommaText]
    simp only [List.cons_append, List.append_assoc]

theorem read_sound (fuel : Nat) : ReadSound fuel := by
  induction fuel with
  | zero =>
    refine ⟨?_, ?_, ?_⟩
    all_goals
      intro text found rest h
      cases h
  | succ fuel ih =>
    exact ⟨fun _ _ _ h => readValue_sound ih h, fun _ _ _ h => readItems_sound ih h,
      fun _ _ _ h => readMembers_sound ih h⟩

/-! ### What is spelled is read -/

/-- A number literal in front of the text ends there. -/
def Stops (rest : List Nat) : Prop := EndsNumber (rest.map Utf16.scalar)

theorem stops_nil : Stops [] := fun _ hc => by cases hc

theorem stops_cons {u : Nat} (hu : u ∈ [44, 93, 125, 32, 9, 10, 13]) (rest : List Nat) :
    Stops (u :: rest) := by
  intro c hc
  obtain rfl : Utf16.scalar u = c := Option.some.inj hc
  have hall : ∀ u ∈ [44, 93, 125, 32, 9, 10, 13], (Utf16.scalar u).isDigit = false ∧
      Utf16.scalar u ≠ '.' ∧ Utf16.scalar u ≠ 'e' ∧ Utf16.scalar u ≠ 'E' := by decide
  exact hall u hu

theorem isBlank_iff {u : Nat} : isBlank u = true ↔ u ∈ [32, 9, 10, 13] := by
  simp [isBlank, or_assoc]

theorem Blank.stops {back rest : List Nat} (hback : Blank back) (hrest : Stops rest) :
    Stops (back ++ rest) := by
  cases back with
  | nil => exact hrest
  | cons u back =>
    have hu := isBlank_iff.mp (hback u List.mem_cons_self)
    exact stops_cons (List.mem_append_right [44, 93, 125] hu) _

theorem Blank.skip {front rest : List Nat} (hfront : Blank front)
    (hrest : ∀ u ∈ rest.head?, isBlank u = false) : skipBlanks (front ++ rest) = rest := by
  induction front with
  | nil =>
    cases rest with
    | nil => rfl
    | cons u rest => exact List.dropWhile_cons_of_neg (by rw [hrest u rfl]; decide)
  | cons u front ih =>
    obtain ⟨hu, hfront⟩ := List.forall_mem_cons.mp hfront
    rw [skipBlanks, List.cons_append, List.dropWhile_cons_of_pos hu]
    exact ih hfront

theorem Blank.skip_cons {front : List Nat} (hfront : Blank front) {u : Nat}
    (hu : isBlank u = false) (rest : List Nat) : skipBlanks (front ++ u :: rest) = u :: rest :=
  hfront.skip fun v hv => by rw [← Option.some.inj hv]; exact hu

theorem readContent_spelled {value text : List Nat} (h : SpellsString value text) :
    ∃ tail, text = 34 :: tail ∧ ∀ rest, readContent (tail ++ rest) = some (value, rest) := by
  obtain ⟨content, hcontent, rfl⟩ := h
  refine ⟨content ++ [34], rfl, ?_⟩
  intro rest
  rw [List.append_assoc]
  exact readContent_complete hcontent rest

theorem map_scalar_codes (text : List Char) : (codes text).map Utf16.scalar = text := by
  rw [codes, List.map_map]
  exact (List.map_congr_left fun c _ => Utf16.scalar_toNat c).trans (List.map_id text)

/-- A number literal starts with a minus or a digit. -/
theorem IsNumber.head {token : NumberToken} (h : IsNumber token) :
    ∃ c cs, token.integer ++ token.tail = c :: cs ∧ (c = '-' ∨ c.isDigit = true) := by
  obtain hint | ⟨magnitude, heq, -⟩ := h.integer
  · obtain ⟨c, cs, heq, -, hdigit⟩ := hint.head_ne_minus
    exact ⟨c, cs ++ token.tail, by rw [heq]; rfl, .inr hdigit⟩
  · exact ⟨'-', magnitude ++ token.tail, by rw [heq]; rfl, .inl rfl⟩

/-- The code of a number's first character is that of no other value. -/
theorem numberHead_code {c : Char} (h : c = '-' ∨ c.isDigit = true) :
    45 ≤ c.toNat ∧ c.toNat ≤ 57 := by
  obtain rfl | hdigit := h
  · decide
  · obtain ⟨hlow, hhigh⟩ := Char.isDigit_iff_toNat.mp hdigit
    have hzero : '0'.toNat = 48 := by decide
    have hnine : '9'.toNat = 57 := by decide
    omega

theorem readAtom_number {token : NumberToken} (h : IsNumber token) {rest : List Nat}
    (hrest : Stops rest) : readAtom (codes (token.integer ++ token.tail) ++ rest) =
      some (.number token, rest) := by
  have hscan : scanNumber ((codes (token.integer ++ token.tail) ++ rest).map Utf16.scalar) =
      some (token, rest.map Utf16.scalar) := by
    rw [List.map_append, map_scalar_codes]
    exact scanNumber_complete h hrest
  obtain ⟨c, cs, hhead, hc⟩ := h.head
  obtain ⟨hlow, hhigh⟩ := numberHead_code hc
  have hliteral : ∀ (name : List Char) (first : Nat) (tail : List Nat),
      codes name = first :: tail → 57 < first →
        ¬(codes name).isPrefixOf (codes (token.integer ++ token.tail) ++ rest) = true := by
    intro name first tail hname hfirst hfront
    obtain ⟨after, heq⟩ := List.isPrefixOf_iff_prefix.mp hfront
    rw [hhead, hname] at heq
    have hsame : first = c.toNat := (List.cons.inj heq).1
    omega
  have hdrop : (codes (token.integer ++ token.tail) ++ rest).drop
      (token.integer ++ token.tail).length = rest := by
    rw [← @List.length_map _ _ (token.integer ++ token.tail) Char.toNat]
    exact List.drop_left
  rw [readAtom, if_neg (hliteral _ 116 _ rfl (by decide)),
    if_neg (hliteral _ 102 _ rfl (by decide)), if_neg (hliteral _ 110 _ rfl (by decide)), hscan,
    Option.map_some, hdrop]

/-- The first unit of a value, which is no blank and closes nothing. -/
theorem Spells.head {tree : Tree} {text : List Nat} (h : Spells tree text) :
    ∃ u tail, text = u :: tail ∧ isBlank u = false ∧ u ≠ 93 ∧ u ≠ 125 := by
  cases tree with
  | null =>
    rw [Spells] at h
    exact ⟨110, _, h, rfl, by decide, by decide⟩
  | bool value =>
    rw [Spells] at h
    cases value with
    | true => exact ⟨116, _, h, rfl, by decide, by decide⟩
    | false => exact ⟨102, _, h, rfl, by decide, by decide⟩
  | number token =>
    obtain ⟨hnumber, rfl⟩ := h
    obtain ⟨c, cs, hhead, hc⟩ := hnumber.head
    obtain ⟨hlow, hhigh⟩ := numberHead_code hc
    refine ⟨c.toNat, codes cs, by rw [hhead]; rfl, ?_, by omega, by omega⟩
    rw [← Bool.not_eq_true, isBlank_iff]
    intro hmem
    simp only [List.mem_cons, List.not_mem_nil, or_false] at hmem
    omega
  | str value =>
    obtain ⟨content, -, rfl⟩ := h
    exact ⟨34, _, rfl, rfl, by decide, by decide⟩
  | arr items =>
    cases items with
    | nil =>
      obtain ⟨inner, -, rfl⟩ := h
      exact ⟨91, _, rfl, rfl, by decide, by decide⟩
    | cons item items =>
      obtain ⟨first, rest, -, -, rfl⟩ := h
      exact ⟨91, _, rfl, rfl, by decide, by decide⟩
  | obj members =>
    cases members with
    | nil =>
      obtain ⟨inner, -, rfl⟩ := h
      exact ⟨123, _, rfl, rfl, by decide, by decide⟩
    | cons member members =>
      obtain ⟨name, value⟩ := member
      obtain ⟨key, first, rest, -, -, -, rfl⟩ := h
      exact ⟨123, _, rfl, rfl, by decide, by decide⟩

theorem skip_head {front tail : List Nat} {u : Nat} (hfront : Blank front)
    (hu : isBlank u = false) (rest : List Nat) :
    skipBlanks (front ++ ((u :: tail) ++ rest)) = u :: (tail ++ rest) :=
  hfront.skip_cons hu _

/-- A constant or a number behind blanks. -/
theorem readValue_atomHead {fuel : Nat} {text rest : List Nat} {tree : Tree} {u : Nat}
    {tail : List Nat} (hskip : skipBlanks text = u :: tail) (hu : u ∉ [34, 91, 123])
    (h : readAtom (u :: tail) = some (tree, rest)) :
    readValue (fuel + 1) text = some (tree, rest) := by
  have hne : ∀ v ∈ [34, 91, 123], ∀ tail', skipBlanks text ≠ v :: tail' := by
    intro v hv tail' heq
    rw [hskip] at heq
    exact hu ((List.cons.inj heq).1 ▸ hv)
  rw [readValue_atom (hne 34 (by decide)) (hne 91 (by decide)) (hne 123 (by decide)), hskip, h]

/-- Behind a value stands the end or a separator. -/
theorem SpellsItems.head {items : List Tree} {text : List Nat} (h : SpellsItems items text) :
    (items = [] ∧ text = []) ∨ ∃ item more inner, items = item :: more ∧ text = 44 :: inner := by
  cases items with
  | nil => exact .inl ⟨rfl, h⟩
  | cons item more =>
    obtain ⟨first, rest, -, -, rfl⟩ := h
    exact .inr ⟨item, more, _, rfl, rfl⟩

theorem SpellsMembers.head {members : List (List Nat × Tree)} {text : List Nat}
    (h : SpellsMembers members text) :
    (members = [] ∧ text = []) ∨
      ∃ member more inner, members = member :: more ∧ text = 44 :: inner := by
  cases members with
  | nil => exact .inl ⟨rfl, h⟩
  | cons member more =>
    obtain ⟨name, value⟩ := member
    obtain ⟨key, first, rest, -, -, -, rfl⟩ := h
    exact .inr ⟨(name, value), more, _, rfl, rfl⟩

mutual

theorem readValue_complete : ∀ (tree : Tree) (text : List Nat), Spells tree text →
    ∀ (front rest : List Nat) (fuel : Nat), Blank front → Stops rest → 2 * text.length ≤ fuel →
      readValue fuel (front ++ (text ++ rest)) = some (tree, rest)
  | tree, text, h, front, rest, 0, _, _, hfuel => by
    obtain ⟨u, tail, rfl, -⟩ := h.head
    rw [List.length_cons] at hfuel
    omega
  | .null, _, h, front, rest, fuel + 1, hfront, _, _ => by
    rw [Spells] at h
    subst h
    exact readValue_atomHead (skip_head hfront rfl rest) (by decide) rfl
  | .bool true, _, h, front, rest, fuel + 1, hfront, _, _ => by
    rw [Spells] at h
    subst h
    exact readValue_atomHead (skip_head hfront rfl rest) (by decide) rfl
  | .bool false, _, h, front, rest, fuel + 1, hfront, _, _ => by
    rw [Spells] at h
    subst h
    exact readValue_atomHead (skip_head hfront rfl rest) (by decide) rfl
  | .number token, text, h, front, rest, fuel + 1, hfront, hrest, _ => by
    obtain ⟨hnumber, rfl⟩ := h
    obtain ⟨c, cs, hhead, hc⟩ := hnumber.head
    obtain ⟨hlow, hhigh⟩ := numberHead_code hc
    have hcodes : codes (token.integer ++ token.tail) = c.toNat :: codes cs := by
      rw [hhead]
      rfl
    have hread := readAtom_number hnumber hrest
    rw [hcodes] at hread ⊢
    have hblank : isBlank c.toNat = false := by
      rw [← Bool.not_eq_true, isBlank_iff]
      intro hmem
      simp only [List.mem_cons, List.not_mem_nil, or_false] at hmem
      omega
    refine readValue_atomHead (skip_head hfront hblank rest) ?_ hread
    simp only [List.mem_cons, List.not_mem_nil, or_false]
    omega
  | .str value, text, h, front, rest, fuel + 1, hfront, _, _ => by
    obtain ⟨tail, rfl, hread⟩ := readContent_spelled h
    rw [readValue_string (skip_head hfront rfl rest), hread]
    rfl
  | .arr [], text, h, front, rest, fuel + 1, hfront, _, _ => by
    obtain ⟨inner, hinner, rfl⟩ := h
    refine readValue_emptyArray (skip_head hfront rfl rest) ?_
    rw [List.append_assoc, List.singleton_append, hinner.skip_cons rfl]
  | .arr (item :: items), text, h, front, rest, fuel + 1, hfront, _, hfuel => by
    obtain ⟨first, following, hfirst, hmore, rfl⟩ := h
    obtain ⟨pre, inner, post, hpre, hinner, hpost, rfl⟩ := hfirst
    obtain ⟨u, tail, rfl, hu, hclose, -⟩ := hinner.head
    have hskip : skipBlanks (pre ++ (u :: tail ++ post) ++ (following ++ [93]) ++ rest) =
        u :: (tail ++ (post ++ (following ++ 93 :: rest))) := by
      simp only [List.append_assoc, List.cons_append, List.nil_append]
      exact hpre.skip_cons hu _
    have hspelled : SpellsItems (item :: items) (44 :: ((u :: tail ++ post) ++ following)) :=
      ⟨u :: tail ++ post, following, ⟨[], u :: tail, post, List.forall_mem_nil _, hinner, hpost,
        rfl⟩, hmore, rfl⟩
    have hread := readItems_complete (item :: items) _ hspelled rest fuel (by
      simp only [List.length_append, List.length_cons, List.length_nil] at hfuel ⊢
      omega)
    rw [readValue_array (skip_head hfront rfl rest), hskip]
    · rw [show u :: (tail ++ (post ++ (following ++ 93 :: rest))) =
        u :: tail ++ post ++ following ++ 93 :: rest by simp, hread]
      rfl
    · intro after hafter
      rw [hskip] at hafter
      exact hclose (List.cons.inj hafter).1
  | .obj [], text, h, front, rest, fuel + 1, hfront, _, _ => by
    obtain ⟨inner, hinner, rfl⟩ := h
    refine readValue_emptyObject (skip_head hfront rfl rest) ?_
    rw [List.append_assoc, List.singleton_append, hinner.skip_cons rfl]
  | .obj ((name, value) :: members), text, h, front, rest, fuel + 1, hfront, _, hfuel => by
    obtain ⟨key, first, following, hkey, hfirst, hmore, rfl⟩ := h
    obtain ⟨pre, inner, post, hpre, hinner, hpost, rfl⟩ := hkey
    obtain ⟨content, hcontent, rfl⟩ := hinner
    have hskip : skipBlanks ((pre ++ (34 :: (content ++ [34]) ++ post)) ++
        58 :: (first ++ (following ++ [125])) ++ rest) =
        34 :: (content ++ 34 :: (post ++ 58 :: (first ++ (following ++ 125 :: rest)))) := by
      simp only [List.append_assoc, List.cons_append, List.nil_append]
      exact hpre.skip_cons rfl _
    have hspelled : SpellsMembers ((name, value) :: members)
        (44 :: ((34 :: (content ++ [34]) ++ post) ++ 58 :: (first ++ following))) :=
      ⟨34 :: (content ++ [34]) ++ post, first, following, ⟨[], 34 :: (content ++ [34]), post,
        List.forall_mem_nil _, ⟨content, hcontent, rfl⟩, hpost, rfl⟩, hfirst, hmore, rfl⟩
    have hread := readMembers_complete ((name, value) :: members) _ hspelled rest fuel (by
      simp only [List.length_append, List.length_cons, List.length_nil] at hfuel ⊢
      omega)
    rw [readValue_object (skip_head hfront rfl rest), hskip]
    · rw [show 34 :: (content ++ 34 :: (post ++ 58 :: (first ++ (following ++ 125 :: rest)))) =
        34 :: (content ++ [34]) ++ post ++ 58 :: (first ++ following) ++ 125 :: rest by simp, hread]
      rfl
    · intro after hafter
      rw [hskip] at hafter
      exact absurd (List.cons.inj hafter).1 (by decide)

theorem readItems_complete : ∀ (items : List Tree) (inner : List Nat),
    SpellsItems items (44 :: inner) → ∀ (rest : List Nat) (fuel : Nat),
      2 * inner.length + 1 ≤ fuel → readItems fuel (inner ++ 93 :: rest) = some (items, rest)
  | [], _, h, _, _, _ => by cases h
  | _ :: _, _, _, _, 0, hfuel => by omega
  | item :: items, inner, h, rest, fuel + 1, hfuel => by
    obtain ⟨first, following, hfirst, hmore, heq⟩ := h
    obtain rfl := (List.cons.inj heq).2
    obtain ⟨pre, text, post, hpre, htext, hpost, rfl⟩ := hfirst
    simp only [List.length_append] at hfuel
    obtain ⟨rfl, rfl⟩ | ⟨next, more, inner, rfl, rfl⟩ := hmore.head
    · have hread := readValue_complete item text htext pre (post ++ 93 :: rest) fuel hpre
        (hpost.stops (stops_cons (by decide) _)) (by omega)
      refine readItems_succ_iff.mpr ⟨item, [], _, rfl, ?_, .inl ⟨rfl, hpost.skip_cons rfl rest⟩⟩
      simpa only [List.append_assoc, List.nil_append] using hread
    · have hread := readValue_complete item text htext pre
        (post ++ 44 :: (inner ++ 93 :: rest)) fuel hpre
        (hpost.stops (stops_cons (by decide) _)) (by omega)
      have hnext := readItems_complete (next :: more) inner hmore rest fuel
        (by rw [List.length_cons] at hfuel; omega)
      refine readItems_succ_iff.mpr
        ⟨item, next :: more, _, rfl, ?_, .inr ⟨_, hpost.skip_cons rfl _, hnext⟩⟩
      simpa only [List.append_assoc, List.cons_append] using hread

theorem readMembers_complete : ∀ (members : List (List Nat × Tree)) (inner : List Nat),
    SpellsMembers members (44 :: inner) → ∀ (rest : List Nat) (fuel : Nat),
      2 * inner.length + 1 ≤ fuel →
        readMembers fuel (inner ++ 125 :: rest) = some (members, rest)
  | [], _, h, _, _, _ => by cases h
  | _ :: _, _, _, _, 0, hfuel => by omega
  | (name, value) :: members, inner, h, rest, fuel + 1, hfuel => by
    obtain ⟨key, first, following, hkey, hfirst, hmore, heq⟩ := h
    obtain rfl := (List.cons.inj heq).2
    obtain ⟨before, spelled, gap, hbefore, hspelled, hgap, rfl⟩ := hkey
    obtain ⟨tail, rfl, hname⟩ := readContent_spelled hspelled
    obtain ⟨pre, text, post, hpre, htext, hpost, rfl⟩ := hfirst
    simp only [List.length_append, List.length_cons] at hfuel
    obtain ⟨rfl, rfl⟩ | ⟨next, more, inner, rfl, rfl⟩ := hmore.head
    · have hread := readValue_complete value text htext pre (post ++ 125 :: rest) fuel hpre
        (hpost.stops (stops_cons (by decide) _)) (by omega)
      refine readMembers_succ_iff.mpr ⟨name, value, [], _, _, _, _, rfl, ?_, hname _,
        hgap.skip_cons rfl _, hread, .inl ⟨rfl, hpost.skip_cons rfl rest⟩⟩
      simp only [List.append_assoc, List.cons_append, List.nil_append]
      exact hbefore.skip_cons rfl _
    · have hread := readValue_complete value text htext pre
        (post ++ 44 :: (inner ++ 125 :: rest)) fuel hpre
        (hpost.stops (stops_cons (by decide) _)) (by omega)
      have hnext := readMembers_complete (next :: more) inner hmore rest fuel
        (by rw [List.length_cons] at hfuel; omega)
      refine readMembers_succ_iff.mpr ⟨name, value, next :: more, _, _, _, _, rfl, ?_, hname _,
        hgap.skip_cons rfl _, hread, .inr ⟨_, hpost.skip_cons rfl _, hnext⟩⟩
      simp only [List.append_assoc, List.cons_append]
      exact hbefore.skip_cons rfl _

end

/-- **The reader finds the trees that a text spells.** -/
theorem readTree_iff (text : List Nat) (tree : Tree) :
    readTree text = some tree ↔ Padded (Spells tree) text := by
  constructor
  · intro h
    rw [readTree] at h
    split at h
    · rename_i found rest hread
      split_ifs at h with hend
      obtain rfl := Option.some.inj h
      obtain ⟨front, inner, hfront, hinner, htext⟩ := (read_sound _).value _ _ _ hread
      obtain ⟨back, hback, hrest⟩ := skipBlanks_split rest
      rw [hend, List.append_nil] at hrest
      exact ⟨front, inner, back, hfront, hinner, hback, by rw [htext, hrest]⟩
    · cases h
  · rintro ⟨front, inner, back, hfront, hinner, hback, rfl⟩
    have hstops : Stops back := by
      have hstops := hback.stops stops_nil
      rwa [List.append_nil] at hstops
    have hread := readValue_complete tree inner hinner front back
      (2 * (front ++ (inner ++ back)).length + 1) hfront hstops
      (by simp only [List.length_append]; omega)
    have hskip : skipBlanks back = [] := by
      have hskip : skipBlanks (back ++ []) = [] := hback.skip fun u hu => by cases hu
      rwa [List.append_nil] at hskip
    rw [readTree, hread]
    exact if_pos hskip

end PlantNexus.Data.JsonGrammar
