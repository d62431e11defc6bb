import PlantNexus.Data.JsonText
import PlantNexus.Data.Sha256Eval

/-! The digest of a JSON value in a form that the kernel computes.

A literal text is its characters only after decoding, which the kernel does slowly. `Spelled`
pairs a value with a `Spelling`, the same value over character lists: a literal unifies with
`String.ofList` of its characters, so that the spelling is found by the constructors and need not
be written. `Spelled.digest` then computes on the spelling alone. -/
namespace PlantNexus.Data

/-- A value whose texts are character lists and whose numbers are not negative. -/
inductive Spelling where
  | null
  | bool (value : Bool)
  | nat (value : Nat)
  | text (chars : List Char)
  | arr (items : List Spelling)
  | obj (members : List (List Char × Spelling))

namespace Spelling

/-! ### Texts -/

/-- A character that stands for itself, in JSON and in UTF-8. -/
def plainChar (c : Char) : Bool :=
  Nat.ble 32 c.toNat && Nat.blt c.toNat 127 && !Nat.beq c.toNat 34 && !Nat.beq c.toNat 92

/-- The order of code points. -/
def charsLe : List Char → List Char → Bool
  | [], _ => true
  | _ :: _, [] => false
  | a :: as, b :: bs => Nat.blt a.toNat b.toNat || (Nat.beq a.toNat b.toNat && charsLe as bs)

theorem charsLe_iff (as bs : List Char) : charsLe as bs = true ↔ ¬bs < as := by
  induction as generalizing bs with
  | nil => simp [charsLe]
  | cons a as ih =>
    cases bs with
    | nil => simp [charsLe]
    | cons b bs =>
      have hlt : ∀ x y : Char, x < y ↔ x.toNat < y.toNat := fun _ _ => Iff.rfl
      have heq : b = a ↔ b.toNat = a.toNat :=
        ⟨congrArg _, fun h => Char.ext (UInt32.toNat_inj.mp h)⟩
      rw [List.cons_lt_cons_iff, hlt, heq, charsLe, Bool.or_eq_true, Bool.and_eq_true,
        Nat.blt_eq, Nat.beq_eq, ih]
      by_cases hrest : bs < as
      · simp only [hrest, not_true, and_false, or_false, and_true]
        omega
      · simp only [hrest, not_false_iff, and_true, and_false, or_false]
        omega

theorem escapeChar_plain {c : Char} (h : plainChar c = true) : Json.escapeChar c = [c] := by
  simp only [plainChar, Bool.and_eq_true, Bool.not_eq_true', Nat.ble_eq, Nat.blt_eq] at h
  obtain ⟨⟨⟨hlow, -⟩, hquote⟩, hslash⟩ := h
  have hne : ∀ other : Char, c.toNat ≠ other.toNat → c ≠ other :=
    fun _ h heq => h (congrArg Char.toNat heq)
  have hquote : c ≠ '"' := hne '"' fun heq => by
    rw [heq] at hquote
    cases hquote
  have hslash : c ≠ '\\' := hne '\\' fun heq => by
    rw [heq] at hslash
    cases hslash
  have hcontrol : ∀ other : Char, other.toNat < 32 → c ≠ other := fun other h => hne other (by omega)
  rw [Json.escapeChar, if_neg hquote, if_neg hslash, if_neg (hcontrol '\n' (by decide)),
    if_neg (hcontrol '\r' (by decide)), if_neg (hcontrol '\t' (by decide)), if_neg (by omega),
    if_neg (by omega), if_neg (by omega)]

theorem quote_plain {chars : List Char} (h : chars.all plainChar = true) :
    Json.quote (String.ofList chars) = '"' :: (chars ++ ['"']) := by
  rw [Json.quote, String.toList_ofList]
  congr 2
  induction chars with
  | nil => rfl
  | cons c chars ih =>
    rw [List.all_cons, Bool.and_eq_true] at h
    rw [List.flatMap_cons, escapeChar_plain h.1, ih h.2]
    rfl

theorem utf8_ascii {chars : List Char} (h : chars.all (fun c => Nat.blt c.toNat 128) = true) :
    (chars.flatMap String.utf8EncodeChar).map UInt8.toNat = chars.map Char.toNat := by
  induction chars with
  | nil => rfl
  | cons c chars ih =>
    rw [List.all_cons, Bool.and_eq_true] at h
    have hascii : c.toNat < 128 := Nat.blt_eq ▸ h.1
    have hsize : c.utf8Size = 1 := Char.utf8Size_eq_one_iff.mpr (by
      rw [UInt32.le_iff_toNat_le]
      exact Nat.le_of_lt_succ hascii)
    rw [List.flatMap_cons, String.utf8EncodeChar_eq_singleton hsize, List.map_append, ih h.2,
      List.map_singleton, List.map_cons, UInt32.toNat_toUInt8]
    show c.toNat % 256 :: _ = _
    rw [Nat.mod_eq_of_lt (by omega)]
    rfl

/-! ### Values -/

mutual

/-- Every text is plain. -/
def plain : Spelling → Bool
  | text chars => chars.all plainChar
  | arr items => plainItems items
  | obj members => plainMembers members
  | _ => true

def plainItems : List Spelling → Bool
  | [] => true
  | x :: xs => plain x && plainItems xs

def plainMembers : List (List Char × Spelling) → Bool
  | [] => true
  | (key, value) :: rest => key.all plainChar && plain value && plainMembers rest

end

def insertMember (member : List Char × List Char) :
    List (List Char × List Char) → List (List Char × List Char)
  | [] => [member]
  | other :: rest =>
    bif charsLe member.1 other.1 then member :: other :: rest
    else other :: insertMember member rest

def sortMembers : List (List Char × List Char) → List (List Char × List Char)
  | [] => []
  | member :: rest => insertMember member (sortMembers rest)

mutual

/-- The canonical text of a plain value. -/
def chars : Spelling → List Char
  | null => ['n', 'u', 'l', 'l']
  | bool true => ['t', 'r', 'u', 'e']
  | bool false => ['f', 'a', 'l', 's', 'e']
  | nat value => Nat.toDigits 10 value
  | text chars => '"' :: (chars ++ ['"'])
  | arr items => '[' :: (Json.commaJoin (itemChars items) ++ [']'])
  | obj members =>
    '\x7b' :: (Json.commaJoin ((sortMembers (memberChars members)).map Prod.snd) ++ ['\x7d'])

def itemChars : List Spelling → List (List Char)
  | [] => []
  | x :: xs => chars x :: itemChars xs

def memberChars : List (List Char × Spelling) → List (List Char × List Char)
  | [] => []
  | (key, value) :: rest =>
    (key, '"' :: (key ++ '"' :: ':' :: chars value)) :: memberChars rest

end

/-- The member with its key as a text. -/
def named (member : List Char × List Char) : String × List Char :=
  (String.ofList member.1, member.2)

theorem sortMembers_eq (members : List (List Char × List Char)) :
    sortByKey Prod.fst (members.map named) = (sortMembers members).map named := by
  have hinsert : ∀ (member : List Char × List Char) (rest : List (List Char × List Char)),
      (rest.map named).orderedInsert (fun a b => a.1 ≤ b.1) (named member) =
        (insertMember member rest).map named := by
    intro member rest
    induction rest with
    | nil => rfl
    | cons other rest ih =>
      have hle : (named member).1 ≤ (named other).1 ↔ charsLe member.1 other.1 = true := by
        rw [charsLe_iff, ← not_lt, String.lt_iff_toList_lt, named, named, String.toList_ofList,
          String.toList_ofList]
      rw [List.map_cons, List.orderedInsert_cons, insertMember]
      by_cases h : charsLe member.1 other.1 = true
      · rw [if_pos (hle.mpr h), h]
        rfl
      · rw [if_neg (h ∘ hle.mp), eq_false_of_ne_true h, ih]
        rfl
  induction members with
  | nil => rfl
  | cons member rest ih =>
    rw [sortMembers, ← hinsert, ← ih]
    rfl

end Spelling

mutual

/-- A value and its spelling. -/
inductive Spelled : Json → Spelling → Prop
  | null : Spelled .null .null
  | bool (b : Bool) : Spelled (.bool b) (.bool b)
  | nat (n : Nat) : Spelled (.int (.ofNat n)) (.nat n)
  | text (chars : List Char) : Spelled (.str (.ofList chars)) (.text chars)
  | arr {items : List Json} {spelled : List Spelling} (h : SpelledItems items spelled) :
      Spelled (.arr items) (.arr spelled)
  | obj {members : List (String × Json)} {spelled : List (List Char × Spelling)}
      (h : SpelledMembers members spelled) : Spelled (.obj members) (.obj spelled)

inductive SpelledItems : List Json → List Spelling → Prop
  | nil : SpelledItems [] []
  | cons {x : Json} {xs : List Json} {y : Spelling} {ys : List Spelling} (h : Spelled x y)
      (hrest : SpelledItems xs ys) : SpelledItems (x :: xs) (y :: ys)

inductive SpelledMembers : List (String × Json) → List (List Char × Spelling) → Prop
  | nil : SpelledMembers [] []
  | cons {x : Json} {xs : List (String × Json)} {y : Spelling}
      {ys : List (List Char × Spelling)} (key : List Char) (h : Spelled x y)
      (hrest : SpelledMembers xs ys) :
      SpelledMembers ((.ofList key, x) :: xs) ((key, y) :: ys)

end

mutual

theorem Spelled.dumpChars_eq : ∀ {value : Json} {spelling : Spelling}, Spelled value spelling →
    spelling.plain = true → value.dumpChars = spelling.chars
  | _, _, .null, _ => rfl
  | _, _, .bool b, _ => by cases b <;> rfl
  | _, _, .nat n, _ => by
    rw [Json.dumpChars, Spelling.chars, Json.int_toList]
    exact if_pos (Int.natCast_nonneg n)
  | _, _, .text chars, h => by rw [Json.dumpChars, Spelling.chars, Spelling.quote_plain h]
  | _, _, .arr hitems, h => by
    rw [Json.dumpChars, Spelling.chars, hitems.dumpItems_eq h]
  | _, _, .obj hmembers, h => by
    rw [Json.dumpChars, Spelling.chars, hmembers.dumpMembers_eq h, Spelling.sortMembers_eq,
      List.map_map]
    rfl

theorem SpelledItems.dumpItems_eq : ∀ {items : List Json} {spelled : List Spelling},
    SpelledItems items spelled → Spelling.plainItems spelled = true →
    Json.dumpItems items = Spelling.itemChars spelled
  | _, _, .nil, _ => rfl
  | _, _, .cons hx hrest, h => by
    rw [Spelling.plainItems, Bool.and_eq_true] at h
    rw [Json.dumpItems, Spelling.itemChars, hx.dumpChars_eq h.1, hrest.dumpItems_eq h.2]

theorem SpelledMembers.dumpMembers_eq : ∀ {members : List (String × Json)}
    {spelled : List (List Char × Spelling)}, SpelledMembers members spelled →
    Spelling.plainMembers spelled = true →
    Json.dumpMembers members = (Spelling.memberChars spelled).map Spelling.named
  | _, _, .nil, _ => rfl
  | _, _, .cons key hx hrest, h => by
    rw [Spelling.plainMembers, Bool.and_eq_true, Bool.and_eq_true] at h
    rw [Json.dumpMembers, Spelling.memberChars, hx.dumpChars_eq h.1.2,
      hrest.dumpMembers_eq h.2, Spelling.quote_plain h.1.1, List.map_cons, Spelling.named,
      List.cons_append, List.append_assoc, List.singleton_append]

end

/-- Hand on a list of numbers as numerals. -/
noncomputable def forceAll {α : Type} (numbers : List Nat) (next : List Nat → α) : α :=
  List.rec (motive := fun _ => (List Nat → α) → α) (fun next => next [])
    (fun n _ rest next => Sha256.force n fun n => rest fun ns => next (n :: ns)) numbers next

@[simp]
theorem forceAll_eq {α : Type} (numbers : List Nat) (next : List Nat → α) :
    forceAll numbers next = next numbers := by
  induction numbers generalizing next with
  | nil => rfl
  | cons n ns ih =>
    show Sha256.force n (fun n => forceAll ns fun ns => next (n :: ns)) = _
    rw [Sha256.force_eq, ih]

/-- **The digest of a value** is computed from its spelling. -/
theorem Spelled.digest {value : Json} {spelling : Spelling} {digits : List Char}
    (h : Spelled value spelling) (hplain : spelling.plain = true)
    (hascii : spelling.chars.all (fun c => Nat.blt c.toNat 128) = true)
    (hdigest : forceAll (spelling.chars.map Char.toNat) Sha256.natDigest = digits) :
    Sha256.hexdigest value.dumps = String.ofList digits := by
  rw [Json.dumps, ← Sha256.natDigest_eq, h.dumpChars_eq hplain, Spelling.utf8_ascii hascii,
    ← hdigest, forceAll_eq]

end PlantNexus.Data
