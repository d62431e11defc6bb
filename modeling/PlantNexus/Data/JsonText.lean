import PlantNexus.Data.Json

/-! Canonical JSON text determines its value.

`canonical` puts the members of every object in key order; `print` writes a value with its
members as they stand, so that `dumps` is `print` after `canonical`. Without floats, a printed
value is read back from any text that goes on with no digit (`print_append_inj`), hence two
values with the same text have the same canonical form (`canonical_eq_of_dumps_eq`). -/
namespace PlantNexus.Data

namespace Json

/-! ### Characters -/

/-- The character that an escape letter stands for. -/
def unescape (c : Char) : Char :=
  if c = 'n' then '\n'
  else if c = 'r' then '\r'
  else if c = 't' then '\t'
  else if c = 'f' then Char.ofNat 12
  else if c = 'b' then Char.ofNat 8
  else c

def hexValue (c : Char) : Nat :=
  if c.isDigit then c.toNat - 48 else c.toNat - 87

/-- The first character of an escaped text and what follows it. -/
def readEscaped : List Char → Option (Char × List Char)
  | '\\' :: 'u' :: _ :: _ :: high :: low :: rest =>
    some (Char.ofNat (16 * hexValue high + hexValue low), rest)
  | '\\' :: c :: rest => some (unescape c, rest)
  | c :: rest => some (c, rest)
  | [] => none

theorem hexDigits_four (n : Nat) : hexDigits 4 n =
    [Nat.digitChar (n / 4096 % 16), Nat.digitChar (n / 256 % 16), Nat.digitChar (n / 16 % 16),
     Nat.digitChar (n % 16)] := by
  simp [hexDigits, List.range_succ]

theorem hexValue_control :
    ∀ n < 32, 16 * hexValue (Nat.digitChar (n / 16 % 16)) + hexValue (Nat.digitChar (n % 16)) = n := by
  decide

theorem readEscaped_escapeChar (c : Char) (rest : List Char) :
    readEscaped (escapeChar c ++ rest) = some (c, rest) := by
  unfold escapeChar
  split_ifs with h1 h2 h3 h4 h5 h6 h7 h8
  · rw [h1]
    rfl
  · rw [h2]
    rfl
  · rw [h3]
    rfl
  · rw [h4]
    rfl
  · rw [h5]
    rfl
  · have hc : c = Char.ofNat 12 := by rw [← h6, Char.ofNat_toNat]
    rw [hc]
    rfl
  · have hc : c = Char.ofNat 8 := by rw [← h7, Char.ofNat_toNat]
    rw [hc]
    rfl
  · rw [hexDigits_four]
    show some (Char.ofNat _, rest) = _
    rw [hexValue_control _ h8, Char.ofNat_toNat]
  · show readEscaped (c :: rest) = _
    unfold readEscaped
    split
    · rename_i heq
      exact absurd (List.cons.inj heq).1 h2
    · rename_i heq
      exact absurd (List.cons.inj heq).1 h2
    · rename_i heq
      obtain ⟨rfl, rfl⟩ := List.cons.inj heq
      rfl
    · rename_i heq
      cases heq

theorem escapeChar_head (c : Char) : ∃ d tail, escapeChar c = d :: tail ∧ d ≠ '"' := by
  unfold escapeChar
  split_ifs with h1
  all_goals first
    | exact ⟨_, _, rfl, by decide⟩
    | exact ⟨c, _, rfl, h1⟩

theorem escaped_append_inj (cs ds : List Char) (r r' : List Char)
    (h : cs.flatMap escapeChar ++ '"' :: r = ds.flatMap escapeChar ++ '"' :: r') :
    cs = ds ∧ r = r' := by
  induction cs generalizing ds with
  | nil =>
    cases ds with
    | nil => exact ⟨rfl, (List.cons.inj h).2⟩
    | cons d ds =>
      obtain ⟨e, tail, he, hne⟩ := escapeChar_head d
      rw [List.flatMap_cons, he] at h
      exact absurd (List.cons.inj h).1.symm hne
  | cons c cs ih =>
    cases ds with
    | nil =>
      obtain ⟨e, tail, he, hne⟩ := escapeChar_head c
      rw [List.flatMap_cons, he] at h
      exact absurd (List.cons.inj h).1 hne
    | cons d ds =>
      rw [List.flatMap_cons, List.flatMap_cons, List.append_assoc, List.append_assoc] at h
      have hread := congrArg readEscaped h
      rw [readEscaped_escapeChar, readEscaped_escapeChar, Option.some.injEq,
        Prod.mk.injEq] at hread
      obtain ⟨rfl, hrest⟩ := hread
      obtain ⟨rfl, hr⟩ := ih ds hrest
      exact ⟨rfl, hr⟩

theorem quote_append_inj (s t : String) (r r' : List Char) (h : quote s ++ r = quote t ++ r') :
    s = t ∧ r = r' := by
  simp only [quote, List.cons_append, List.append_assoc, List.cons.injEq, true_and,
    List.nil_append] at h
  obtain ⟨hs, hr⟩ := escaped_append_inj _ _ _ _ h
  exact ⟨String.toList_inj.mp hs, hr⟩

/-! ### Numbers -/

/-- The text does not go on with a digit. -/
def NoDigit (rest : List Char) : Prop := ∀ c tail, rest = c :: tail → c.isDigit = false

theorem noDigit_cons {c : Char} {tail : List Char} (h : c.isDigit = false) :
    NoDigit (c :: tail) := by
  intro d rest heq
  rw [← (List.cons.inj heq).1, h]

theorem digits_append_inj {ds es r r' : List Char} (hd : ∀ c ∈ ds, c.isDigit = true)
    (he : ∀ c ∈ es, c.isDigit = true) (hr : NoDigit r) (hr' : NoDigit r')
    (h : ds ++ r = es ++ r') : ds = es ∧ r = r' := by
  induction ds generalizing es with
  | nil =>
    cases es with
    | nil => exact ⟨rfl, h⟩
    | cons e es =>
      have hnot := hr e (es ++ r') h
      rw [he e (List.mem_cons_self ..)] at hnot
      cases hnot
  | cons d ds ih =>
    cases es with
    | nil =>
      have hnot := hr' d (ds ++ r) h.symm
      rw [hd d (List.mem_cons_self ..)] at hnot
      cases hnot
    | cons e es =>
      obtain ⟨rfl, hrest⟩ := List.cons.inj h
      obtain ⟨rfl, hr⟩ := ih (fun c hc => hd c (List.mem_cons_of_mem _ hc))
        (fun c hc => he c (List.mem_cons_of_mem _ hc)) hrest
      exact ⟨rfl, hr⟩

theorem toDigits_append_inj {n m : Nat} {r r' : List Char} (hr : NoDigit r) (hr' : NoDigit r')
    (h : Nat.toDigits 10 n ++ r = Nat.toDigits 10 m ++ r') : n = m ∧ r = r' := by
  have hdigit : ∀ k : Nat, ∀ c ∈ Nat.toDigits 10 k, c.isDigit = true := fun k c hc =>
    Nat.isDigit_of_mem_toDigits (by decide) (by decide) hc
  obtain ⟨hdigits, hrest⟩ := digits_append_inj (hdigit n) (hdigit m) hr hr' h
  have hvalue := congrArg (fun ds => Nat.ofDigitChars 10 ds 0) hdigits
  simp only [Nat.ofDigitChars_ten_toDigits] at hvalue
  exact ⟨hvalue, hrest⟩

theorem toDigits_head (n : Nat) : ∃ c tail, Nat.toDigits 10 n = c :: tail ∧ c.isDigit = true := by
  cases h : Nat.toDigits 10 n with
  | nil => exact absurd h (by simp)
  | cons c tail =>
    exact ⟨c, tail, rfl, Nat.isDigit_of_mem_toDigits (n := n) (b := 10) (by decide) (by decide)
      (h ▸ List.mem_cons_self ..)⟩

theorem int_toList (n : Int) : (toString n).toList =
    if 0 ≤ n then Nat.toDigits 10 n.toNat else '-' :: Nat.toDigits 10 (-n).toNat := by
  rw [Int.toString_eq_repr, Int.repr_eq_if]
  split
  · rw [Nat.toList_repr]
  · rw [String.toList_append, Nat.toList_repr]
    rfl

theorem int_append_inj {n m : Int} {r r' : List Char} (hr : NoDigit r) (hr' : NoDigit r')
    (h : (toString n).toList ++ r = (toString m).toList ++ r') : n = m ∧ r = r' := by
  rw [int_toList, int_toList] at h
  by_cases hn : 0 ≤ n
  · rw [if_pos hn] at h
    by_cases hm : 0 ≤ m
    · rw [if_pos hm] at h
      obtain ⟨hvalue, hrest⟩ := toDigits_append_inj hr hr' h
      exact ⟨by omega, hrest⟩
    · rw [if_neg hm] at h
      obtain ⟨c, tail, hc, hdigit⟩ := toDigits_head n.toNat
      rw [hc] at h
      rw [(List.cons.inj h).1] at hdigit
      exact absurd hdigit (by decide)
  · rw [if_neg hn] at h
    by_cases hm : 0 ≤ m
    · rw [if_pos hm] at h
      obtain ⟨c, tail, hc, hdigit⟩ := toDigits_head m.toNat
      rw [hc] at h
      rw [← (List.cons.inj h).1] at hdigit
      exact absurd hdigit (by decide)
    · rw [if_neg hm] at h
      obtain ⟨hvalue, hrest⟩ := toDigits_append_inj hr hr' (List.cons.inj h).2
      exact ⟨by omega, hrest⟩

/-! ### Values -/

mutual

/-- The value with the members of every object in key order. -/
def canonical : Json → Json
  | arr items => arr (canonicalItems items)
  | obj members => obj (sortByKey Prod.fst (canonicalMembers members))
  | value => value

def canonicalItems : List Json → List Json
  | [] => []
  | x :: xs => canonical x :: canonicalItems xs

def canonicalMembers : List (String × Json) → List (String × Json)
  | [] => []
  | (key, value) :: rest => (key, canonical value) :: canonicalMembers rest

end

mutual

/-- The text of a value with its members as they stand. -/
def print : Json → List Char
  | null => "null".toList
  | bool value => (if value then "true" else "false").toList
  | int value => (toString value).toList
  | float value => value.text.toList
  | str value => quote value
  | arr [] => ['[', ']']
  | arr (x :: xs) => '[' :: (print x ++ (printItems xs ++ [']']))
  | obj [] => ['\x7b', '\x7d']
  | obj ((key, value) :: rest) =>
    '\x7b' :: (quote key ++ ':' :: (print value ++ (printMembers rest ++ ['\x7d'])))

/-- The items after the first. -/
def printItems : List Json → List Char
  | [] => []
  | x :: xs => ',' :: (print x ++ printItems xs)

def printMembers : List (String × Json) → List Char
  | [] => []
  | (key, value) :: rest => ',' :: (quote key ++ ':' :: (print value ++ printMembers rest))

end

mutual

/-- No float stands in the value. -/
def NoFloat : Json → Prop
  | float _ => False
  | arr items => NoFloatItems items
  | obj members => NoFloatMembers members
  | _ => True

def NoFloatItems : List Json → Prop
  | [] => True
  | x :: xs => NoFloat x ∧ NoFloatItems xs

def NoFloatMembers : List (String × Json) → Prop
  | [] => True
  | (_, value) :: rest => NoFloat value ∧ NoFloatMembers rest

end

theorem noFloatMembers_iff (members : List (String × Json)) :
    NoFloatMembers members ↔ ∀ m ∈ members, m.2.NoFloat := by
  induction members with
  | nil => simp [NoFloatMembers]
  | cons m rest ih => rw [NoFloatMembers, ih, List.forall_mem_cons]

theorem commaJoin_cons (x : List Char) (xs : List (List Char)) :
    commaJoin (x :: xs) = x ++ xs.flatMap fun y => ',' :: y := by
  induction xs generalizing x with
  | nil => simp [commaJoin]
  | cons y ys ih =>
    rw [commaJoin, ih, List.flatMap_cons, List.cons_append]
    exact List.cons_ne_nil y ys

/-- The text of a member. -/
def printMember (member : String × Json) : List Char :=
  quote member.1 ++ ':' :: print member.2

theorem printItems_eq (items : List Json) :
    printItems items = (items.map print).flatMap fun y => ',' :: y := by
  induction items with
  | nil => rfl
  | cons x xs ih => rw [printItems, ih, List.map_cons, List.flatMap_cons, List.cons_append]

theorem printMembers_eq (members : List (String × Json)) :
    printMembers members = (members.map printMember).flatMap fun y => ',' :: y := by
  induction members with
  | nil => rfl
  | cons m rest ih =>
    rw [printMembers, ih, List.map_cons, List.flatMap_cons, List.cons_append, printMember,
      List.append_assoc, List.cons_append]

theorem print_arr (items : List Json) :
    print (arr items) = '[' :: (commaJoin (items.map print) ++ [']']) := by
  cases items with
  | nil => rfl
  | cons x xs =>
    rw [print, List.map_cons, commaJoin_cons, ← printItems_eq, List.append_assoc]

theorem print_obj (members : List (String × Json)) :
    print (obj members) = '\x7b' :: (commaJoin (members.map printMember) ++ ['\x7d']) := by
  cases members with
  | nil => rfl
  | cons m rest =>
    rw [print, List.map_cons, commaJoin_cons, ← printMembers_eq, printMember]
    simp only [List.append_assoc, List.cons_append]

mutual

theorem dumpChars_eq_print : ∀ value : Json, dumpChars value = print (canonical value)
  | null => rfl
  | bool _ => rfl
  | int _ => rfl
  | float _ => rfl
  | str _ => rfl
  | arr items => by rw [dumpChars, canonical, print_arr, dumpItems_eq_print items]
  | obj members => by
    rw [dumpChars, canonical, print_obj, dumpMembers_eq_print members, sortByKey_map,
      List.map_map]
    rfl

theorem dumpItems_eq_print : ∀ items : List Json,
    dumpItems items = (canonicalItems items).map print
  | [] => rfl
  | x :: xs => by
    rw [dumpItems, canonicalItems, List.map_cons, dumpChars_eq_print x, dumpItems_eq_print xs]

theorem dumpMembers_eq_print : ∀ members : List (String × Json),
    dumpMembers members = (canonicalMembers members).map fun m => (m.1, printMember m)
  | [] => rfl
  | (key, value) :: rest => by
    rw [dumpMembers, canonicalMembers, List.map_cons, dumpChars_eq_print value,
      dumpMembers_eq_print rest, printMember]

end

/-! ### Reading back -/

/-- The kind of value that a first character announces. -/
def leadKind (c : Char) : Nat :=
  if c = 'n' then 0
  else if c = 't' then 1
  else if c = 'f' then 2
  else if c = '"' then 3
  else if c = '[' then 4
  else if c = '\x7b' then 5
  else if c = '-' ∨ c.isDigit then 6
  else 7

def kind : Json → Nat
  | null => 0
  | bool true => 1
  | bool false => 2
  | str _ => 3
  | arr _ => 4
  | obj _ => 5
  | int _ => 6
  | float _ => 6

theorem leadKind_digit {c : Char} (h : c.isDigit = true) : leadKind c = 6 := by
  have hne : ∀ d : Char, d.isDigit = false → c ≠ d := by
    intro d hd heq
    rw [heq, hd] at h
    cases h
  unfold leadKind
  rw [if_neg (hne 'n' (by decide)), if_neg (hne 't' (by decide)), if_neg (hne 'f' (by decide)),
    if_neg (hne '"' (by decide)), if_neg (hne '[' (by decide)), if_neg (hne '\x7b' (by decide)),
    if_pos (.inr h)]

/-- The first character of a printed value announces its kind. -/
theorem print_lead (value : Json) (h : value.NoFloat) :
    ∃ c tail, print value = c :: tail ∧ leadKind c = value.kind := by
  cases value with
  | null => exact ⟨'n', _, rfl, by decide⟩
  | bool b =>
    cases b with
    | true => exact ⟨'t', _, rfl, by decide⟩
    | false => exact ⟨'f', _, rfl, by decide⟩
  | int n =>
    rw [print, int_toList]
    split
    · obtain ⟨c, tail, hc, hdigit⟩ := toDigits_head n.toNat
      exact ⟨c, tail, hc, leadKind_digit hdigit⟩
    · exact ⟨'-', _, rfl, (by decide : leadKind '-' = 6)⟩
  | float v => exact h.elim
  | str s => exact ⟨'"', _, rfl, (by decide : leadKind '"' = 3)⟩
  | arr items => exact ⟨'[', _, print_arr items, (by decide : leadKind '[' = 4)⟩
  | obj members => exact ⟨'\x7b', _, print_obj members, (by decide : leadKind '\x7b' = 5)⟩

theorem kind_eq_of_print {a b : Json} {r r' : List Char} (ha : a.NoFloat) (hb : b.NoFloat)
    (h : print a ++ r = print b ++ r') : a.kind = b.kind := by
  obtain ⟨c, tail, hc, hkind⟩ := print_lead a ha
  obtain ⟨d, tail', hd, hkind'⟩ := print_lead b hb
  rw [hc, hd] at h
  rw [← hkind, ← hkind', (List.cons.inj h).1]

/-- A printed value is not the end of a list. -/
theorem print_ne_close {a : Json} {r r' : List Char} {c : Char} (ha : a.NoFloat)
    (hc : leadKind c = 7) (h : print a ++ r = c :: r') : False := by
  obtain ⟨d, tail, hd, hkind⟩ := print_lead a ha
  rw [hd] at h
  rw [(List.cons.inj h).1, hc] at hkind
  cases a with
  | bool b => cases b <;> cases hkind
  | _ => cases hkind

theorem noDigit_printItems (xs : List Json) (r : List Char) :
    NoDigit (printItems xs ++ ']' :: r) := by
  cases xs with
  | nil => exact noDigit_cons (by decide)
  | cons x xs => exact noDigit_cons (by decide)

theorem noDigit_printMembers (members : List (String × Json)) (r : List Char) :
    NoDigit (printMembers members ++ '\x7d' :: r) := by
  cases members with
  | nil => exact noDigit_cons (by decide)
  | cons m rest => exact noDigit_cons (by decide)

mutual

/-- A value is read back from its text and whatever follows it, as long as no digit does. -/
theorem print_append_inj : ∀ (a b : Json) (r r' : List Char), a.NoFloat → b.NoFloat →
    NoDigit r → NoDigit r' → print a ++ r = print b ++ r' → a = b ∧ r = r'
  | a, b, r, r', ha, hb, hr, hr', h => by
    have hkind := kind_eq_of_print ha hb h
    cases a with
    | float v => exact ha.elim
    | null =>
      cases b with
      | null => exact ⟨rfl, List.append_cancel_left h⟩
      | bool v => cases v <;> cases hkind
      | _ => cases hkind
    | bool v =>
      cases b with
      | bool w =>
        cases v <;> cases w
        · exact ⟨rfl, List.append_cancel_left h⟩
        · cases hkind
        · cases hkind
        · exact ⟨rfl, List.append_cancel_left h⟩
      | _ => cases v <;> cases hkind
    | int n =>
      cases b with
      | float v => exact hb.elim
      | int m =>
        obtain ⟨rfl, hrest⟩ := int_append_inj hr hr' h
        exact ⟨rfl, hrest⟩
      | bool v => cases v <;> cases hkind
      | _ => cases hkind
    | str s =>
      cases b with
      | str t =>
        obtain ⟨rfl, hrest⟩ := quote_append_inj s t r r' h
        exact ⟨rfl, hrest⟩
      | bool v => cases v <;> cases hkind
      | _ => cases hkind
    | arr xs =>
      cases b with
      | arr ys =>
        cases xs with
        | nil =>
          cases ys with
          | nil => exact ⟨rfl, List.append_cancel_left h⟩
          | cons y ys =>
            simp only [print, List.cons_append, List.append_assoc, List.cons.injEq, true_and] at h
            exact (print_ne_close hb.1 (by decide) h.symm).elim
        | cons x xs =>
          cases ys with
          | nil =>
            simp only [print, List.cons_append, List.append_assoc, List.cons.injEq, true_and] at h
            exact (print_ne_close ha.1 (by decide) h).elim
          | cons y ys =>
            simp only [print, List.cons_append, List.append_assoc, List.nil_append,
              List.cons.injEq, true_and] at h
            obtain ⟨rfl, hitems⟩ := print_append_inj x y _ _ ha.1 hb.1
              (noDigit_printItems xs r) (noDigit_printItems ys r') h
            obtain ⟨rfl, hrest⟩ := printItems_append_inj xs ys r r' ha.2 hb.2 hitems
            exact ⟨rfl, hrest⟩
      | bool v => cases v <;> cases hkind
      | _ => cases hkind
    | obj xs =>
      cases b with
      | obj ys =>
        cases xs with
        | nil =>
          cases ys with
          | nil => exact ⟨rfl, List.append_cancel_left h⟩
          | cons m ys =>
            have htail := (List.cons.inj h).2
            exact absurd (List.cons.inj htail).1 (by decide)
        | cons m xs =>
          cases ys with
          | nil =>
            have htail := (List.cons.inj h).2
            exact absurd (List.cons.inj htail).1 (by decide)
          | cons m' ys =>
            obtain ⟨key, value⟩ := m
            obtain ⟨key', value'⟩ := m'
            simp only [print, List.cons_append, List.append_assoc, List.nil_append,
              List.cons.injEq, true_and] at h
            obtain ⟨rfl, hvalue⟩ := quote_append_inj key key' _ _ h
            obtain ⟨rfl, hmembers⟩ := print_append_inj value value' _ _ ha.1 hb.1
              (noDigit_printMembers xs r) (noDigit_printMembers ys r') (List.cons.inj hvalue).2
            obtain ⟨rfl, hrest⟩ := printMembers_append_inj xs ys r r' ha.2 hb.2 hmembers
            exact ⟨rfl, hrest⟩
      | bool v => cases v <;> cases hkind
      | _ => cases hkind

theorem printItems_append_inj : ∀ (xs ys : List Json) (r r' : List Char), NoFloatItems xs →
    NoFloatItems ys → printItems xs ++ ']' :: r = printItems ys ++ ']' :: r' → xs = ys ∧ r = r'
  | [], [], _, _, _, _, h => ⟨rfl, (List.cons.inj h).2⟩
  | [], _ :: _, _, _, _, _, h => absurd (List.cons.inj h).1 (by decide)
  | _ :: _, [], _, _, _, _, h => absurd (List.cons.inj h).1 (by decide)
  | x :: xs, y :: ys, r, r', hx, hy, h => by
    simp only [printItems, List.cons_append, List.append_assoc, List.cons.injEq, true_and] at h
    obtain ⟨rfl, hitems⟩ := print_append_inj x y _ _ hx.1 hy.1
      (noDigit_printItems xs r) (noDigit_printItems ys r') h
    obtain ⟨rfl, hrest⟩ := printItems_append_inj xs ys r r' hx.2 hy.2 hitems
    exact ⟨rfl, hrest⟩

theorem printMembers_append_inj : ∀ (xs ys : List (String × Json)) (r r' : List Char),
    NoFloatMembers xs → NoFloatMembers ys →
    printMembers xs ++ '\x7d' :: r = printMembers ys ++ '\x7d' :: r' → xs = ys ∧ r = r'
  | [], [], _, _, _, _, h => ⟨rfl, (List.cons.inj h).2⟩
  | [], _ :: _, _, _, _, _, h => absurd (List.cons.inj h).1 (by decide)
  | _ :: _, [], _, _, _, _, h => absurd (List.cons.inj h).1 (by decide)
  | (key, value) :: xs, (key', value') :: ys, r, r', hx, hy, h => by
    simp only [printMembers, List.cons_append, List.append_assoc, List.cons.injEq, true_and] at h
    obtain ⟨rfl, hvalue⟩ := quote_append_inj key key' _ _ h
    obtain ⟨rfl, hmembers⟩ := print_append_inj value value' _ _ hx.1 hy.1
      (noDigit_printMembers xs r) (noDigit_printMembers ys r') (List.cons.inj hvalue).2
    obtain ⟨rfl, hrest⟩ := printMembers_append_inj xs ys r r' hx.2 hy.2 hmembers
    exact ⟨rfl, hrest⟩

end

mutual

theorem noFloat_canonical : ∀ value : Json, value.NoFloat → (canonical value).NoFloat
  | null, _ => trivial
  | bool _, _ => trivial
  | int _, _ => trivial
  | float _, h => h.elim
  | str _, _ => trivial
  | arr items, h => noFloatItems_canonical items h
  | obj members, h => by
    rw [canonical, NoFloat, noFloatMembers_iff]
    intro m hm
    rw [mem_sortByKey] at hm
    exact (noFloatMembers_iff _).mp (noFloatMembers_canonical members h) m hm

theorem noFloatItems_canonical : ∀ items : List Json, NoFloatItems items →
    NoFloatItems (canonicalItems items)
  | [], _ => trivial
  | x :: xs, h => ⟨noFloat_canonical x h.1, noFloatItems_canonical xs h.2⟩

theorem noFloatMembers_canonical : ∀ members : List (String × Json), NoFloatMembers members →
    NoFloatMembers (canonicalMembers members)
  | [], _ => trivial
  | (_, value) :: rest, h => ⟨noFloat_canonical value h.1, noFloatMembers_canonical rest h.2⟩

end

/-- **The canonical text of a value without floats determines its canonical form.** -/
theorem canonical_eq_of_dumps_eq {a b : Json} (ha : a.NoFloat) (hb : b.NoFloat)
    (h : a.dumps = b.dumps) : canonical a = canonical b := by
  have hchars : dumpChars a = dumpChars b := String.ofList_injective h
  rw [dumpChars_eq_print, dumpChars_eq_print] at hchars
  have hnil : NoDigit [] := nofun
  have happend : print (canonical a) ++ [] = print (canonical b) ++ [] := by
    rw [List.append_nil, List.append_nil, hchars]
  exact (print_append_inj _ _ [] [] (noFloat_canonical a ha) (noFloat_canonical b hb) hnil hnil
    happend).1

/-! ### Members -/

theorem canonicalMembers_eq (members : List (String × Json)) :
    canonicalMembers members = members.map fun m => (m.1, canonical m.2) := by
  induction members with
  | nil => rfl
  | cons m rest ih => rw [canonicalMembers, ih, List.map_cons]

theorem canonicalItems_eq (items : List Json) :
    canonicalItems items = items.map canonical := by
  induction items with
  | nil => rfl
  | cons x xs ih => rw [canonicalItems, ih, List.map_cons]

/-- Lookup by key does not depend on the order of distinct keys. -/
theorem find?_key_perm {xs ys : List (String × Json)} (hperm : xs.Perm ys)
    (hnodup : (xs.map Prod.fst).Nodup) (key : String) :
    xs.find? (fun m => m.1 == key) = ys.find? fun m => m.1 == key := by
  cases h : xs.find? fun m => m.1 == key with
  | some m =>
    have hkey : m.1 = key := by simpa using List.find?_some h
    subst hkey
    have hmem := hperm.mem_iff.mp (List.mem_of_find?_eq_some h)
    exact (find?_key_eq ((hperm.map Prod.fst).nodup_iff.mp hnodup) hmem).symm
  | none =>
    symm
    rw [List.find?_eq_none] at h ⊢
    intro m hm
    exact h m (hperm.mem_iff.mpr hm)

/-- Objects with one canonical form have the same members, in canonical form. -/
theorem canonical_get_eq {xs ys : List (String × Json)} (hxs : (xs.map Prod.fst).Nodup)
    (h : canonical (obj xs) = canonical (obj ys)) (key : String) :
    canonical (get key (obj xs)) = canonical (get key (obj ys)) := by
  have hget : ∀ members : List (String × Json), canonical (get key (obj members)) =
      get key (obj (canonicalMembers members)) := by
    intro members
    induction members with
    | nil => rfl
    | cons m rest ih =>
      simp only [get, canonicalMembers, List.find?_cons] at ih ⊢
      cases hkey : m.1 == key with
      | true => rfl
      | false => exact ih
  rw [canonical, canonical, obj.injEq] at h
  have hperm : (canonicalMembers xs).Perm (canonicalMembers ys) :=
    ((sortByKey_perm Prod.fst _).symm.trans (h ▸ sortByKey_perm Prod.fst (canonicalMembers ys)))
  have hnodup : ((canonicalMembers xs).map Prod.fst).Nodup := by
    rw [canonicalMembers_eq, List.map_map]
    exact hxs
  rw [hget, hget]
  simp only [get]
  rw [find?_key_perm hperm hnodup key]

/-- Arrays of records that their canonical form tells apart. -/
theorem canonical_arr_inj {α : Type} {f : α → Json}
    (hf : ∀ a b, canonical (f a) = canonical (f b) → a = b) {xs ys : List α}
    (h : canonical (arr (xs.map f)) = canonical (arr (ys.map f))) : xs = ys := by
  rw [canonical, canonical, arr.injEq, canonicalItems_eq, canonicalItems_eq, List.map_map,
    List.map_map] at h
  exact List.map_injective_iff.mpr (fun a b => hf a b) h

theorem canonical_strings_inj {xs ys : List String}
    (h : canonical (strings xs) = canonical (strings ys)) : xs = ys := by
  have hstr : ∀ a b : String, canonical (str a) = canonical (str b) → a = b :=
    fun _ _ heq => str.inj heq
  exact canonical_arr_inj hstr h

theorem noFloat_strings (values : List String) : (strings values).NoFloat := by
  rw [strings, NoFloat]
  induction values with
  | nil => trivial
  | cons x xs ih => exact ⟨trivial, ih⟩

theorem noFloat_arr_map {α : Type} (f : α → Json) (xs : List α) (h : ∀ x, (f x).NoFloat) :
    (arr (xs.map f)).NoFloat := by
  rw [NoFloat]
  induction xs with
  | nil => trivial
  | cons x xs ih => exact ⟨h x, ih⟩

end Json
end PlantNexus.Data
