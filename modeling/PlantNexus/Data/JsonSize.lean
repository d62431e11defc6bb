import Mathlib.Algebra.GroupWithZero.Nat
import PlantNexus.Data.Json

/-! A bound on the bytes of a canonical text, from the lengths of its strings alone. -/
namespace PlantNexus.Data.Json

theorem utf8Len_append (xs ys : List Char) :
    String.utf8Len (xs ++ ys) = String.utf8Len xs + String.utf8Len ys := by
  induction xs with
  | nil => simp [String.utf8Len]
  | cons x rest ih =>
    rw [List.cons_append, String.utf8Len_cons, String.utf8Len_cons, ih]
    omega

theorem utf8Len_le (xs : List Char) : String.utf8Len xs ≤ 4 * xs.length := by
  induction xs with
  | nil => simp [String.utf8Len]
  | cons x rest ih =>
    rw [String.utf8Len_cons, List.length_cons]
    have := Char.utf8Size_le_four x
    omega

/-- An escaped character takes at most six bytes. -/
theorem utf8Len_escapeChar_le (c : Char) : String.utf8Len (escapeChar c) ≤ 6 := by
  have hfour := Char.utf8Size_le_four c
  unfold escapeChar
  split_ifs with h1 h2 h3 h4 h5 h6 h7 h8
  all_goals try decide
  · have hsmall : ∀ n < 32, String.utf8Len ('\\' :: 'u' :: hexDigits 4 n) ≤ 6 := by decide
    exact hsmall _ h8
  · rw [String.utf8Len_cons]
    simp only [String.utf8Len]
    omega

theorem utf8Len_quote_le (s : String) : String.utf8Len (quote s) ≤ 6 * s.length + 2 := by
  have hbody : ∀ cs : List Char, String.utf8Len (cs.flatMap escapeChar) ≤ 6 * cs.length := by
    intro cs
    induction cs with
    | nil => simp
    | cons c rest ih =>
      rw [List.flatMap_cons, utf8Len_append, List.length_cons]
      have := utf8Len_escapeChar_le c
      omega
  have := hbody s.toList
  rw [String.length_toList] at this
  rw [quote, String.utf8Len_cons, utf8Len_append]
  have hquote : String.utf8Len ['"'] = 1 := by decide
  have hsize : ('"').utf8Size = 1 := by decide
  omega

theorem utf8Len_commaJoin_le (parts : List (List Char)) :
    String.utf8Len (commaJoin parts) ≤ (parts.map fun part => String.utf8Len part + 1).sum := by
  induction parts with
  | nil => simp [commaJoin]
  | cons first rest ih =>
    cases rest with
    | nil => simp [commaJoin]
    | cons second others =>
      rw [commaJoin, utf8Len_append, String.utf8Len_cons, List.map_cons, List.sum_cons]
      have hcomma : (',').utf8Size = 1 := by decide
      · omega
      · exact List.cons_ne_nil _ _

mutual

/-- A bound on the bytes of the text of a value. -/
def sizeBound : Json → Nat
  | null => 4
  | bool _ => 5
  | int value => 4 * (toString value).length
  | float value => 4 * value.text.length
  | str value => 6 * value.length + 2
  | arr items => itemsBound items + 2
  | obj members => membersBound members + 2

def itemsBound : List Json → Nat
  | [] => 0
  | item :: rest => sizeBound item + 1 + itemsBound rest

def membersBound : List (String × Json) → Nat
  | [] => 0
  | (key, value) :: rest => 6 * key.length + 3 + sizeBound value + 1 + membersBound rest

end

mutual

theorem dumpChars_le : ∀ value : Json, String.utf8Len value.dumpChars ≤ sizeBound value
  | null => by decide
  | bool value => by cases value <;> decide
  | int value => by
    rw [dumpChars, sizeBound]
    exact (utf8Len_le _).trans_eq (by rw [String.length_toList])
  | float value => by
    rw [dumpChars, sizeBound]
    exact (utf8Len_le _).trans_eq (by rw [String.length_toList])
  | str value => by
    rw [dumpChars, sizeBound]
    exact utf8Len_quote_le value
  | arr items => by
    have hitems := dumpItems_le items
    have hjoin := utf8Len_commaJoin_le (dumpItems items)
    have hopen : ('[').utf8Size = 1 := by decide
    have hclose : String.utf8Len [']'] = 1 := by decide
    rw [dumpChars, sizeBound, String.utf8Len_cons, utf8Len_append]
    omega
  | obj members => by
    have hmembers := dumpMembers_le members
    have hjoin := utf8Len_commaJoin_le
      ((sortByKey Prod.fst (dumpMembers members)).map Prod.snd)
    have hperm : (((sortByKey Prod.fst (dumpMembers members)).map Prod.snd).map
        fun part => String.utf8Len part + 1).sum =
        ((dumpMembers members).map fun member => String.utf8Len member.2 + 1).sum := by
      rw [List.map_map]
      exact ((sortByKey_perm Prod.fst (dumpMembers members)).map _).sum_nat
    have hopen : ('\x7b').utf8Size = 1 := by decide
    have hclose : String.utf8Len ['\x7d'] = 1 := by decide
    rw [dumpChars, sizeBound, String.utf8Len_cons, utf8Len_append]
    omega

theorem dumpItems_le : ∀ items : List Json,
    ((dumpItems items).map fun part => String.utf8Len part + 1).sum ≤ itemsBound items
  | [] => Nat.le_refl 0
  | item :: rest => by
    have hitem := dumpChars_le item
    have hrest := dumpItems_le rest
    rw [dumpItems, itemsBound, List.map_cons, List.sum_cons]
    omega

theorem dumpMembers_le : ∀ members : List (String × Json),
    ((dumpMembers members).map fun member => String.utf8Len member.2 + 1).sum ≤
      membersBound members
  | [] => Nat.le_refl 0
  | (key, value) :: rest => by
    have hkey := utf8Len_quote_le key
    have hvalue := dumpChars_le value
    have hrest := dumpMembers_le rest
    have hcolon : (':').utf8Size = 1 := by decide
    rw [dumpMembers, membersBound, List.map_cons, List.sum_cons, utf8Len_append,
      String.utf8Len_cons]
    omega

end

/-- **The text of a value takes at most the bytes of its bound.** -/
theorem utf8ByteSize_dumps_le (value : Json) : value.dumps.utf8ByteSize ≤ sizeBound value := by
  rw [dumps, String.utf8ByteSize_ofList]
  exact dumpChars_le value

end PlantNexus.Data.Json
