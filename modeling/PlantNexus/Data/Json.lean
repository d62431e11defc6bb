import PlantNexus.Data.Lists

/-! JSON values as the standard `json` module hands them over.

An object keeps its members as a list in insertion order with one entry for each key;
integers and booleans are distinct constructors, but compare equal as Python compares
them (`1 == True`, `60 == 60.0`). `dumps` is the canonical text: members in key order,
no blanks, non-ASCII characters unescaped. -/
namespace PlantNexus.Data

/-- A finite float: its printed form and its exact value `num / den`. -/
structure FloatValue where
  text : String
  num : Int
  den : Nat
deriving DecidableEq, Repr

inductive Json where
  | null
  | bool (value : Bool)
  | int (value : Int)
  | float (value : FloatValue)
  | str (value : String)
  | arr (items : List Json)
  | obj (members : List (String × Json))

namespace Json

/-- The exact value of a number; `True` and `False` are the integers one and zero. -/
def number : Json → Option (Int × Nat)
  | bool value => some (if value then 1 else 0, 1)
  | int value => some (value, 1)
  | float value => some (value.num, value.den)
  | _ => none

mutual

/-- Python's `==` between two decoded values. -/
def pyEq : Json → Json → Bool
  | null, null => true
  | str a, str b => a == b
  | arr xs, arr ys => pyEqItems xs ys
  | obj xs, obj ys => xs.length == ys.length && pyEqMembers xs ys
  | a, b =>
    match number a, number b with
    | some (n, d), some (m, e) => n * (e : Int) == m * (d : Int)
    | _, _ => false

def pyEqItems : List Json → List Json → Bool
  | [], [] => true
  | x :: xs, y :: ys => pyEq x y && pyEqItems xs ys
  | _, _ => false

/-- Every member of the first object is in the second with an equal value. -/
def pyEqMembers : List (String × Json) → List (String × Json) → Bool
  | [], _ => true
  | (key, value) :: rest, ys =>
    (match ys.find? (·.1 == key) with
      | some member => pyEq value member.2
      | none => false) && pyEqMembers rest ys

end

/-- `value.get(key)` of an object; `None` and an absent key are both `null`. -/
def get (key : String) : Json → Json
  | obj members =>
    match members.find? (·.1 == key) with
    | some member => member.2
    | none => null
  | _ => null

/-- The keys of an object. -/
def keys : Json → List String
  | obj members => members.map Prod.fst
  | _ => []

def isObj : Json → Bool
  | obj _ => true
  | _ => false

/-- The string under a `cast(str, …)`. -/
def text : Json → String
  | str value => value
  | _ => ""

/-- `type(value).__name__`. -/
def typeName : Json → String
  | null => "NoneType"
  | bool _ => "bool"
  | int _ => "int"
  | float _ => "float"
  | str _ => "str"
  | arr _ => "list"
  | obj _ => "dict"

def ofOption (f : α → Json) : Option α → Json
  | some a => f a
  | none => null

def strings (values : List String) : Json := arr (values.map str)

/-! ### Decidable equality -/

mutual

/-- Equality of two values, members in the order they stand. -/
def decEq : ∀ a b : Json, Decidable (a = b)
  | null, b => match b with
    | null => isTrue rfl
    | bool _ | int _ | float _ | str _ | arr _ | obj _ => isFalse nofun
  | bool x, b => match b with
    | bool y => decidable_of_iff (x = y) (by simp)
    | null | int _ | float _ | str _ | arr _ | obj _ => isFalse nofun
  | int x, b => match b with
    | int y => decidable_of_iff (x = y) (by simp)
    | null | bool _ | float _ | str _ | arr _ | obj _ => isFalse nofun
  | float x, b => match b with
    | float y => decidable_of_iff (x = y) (by simp)
    | null | bool _ | int _ | str _ | arr _ | obj _ => isFalse nofun
  | str x, b => match b with
    | str y => decidable_of_iff (x = y) (by simp)
    | null | bool _ | int _ | float _ | arr _ | obj _ => isFalse nofun
  | arr xs, b => match b with
    | arr ys => @decidable_of_iff _ (xs = ys) (by simp) (decEqItems xs ys)
    | null | bool _ | int _ | float _ | str _ | obj _ => isFalse nofun
  | obj xs, b => match b with
    | obj ys => @decidable_of_iff _ (xs = ys) (by simp) (decEqMembers xs ys)
    | null | bool _ | int _ | float _ | str _ | arr _ => isFalse nofun

def decEqItems : ∀ xs ys : List Json, Decidable (xs = ys)
  | [], [] => isTrue rfl
  | [], _ :: _ => isFalse nofun
  | _ :: _, [] => isFalse nofun
  | x :: xs, y :: ys =>
    @decidable_of_iff _ (x = y ∧ xs = ys) (by simp)
      (@instDecidableAnd _ _ (decEq x y) (decEqItems xs ys))

def decEqMembers : ∀ xs ys : List (String × Json), Decidable (xs = ys)
  | [], [] => isTrue rfl
  | [], _ :: _ => isFalse nofun
  | _ :: _, [] => isFalse nofun
  | (key, value) :: xs, (key', value') :: ys =>
    @decidable_of_iff _ (key = key' ∧ value = value' ∧ xs = ys) (by simp [and_assoc])
      (@instDecidableAnd _ _ inferInstance
        (@instDecidableAnd _ _ (decEq value value') (decEqMembers xs ys)))

end

instance : DecidableEq Json := decEq
/-! ### Values whose objects have distinct keys -/

mutual

/-- No object in the value repeats a key. -/
def WellFormed : Json → Prop
  | arr items => WellFormedItems items
  | obj members => (members.map Prod.fst).Nodup ∧ WellFormedMembers members
  | _ => True

def WellFormedItems : List Json → Prop
  | [] => True
  | x :: xs => WellFormed x ∧ WellFormedItems xs

def WellFormedMembers : List (String × Json) → Prop
  | [] => True
  | (_, value) :: rest => WellFormed value ∧ WellFormedMembers rest

end

theorem find?_key_eq {members : List (String × Json)} (hnodup : (members.map Prod.fst).Nodup)
    {member : String × Json} (hmem : member ∈ members) :
    members.find? (fun m => m.1 == member.1) = some member := by
  induction members with
  | nil => cases hmem
  | cons m rest ih =>
    rw [List.map_cons, List.nodup_cons] at hnodup
    cases List.mem_cons.mp hmem with
    | inl heq =>
      subst heq
      simp
    | inr hrest =>
      have hne : m.1 ≠ member.1 := fun heq => hnodup.1 (heq ▸ List.mem_map_of_mem hrest)
      rw [List.find?_cons_of_neg (by simpa using hne), ih hnodup.2 hrest]

mutual

/-- Python's `==` holds between a value and itself. -/
theorem pyEq_refl : ∀ value : Json, value.WellFormed → pyEq value value = true
  | null, _ => rfl
  | bool b, _ => by simp [pyEq, number]
  | int n, _ => by simp [pyEq, number]
  | float v, _ => by simp [pyEq, number]
  | str s, _ => by simp [pyEq]
  | arr items, h => by
    rw [pyEq]
    exact pyEqItems_refl items h
  | obj members, h => by
    simp only [pyEq, beq_self_eq_true, Bool.true_and]
    exact pyEqMembers_of_subset members members h.2 fun m hm => find?_key_eq h.1 hm

theorem pyEqItems_refl : ∀ items : List Json, WellFormedItems items → pyEqItems items items = true
  | [], _ => rfl
  | x :: xs, h => by
    rw [pyEqItems, pyEq_refl x h.1, pyEqItems_refl xs h.2, Bool.and_self]

theorem pyEqMembers_of_subset : ∀ members all : List (String × Json),
    WellFormedMembers members →
    (∀ m ∈ members, all.find? (fun other => other.1 == m.1) = some m) →
    pyEqMembers members all = true
  | [], _, _, _ => rfl
  | (key, value) :: rest, all, h, hfind => by
    rw [pyEqMembers, hfind (key, value) (List.mem_cons_self ..)]
    simp only [pyEq_refl value h.1, Bool.true_and]
    exact pyEqMembers_of_subset rest all h.2 fun m hm => hfind m (List.mem_cons_of_mem _ hm)

end

@[simp]
theorem wellFormed_strings (values : List String) : (strings values).WellFormed := by
  rw [strings, WellFormed]
  induction values with
  | nil => trivial
  | cons x xs ih => exact ⟨trivial, ih⟩

theorem wellFormed_arr_map (f : α → Json) (xs : List α) (h : ∀ x ∈ xs, (f x).WellFormed) :
    (arr (xs.map f)).WellFormed := by
  rw [WellFormed]
  induction xs with
  | nil => trivial
  | cons x xs ih =>
    exact ⟨h x (List.mem_cons_self ..), ih fun y hy => h y (List.mem_cons_of_mem x hy)⟩

/-! ### Canonical text -/

def hexDigits (width n : Nat) : List Char :=
  (List.range width).map fun i => Nat.digitChar (n / 16 ^ (width - 1 - i) % 16)

/-- One character of a JSON string with `ensure_ascii=False`. -/
def escapeChar (c : Char) : List Char :=
  if c = '"' then ['\\', '"']
  else if c = '\\' then ['\\', '\\']
  else if c = '\n' then ['\\', 'n']
  else if c = '\r' then ['\\', 'r']
  else if c = '\t' then ['\\', 't']
  else if c.toNat = 12 then ['\\', 'f']
  else if c.toNat = 8 then ['\\', 'b']
  else if c.toNat < 32 then '\\' :: 'u' :: hexDigits 4 c.toNat
  else [c]

def quote (s : String) : List Char :=
  '"' :: (s.toList.flatMap escapeChar ++ ['"'])

/-- Parts joined by a comma. -/
def commaJoin : List (List Char) → List Char
  | [] => []
  | [x] => x
  | x :: xs => x ++ ',' :: commaJoin xs

mutual

/-- The characters of `json.dumps(value, ensure_ascii=False, separators=(",", ":"),
sort_keys=True)`. -/
def dumpChars : Json → List Char
  | null => "null".toList
  | bool value => (if value then "true" else "false").toList
  | int value => (toString value).toList
  | float value => value.text.toList
  | str value => quote value
  | arr items => '[' :: (commaJoin (dumpItems items) ++ [']'])
  | obj members =>
    '\x7b' :: (commaJoin ((sortByKey Prod.fst (dumpMembers members)).map Prod.snd) ++ ['\x7d'])

def dumpItems : List Json → List (List Char)
  | [] => []
  | x :: xs => dumpChars x :: dumpItems xs

def dumpMembers : List (String × Json) → List (String × List Char)
  | [] => []
  | (key, value) :: rest => (key, quote key ++ ':' :: dumpChars value) :: dumpMembers rest

end

def dumps (value : Json) : String := String.ofList value.dumpChars

end Json
end PlantNexus.Data
