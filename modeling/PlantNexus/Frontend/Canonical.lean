import PlantNexus.Data.JsonRead
import PlantNexus.Domain.WorkspaceContracts

/-! Canonical JSON in the front end.

A string is its UTF-16 code units. A parsed container keeps, beside its members, the canonical
text of each number that stands directly in it, because a JavaScript number does not tell an
integer literal from a float. The text that is parsed is a sequence of characters: no step of
the parser looks inside a surrogate pair. -/
namespace PlantNexus.Frontend
open Data JsonRead

/-- The code units of a text. -/
def units (text : String) : List Nat := Utf16.encode text.toList

/-- A finite number: a safe integer, or the double of another literal. -/
inductive JsNumber where
  | safe (value : Int)
  | double (value : FloatValue)
deriving DecidableEq, Repr

/-- `JsonValue`, with the number forms of its containers. -/
inductive JsValue where
  | null
  | bool (value : Bool)
  | number (value : JsNumber)
  | str (value : List Nat)
  | arr (items : List JsValue) (forms : List (List Nat × List Nat))
  | obj (members : List (List Nat × JsValue)) (forms : List (List Nat × List Nat))

/-- A `TypeError` with its message; `fuel` bounds the parser's recursion and is not reached. -/
inductive CanonicalError where
  | typeError (message : String)
  | fuel
deriving DecidableEq, Repr

def invalid : CanonicalError := .typeError "Invalid canonical JSON"

/-- `Number.MAX_SAFE_INTEGER` -/
def maxSafeInteger : Nat := 2 ^ 53 - 1

/-- `Map.get` -/
def formOf (forms : List (List Nat × List Nat)) (key : List Nat) : Option (List Nat) :=
  (dictGet Prod.fst forms key).map Prod.snd

/-! ### Strings -/

/-- `compareCodePoints` -/
def compareCodePoints (left right : List Nat) : Int :=
  let rec go : List Nat → List Nat → Option Int
    | l :: ls, r :: rs => if (l : Int) - r ≠ 0 then some ((l : Int) - r) else go ls rs
    | _, _ => none
  let leftPoints := Utf16.codePoints left
  let rightPoints := Utf16.codePoints right
  match go leftPoints rightPoints with
  | some difference => difference
  | none => (leftPoints.length : Int) - rightPoints.length

/-- One code unit under `JSON.stringify`. -/
def stringifyUnit (unit : Nat) : List Nat :=
  if unit = 34 then [92, 34]
  else if unit = 92 then [92, 92]
  else if unit = 10 then [92, 110]
  else if unit = 13 then [92, 114]
  else if unit = 9 then [92, 116]
  else if unit = 12 then [92, 102]
  else if unit = 8 then [92, 98]
  else if unit < 32 then 92 :: 117 :: (Json.hexDigits 4 unit).map Char.toNat
  else [unit]

/-- `JSON.stringify` of a string without a surrogate that stands alone. -/
def stringify (value : List Nat) : List Nat := 34 :: (value.flatMap stringifyUnit ++ [34])

/-- `quoted` -/
def quoted (value : List Nat) : Except CanonicalError (List Nat) := do
  require (Utf16.Paired value) (.typeError "Unpaired surrogate")
  return stringify value

/-- The code units that `JSON.parse` gives a string. -/
def pieceUnits (pieces : List Piece) : List Nat :=
  pieces.flatMap fun piece => match piece with
    | .char c => Utf16.encodeChar c
    | .escape unit => [unit]

/-- `string`: the slice up to the closing quote, parsed. -/
def parseString (cs : List Char) : Except CanonicalError (List Nat × List Char) :=
  match scanPieces cs with
  | some (pieces, rest) => do
    let _ ← quoted (pieceUnits pieces)
    return (pieceUnits pieces, rest)
  | none => .error invalid

/-! ### The parser -/

/-- What `parse` returns: the value, the form it leaves in its container, and the rest. -/
structure Parsed where
  value : JsValue
  form : Option (List Nat)
  rest : List Char

section
variable (float64 : List Char → Option FloatValue) (pythonFloat : FloatValue → String)

/-- A number literal. An integer that is rounded on the way to a double is not a safe one. -/
def parseNumber (token : NumberToken) : Except CanonicalError (JsNumber × List Nat) :=
  if token.tail ≠ [] then
    match float64 (token.integer ++ token.tail) with
    | some value => .ok (.double value, units (pythonFloat value))
    | none => .error (.typeError "Non-finite JSON number")
  else
    let value := integerValue token.integer
    if value.natAbs ≤ maxSafeInteger then .ok (.safe value, units (toString value))
    else .error (.typeError "Integer outside JavaScript safe range")

/-- A constant or a number. -/
def parseAtom (cs : List Char) : Except CanonicalError Parsed :=
  if "true".toList.isPrefixOf cs then .ok ⟨.bool true, none, cs.drop 4⟩
  else if "false".toList.isPrefixOf cs then .ok ⟨.bool false, none, cs.drop 5⟩
  else if "null".toList.isPrefixOf cs then .ok ⟨.null, none, cs.drop 4⟩
  else match scanNumber cs with
    | none => .error invalid
    | some (token, rest) => do
      let (value, form) ← parseNumber float64 pythonFloat token
      return ⟨.number value, some form, rest⟩

/-- `forms.set(key, ...)` -/
def setForm (forms : List (List Nat × List Nat)) (key : List Nat) (form : Option (List Nat)) :
    List (List Nat × List Nat) :=
  match form with
  | some form => forms ++ [(key, form)]
  | none => forms

mutual

/-- `parse` -/
def parseValue : Nat → List Char → Except CanonicalError Parsed
  | 0, _ => .error .fuel
  | fuel + 1, cs =>
    match skipBlanks cs with
    | '"' :: rest => do
      let (value, rest) ← parseString rest
      return ⟨.str value, none, rest⟩
    | '[' :: rest =>
      match skipBlanks rest with
      | ']' :: rest => .ok ⟨.arr [] [], none, rest⟩
      | rest => do
        let (items, forms, rest) ← parseItems fuel [] [] rest
        return ⟨.arr items forms, none, rest⟩
    | '\x7b' :: rest =>
      match skipBlanks rest with
      | '\x7d' :: rest => .ok ⟨.obj [] [], none, rest⟩
      | rest => do
        let (members, forms, rest) ← parseMembers fuel [] [] rest
        return ⟨.obj members forms, none, rest⟩
    | cs => parseAtom float64 pythonFloat cs

/-- The loop over an array, with the items and forms so far. -/
def parseItems : Nat → List JsValue → List (List Nat × List Nat) → List Char →
    Except CanonicalError (List JsValue × List (List Nat × List Nat) × List Char)
  | 0, _, _, _ => .error .fuel
  | fuel + 1, items, forms, cs => do
    let item ← parseValue fuel cs
    let forms := setForm forms (units (toString items.length)) item.form
    let items := items ++ [item.value]
    match skipBlanks item.rest with
    | ',' :: rest => parseItems fuel items forms rest
    | ']' :: rest => return (items, forms, rest)
    | _ => .error invalid

/-- The loop over an object, with the members and forms so far. -/
def parseMembers : Nat → List (List Nat × JsValue) → List (List Nat × List Nat) → List Char →
    Except CanonicalError (List (List Nat × JsValue) × List (List Nat × List Nat) × List Char)
  | 0, _, _, _ => .error .fuel
  | fuel + 1, members, forms, cs =>
    match skipBlanks cs with
    | '"' :: rest => do
      let (member, rest) ← parseString rest
      require (member ∉ members.map Prod.fst) (.typeError "Duplicate JSON key")
      match skipBlanks rest with
      | ':' :: rest => do
        let item ← parseValue fuel rest
        let forms := setForm forms member item.form
        let members := members ++ [(member, item.value)]
        match skipBlanks item.rest with
        | ',' :: rest => parseMembers fuel members forms rest
        | '\x7d' :: rest => return (members, forms, rest)
        | _ => .error invalid
      | _ => .error invalid
    | _ => .error invalid

end

/-- `parseCanonicalJson`, of the supported version. -/
def parseCanonicalJson (raw : List Char) : Except CanonicalError JsValue := do
  let result ← parseValue float64 pythonFloat (2 * raw.length + 1) raw
  match skipBlanks result.rest, result.value with
  | [], .obj members forms => return .obj members forms
  | _, _ => .error invalid

/-! ### The encoder -/

/-- `nativeNumber` -/
def nativeNumber (value : JsNumber) : Except CanonicalError (List Nat) :=
  match value with
  | .safe value => .ok (units (toString value))
  | .double value =>
    if value.text = "-0.0" ∨ value.num % value.den ≠ 0 then .ok (units (pythonFloat value))
    else if (value.num / value.den).natAbs ≤ maxSafeInteger then
      .ok (units (toString (value.num / value.den)))
    else .error (.typeError "Ambiguous JavaScript integer; use explicit canonical JSON text")

/-- Parts joined by a comma. -/
def join : List (List Nat) → List Nat
  | [] => []
  | [x] => x
  | x :: xs => x ++ 44 :: join xs

def indexDigits : List Nat → Nat → Option Nat
  | [], index => some index
  | unit :: rest, index =>
    if 48 ≤ unit ∧ unit ≤ 57 then indexDigits rest (10 * index + (unit - 48)) else none

/-- A key that is an array index, as its number. -/
def arrayIndex (key : List Nat) : Option Nat :=
  if key = [48] then some 0
  else if key = [] ∨ key.head? = some 48 then none
  else (indexDigits key 0).filter (· < 2 ^ 32 - 1)

/-- The order of `Object.keys`: array indices by number, then the rest as inserted. -/
def ownOrder {α : Type} (members : List (List Nat × α)) : List (List Nat × α) :=
  sortByKey (fun m => (arrayIndex m.1).getD 0)
      (members.filter fun m => (arrayIndex m.1).isSome) ++
    members.filter fun m => ¬(arrayIndex m.1).isSome

/-- `sort(compareCodePoints)` -/
def sortKeys {α : Type} (members : List (List Nat × α)) : List (List Nat × α) :=
  members.insertionSort fun a b => compareCodePoints a.1 b.1 ≤ 0

mutual

/-- `canonicalJson`. The members are rendered before they are sorted, which matters only for
which of two errors is raised. -/
def canonicalJson : JsValue → Except CanonicalError (List Nat)
  | .null => .ok (units "null")
  | .bool value => .ok (units (if value then "true" else "false"))
  | .str value => quoted value
  | .number value => nativeNumber pythonFloat value
  | .arr items forms => do
    let texts ← canonicalItems forms 0 items
    return 91 :: (join texts ++ [93])
  | .obj members forms => do
    let texts ← canonicalMembers forms members
    return 123 :: (join ((sortKeys (ownOrder texts)).map Prod.snd) ++ [125])

def canonicalItems (forms : List (List Nat × List Nat)) :
    Nat → List JsValue → Except CanonicalError (List (List Nat))
  | _, [] => .ok []
  | index, item :: items => do
    let text ← match formOf forms (units (toString index)) with
      | some form => pure form
      | none => canonicalJson item
    let texts ← canonicalItems forms (index + 1) items
    return text :: texts

def canonicalMembers (forms : List (List Nat × List Nat)) :
    List (List Nat × JsValue) → Except CanonicalError (List (List Nat × List Nat))
  | [] => .ok []
  | (key, item) :: members => do
    let name ← quoted key
    let text ← match formOf forms key with
      | some form => pure form
      | none => canonicalJson item
    let texts ← canonicalMembers forms members
    return (key, name ++ 58 :: text) :: texts

end

/-! ### Projections and fingerprints -/

/-- `canonicalProjection` -/
def canonicalProjection (document : JsValue) (fields : List String) :
    Except CanonicalError JsValue :=
  match document with
  | .obj members forms => do
    let selected ← collect
      (fun field =>
        match dictGet Prod.fst members (units field) with
        | some member => .ok member
        | none => .error (.typeError ("Fingerprint field is absent: " ++ field)))
      fields
    return .obj selected (fields.filterMap fun field =>
      (formOf forms (units field)).map fun form => (units field, form))
  | _ => .error (.typeError "Not a JSON object")

/-- `sha256Fingerprint` -/
def sha256Fingerprint (value : JsValue) : Except CanonicalError String := do
  let text ← canonicalJson pythonFloat value
  return "sha256:" ++ String.ofList
    ((Sha256.digest (Utf16.textEncode text)).words.flatMap Sha256.hexWord)

/-- The fingerprint of a projection; the provenance may be absent. -/
def projectionFingerprint (fields : List String) (document : JsValue) :
    Except CanonicalError String :=
  match document with
  | .obj members _ => do
    match dictGet Prod.fst members (units "canonicalization_version") with
    | some (_, .str version) =>
      require (version = units "canonical-json.v1")
        (.typeError "Unsupported canonicalization version")
      let projection ← canonicalProjection document (fields.filter fun field =>
        field ≠ "synthetic_provenance" ∨ (dictGet Prod.fst members (units field)).isSome)
      sha256Fingerprint pythonFloat projection
    | _ => .error (.typeError "Unsupported canonicalization version")
  | _ => .error (.typeError "Unsupported canonicalization version")

/-- `workspaceCommandFingerprint` -/
def workspaceCommandFingerprint (document : JsValue) : Except CanonicalError String :=
  projectionFingerprint pythonFloat Domain.commandFingerprintFields document

/-- `workspaceQueryFingerprint` -/
def workspaceQueryFingerprint (document : JsValue) : Except CanonicalError String :=
  projectionFingerprint pythonFloat Domain.queryFingerprintFields document

end
end PlantNexus.Frontend
