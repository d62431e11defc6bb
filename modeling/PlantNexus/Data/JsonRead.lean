import PlantNexus.Data.JsonText
import PlantNexus.Data.Utf16

/-! Reading JSON text.

The lexical part is the grammar's: blanks, the hexadecimal escape, number literals. `loads` is
the standard decoder with unique keys and finite numbers demanded of it; `float64` is the
nearest double of a literal, nothing where that is not finite. The decoder's recursion is
bounded by `fuel`, which twice the length of the text never exhausts. -/
namespace PlantNexus.Data.JsonRead

/-! ### Lexical grammar -/

def isBlank (c : Char) : Bool := c = ' ' || c = '\t' || c = '\n' || c = '\r'

def skipBlanks (cs : List Char) : List Char := cs.dropWhile isBlank

def hexDigit? (c : Char) : Option Nat :=
  if c.isDigit then some (c.toNat - 48)
  else if 'a' ≤ c ∧ c ≤ 'f' then some (c.toNat - 87)
  else if 'A' ≤ c ∧ c ≤ 'F' then some (c.toNat - 55)
  else none

/-- Four hexadecimal digits. -/
def hex4 : List Char → Option (Nat × List Char)
  | a :: b :: c :: d :: rest => do
    let a ← hexDigit? a
    let b ← hexDigit? b
    let c ← hexDigit? c
    let d ← hexDigit? d
    return (4096 * a + 256 * b + 16 * c + d, rest)
  | _ => none

/-- The character that a one-letter escape stands for. -/
def escapeLetter (c : Char) : Option Char :=
  if c = '"' ∨ c = '\\' ∨ c = '/' then some c
  else if c = 'b' then some (Char.ofNat 8)
  else if c = 'f' then some (Char.ofNat 12)
  else if c = 'n' then some '\n'
  else if c = 'r' then some '\r'
  else if c = 't' then some '\t'
  else none

/-- One element of a string: a character, or the code unit of a hexadecimal escape. -/
inductive Piece where
  | char (c : Char)
  | escape (unit : Nat)
deriving DecidableEq, Repr

/-- A string after its opening quote, up to the closing one. -/
def scanPieces : List Char → Option (List Piece × List Char)
  | [] => none
  | c :: rest =>
    if c = '"' then some ([], rest)
    else if c = '\\' then
      match rest with
      | 'u' :: h₁ :: h₂ :: h₃ :: h₄ :: rest => do
        let (unit, _) ← hex4 [h₁, h₂, h₃, h₄]
        let (pieces, rest) ← scanPieces rest
        return (.escape unit :: pieces, rest)
      | e :: rest => do
        let letter ← escapeLetter e
        let (pieces, rest) ← scanPieces rest
        return (.char letter :: pieces, rest)
      | [] => none
    else if c.toNat < 32 then none
    else do
      let (pieces, rest) ← scanPieces rest
      return (.char c :: pieces, rest)

/-- The code points of a decoded string: two escapes that form a surrogate pair are one. -/
def points : List Piece → List Nat
  | [] => []
  | .char c :: rest => c.toNat :: points rest
  | [.escape unit] => [unit]
  | .escape unit :: .char c :: rest => unit :: points (.char c :: rest)
  | .escape unit :: .escape next :: rest =>
    if Utf16.IsHigh unit ∧ Utf16.IsLow next then Utf16.pairPoint unit next :: points rest
    else unit :: points (.escape next :: rest)

/-- A number literal: its integer part, and its fraction and exponent. -/
structure NumberToken where
  integer : List Char
  tail : List Char
deriving DecidableEq, Repr

/-- `-?(0|[1-9][0-9]*)` -/
def scanInteger (cs : List Char) : Option (List Char × List Char) :=
  let sign := if cs.head? = some '-' then ['-'] else []
  match cs.drop sign.length with
  | '0' :: rest => some (sign ++ ['0'], rest)
  | c :: rest =>
    if c.isDigit then
      some (sign ++ c :: rest.takeWhile Char.isDigit, rest.dropWhile Char.isDigit)
    else none
  | [] => none

/-- `(\.[0-9]+)?` -/
def scanFraction (cs : List Char) : List Char × List Char :=
  match cs with
  | '.' :: c :: rest =>
    if c.isDigit then
      ('.' :: c :: rest.takeWhile Char.isDigit, rest.dropWhile Char.isDigit)
    else ([], cs)
  | _ => ([], cs)

/-- `([eE][+-]?[0-9]+)?` -/
def scanExponent (cs : List Char) : List Char × List Char :=
  match cs with
  | e :: rest =>
    if e = 'e' ∨ e = 'E' then
      let sign := match rest with
        | '+' :: _ => ['+']
        | '-' :: _ => ['-']
        | _ => []
      match rest.drop sign.length with
      | c :: digits =>
        if c.isDigit then
          (e :: sign ++ c :: digits.takeWhile Char.isDigit, digits.dropWhile Char.isDigit)
        else ([], cs)
      | [] => ([], cs)
    else ([], cs)
  | [] => ([], cs)

def scanNumber (cs : List Char) : Option (NumberToken × List Char) := do
  let (integer, rest) ← scanInteger cs
  let (fraction, rest) := scanFraction rest
  let (exponent, rest) := scanExponent rest
  return (⟨integer, fraction ++ exponent⟩, rest)

/-- The value of an integer part. -/
def integerValue (integer : List Char) : Int :=
  match integer with
  | '-' :: digits => -(Nat.ofDigitChars 10 digits 0 : Int)
  | digits => (Nat.ofDigitChars 10 digits 0 : Int)

/-! ### The standard decoder -/

inductive ReadError where
  | malformed
  | duplicateKey
  | nonFinite
  | surrogate
  | fuel
deriving DecidableEq, Repr

/-- The text of a decoded string. A surrogate that stands alone has no text; the standard
decoder keeps it and the encoding to UTF-8 fails. -/
def stringOf (pieces : List Piece) : Except ReadError String :=
  if ∀ point ∈ points pieces, point.isValidChar then
    .ok (String.ofList ((points pieces).map Utf16.scalar))
  else .error .surrogate

def readString (cs : List Char) : Except ReadError (String × List Char) :=
  match scanPieces cs with
  | some (pieces, rest) => do
    let text ← stringOf pieces
    return (text, rest)
  | none => .error .malformed

section
variable (float64 : List Char → Option FloatValue)

/-- The constant or the number at the front of the text. -/
def readAtom (cs : List Char) : Except ReadError (Json × List Char) :=
  if "null".toList.isPrefixOf cs then .ok (.null, cs.drop 4)
  else if "true".toList.isPrefixOf cs then .ok (.bool true, cs.drop 4)
  else if "false".toList.isPrefixOf cs then .ok (.bool false, cs.drop 5)
  else match scanNumber cs with
    | none => .error .malformed
    | some (token, rest) =>
      if token.tail = [] then .ok (.int (integerValue token.integer), rest)
      else match float64 (token.integer ++ token.tail) with
        | some value => .ok (.float value, rest)
        | none => .error .nonFinite

mutual

/-- `scan_once` -/
def readValue : Nat → List Char → Except ReadError (Json × List Char)
  | 0, _ => .error .fuel
  | fuel + 1, cs =>
    match cs with
    | '"' :: rest => do
      let (text, rest) ← readString rest
      return (.str text, rest)
    | '[' :: rest =>
      match skipBlanks rest with
      | ']' :: rest => .ok (.arr [], rest)
      | rest => do
        let (items, rest) ← readItems fuel rest
        return (.arr items, rest)
    | '\x7b' :: rest =>
      match skipBlanks rest with
      | '\x7d' :: rest => .ok (.obj [], rest)
      | rest => do
        let (members, rest) ← readMembers fuel rest
        if (members.map Prod.fst).Nodup then return (.obj members, rest)
        else .error .duplicateKey
    | cs => readAtom float64 cs

/-- The items of an array up to its closing bracket. -/
def readItems : Nat → List Char → Except ReadError (List Json × List Char)
  | 0, _ => .error .fuel
  | fuel + 1, cs => do
    let (value, rest) ← readValue fuel cs
    match skipBlanks rest with
    | ']' :: rest => return ([value], rest)
    | ',' :: rest => do
      let (items, rest) ← readItems fuel (skipBlanks rest)
      return (value :: items, rest)
    | _ => .error .malformed

/-- The members of an object up to its closing brace. -/
def readMembers : Nat → List Char → Except ReadError (List (String × Json) × List Char)
  | 0, _ => .error .fuel
  | fuel + 1, cs =>
    match cs with
    | '"' :: rest => do
      let (key, rest) ← readString rest
      match skipBlanks rest with
      | ':' :: rest => do
        let (value, rest) ← readValue fuel (skipBlanks rest)
        match skipBlanks rest with
        | '\x7d' :: rest => return ([(key, value)], rest)
        | ',' :: rest => do
          let (members, rest) ← readMembers fuel (skipBlanks rest)
          return ((key, value) :: members, rest)
        | _ => .error .malformed
      | _ => .error .malformed
    | _ => .error .malformed

end

/-- `json.loads`, with unique keys and finite numbers. -/
def loads (text : List Char) : Except ReadError Json := do
  let (value, rest) ← readValue float64 (2 * text.length + 1) (skipBlanks text)
  if skipBlanks rest = [] then return value else .error .malformed

end
end PlantNexus.Data.JsonRead
