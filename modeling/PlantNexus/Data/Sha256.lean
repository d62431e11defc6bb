import Mathlib.Algebra.Order.Ring.Nat
import Mathlib.Data.List.Basic

/-! SHA-256 of a text, as `hashlib.sha256(text.encode("utf-8")).hexdigest()`. -/
namespace PlantNexus.Data.Sha256

def rotateRight (x n : UInt32) : UInt32 := (x >>> n) ||| (x <<< (32 - n))

def roundConstants : List UInt32 :=
  [0x428a2f98, 0x71374491, 0xb5c0fbcf, 0xe9b5dba5, 0x3956c25b, 0x59f111f1, 0x923f82a4, 0xab1c5ed5,
   0xd807aa98, 0x12835b01, 0x243185be, 0x550c7dc3, 0x72be5d74, 0x80deb1fe, 0x9bdc06a7, 0xc19bf174,
   0xe49b69c1, 0xefbe4786, 0x0fc19dc6, 0x240ca1cc, 0x2de92c6f, 0x4a7484aa, 0x5cb0a9dc, 0x76f988da,
   0x983e5152, 0xa831c66d, 0xb00327c8, 0xbf597fc7, 0xc6e00bf3, 0xd5a79147, 0x06ca6351, 0x14292967,
   0x27b70a85, 0x2e1b2138, 0x4d2c6dfc, 0x53380d13, 0x650a7354, 0x766a0abb, 0x81c2c92e, 0x92722c85,
   0xa2bfe8a1, 0xa81a664b, 0xc24b8b70, 0xc76c51a3, 0xd192e819, 0xd6990624, 0xf40e3585, 0x106aa070,
   0x19a4c116, 0x1e376c08, 0x2748774c, 0x34b0bcb5, 0x391c0cb3, 0x4ed8aa4a, 0x5b9cca4f, 0x682e6ff3,
   0x748f82ee, 0x78a5636f, 0x84c87814, 0x8cc70208, 0x90befffa, 0xa4506ceb, 0xbef9a3f7, 0xc67178f2]

/-- The eight working words. -/
structure State where
  a : UInt32
  b : UInt32
  c : UInt32
  d : UInt32
  e : UInt32
  f : UInt32
  g : UInt32
  h : UInt32

def initial : State :=
  ⟨0x6a09e667, 0xbb67ae85, 0x3c6ef372, 0xa54ff53a, 0x510e527f, 0x9b05688c, 0x1f83d9ab, 0x5be0cd19⟩

def State.words (s : State) : List UInt32 := [s.a, s.b, s.c, s.d, s.e, s.f, s.g, s.h]

def State.add (s t : State) : State :=
  ⟨s.a + t.a, s.b + t.b, s.c + t.c, s.d + t.d, s.e + t.e, s.f + t.f, s.g + t.g, s.h + t.h⟩

/-- The message with its terminating bit and its length in bits. -/
def padded (bytes : List UInt8) : List UInt8 :=
  let zeros := (119 - bytes.length % 64) % 64
  bytes ++ 0x80 :: (List.replicate zeros 0 ++
    (List.range 8).map fun i => UInt8.ofNat (8 * bytes.length / 256 ^ (7 - i)))

/-- Big-endian words of a block. -/
def blockWords (block : List UInt8) : List UInt32 :=
  (List.range 16).map fun i =>
    (List.range 4).foldl (fun word j =>
      word <<< 8 ||| (block.getD (4 * i + j) 0).toUInt32) 0

/-- The schedule, newest word first. -/
def extendSchedule : Nat → List UInt32 → List UInt32
  | 0, words => words
  | n + 1, words =>
    let w15 := words.getD 14 0
    let w2 := words.getD 1 0
    let s0 := rotateRight w15 7 ^^^ rotateRight w15 18 ^^^ (w15 >>> 3)
    let s1 := rotateRight w2 17 ^^^ rotateRight w2 19 ^^^ (w2 >>> 10)
    extendSchedule n ((words.getD 15 0 + s0 + words.getD 6 0 + s1) :: words)

def roundStep (s : State) (constantAndWord : UInt32 × UInt32) : State :=
  let s1 := rotateRight s.e 6 ^^^ rotateRight s.e 11 ^^^ rotateRight s.e 25
  let choice := (s.e &&& s.f) ^^^ (~~~s.e &&& s.g)
  let temp1 := s.h + s1 + choice + constantAndWord.1 + constantAndWord.2
  let s0 := rotateRight s.a 2 ^^^ rotateRight s.a 13 ^^^ rotateRight s.a 22
  let majority := (s.a &&& s.b) ^^^ (s.a &&& s.c) ^^^ (s.b &&& s.c)
  ⟨temp1 + (s0 + majority), s.a, s.b, s.c, s.d + temp1, s.e, s.f, s.g⟩

def compress (s : State) (block : List UInt8) : State :=
  let schedule := (extendSchedule 48 (blockWords block).reverse).reverse
  s.add ((roundConstants.zip schedule).foldl roundStep s)

def digest (bytes : List UInt8) : State :=
  let message := padded bytes
  (List.range (message.length / 64)).foldl
    (fun s i => compress s ((message.drop (64 * i)).take 64)) initial

def hexWord (word : UInt32) : List Char :=
  (List.range 8).map fun i => Nat.digitChar (word.toNat / 16 ^ (7 - i) % 16)

/-- The lowercase hexadecimal digest of a text's UTF-8 bytes. -/
def hexdigest (text : String) : String :=
  String.ofList ((digest (text.toList.flatMap String.utf8EncodeChar)).words.flatMap hexWord)

theorem length_hexdigest (text : String) : (hexdigest text).length = 64 := by
  rw [hexdigest, String.length_ofList]
  rfl

/-- A digest is written in hexadecimal digits. -/
theorem mem_hexdigest (text : String) :
    ∀ c ∈ (hexdigest text).toList, ∃ n < 16, c = Nat.digitChar n := by
  intro c hc
  rw [hexdigest, String.toList_ofList, List.mem_flatMap] at hc
  obtain ⟨word, -, hc⟩ := hc
  obtain ⟨i, -, rfl⟩ := List.mem_map.mp hc
  exact ⟨_, Nat.mod_lt _ (by omega), rfl⟩

end PlantNexus.Data.Sha256
