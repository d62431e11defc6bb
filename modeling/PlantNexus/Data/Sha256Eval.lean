import PlantNexus.Data.Sha256
import Mathlib.Tactic.Common

/-! The digest in a form that the kernel computes.

The words of `digest` are machine words; unfolded in the kernel they grow with every round. Here
they are natural numbers, each forced to a numeral as soon as it is known (`force`), and the
loops are recursors. `natDigest_eq` says that the result is the digest. -/
namespace PlantNexus.Data.Sha256

/-- Hand on a number as a numeral. -/
def force {α : Type} (n : Nat) (next : Nat → α) : α :=
  Nat.casesOn n (next .zero) fun m => next (.succ m)

@[simp]
theorem force_eq {α : Type} (n : Nat) (next : Nat → α) : force n next = next n := by
  cases n <;> rfl

/-! ### Rounds -/

def rotateNat (x n : Nat) : Nat :=
  Nat.lor (Nat.shiftRight x n) (Nat.mod (Nat.shiftLeft x (Nat.sub 32 n)) 4294967296)

theorem rotateRight_toNat (x n : UInt32) (h0 : 0 < n.toNat) (h : n.toNat < 32) :
    (rotateRight x n).toNat = rotateNat x.toNat n.toNat := by
  have hle : n ≤ 32 := by
    rw [UInt32.le_iff_toNat_le]
    exact h.le
  rw [rotateRight, UInt32.toNat_or, UInt32.toNat_shiftRight, UInt32.toNat_shiftLeft,
    UInt32.toNat_sub_of_le _ _ hle, Nat.mod_eq_of_lt h]
  have h32 : UInt32.toNat 32 = 32 := rfl
  rw [h32, Nat.mod_eq_of_lt (show 32 - n.toNat < 32 by omega)]
  rfl

/-- One round; the two words that are new are handed on. -/
def natRound {α : Type} (k w a b c d e f g h : Nat) (next : Nat → Nat → α) : α :=
  force
    (Nat.add (Nat.add (Nat.add (Nat.add h
      (Nat.xor (Nat.xor (rotateNat e 6) (rotateNat e 11)) (rotateNat e 25)))
      (Nat.xor (Nat.land e f) (Nat.land (Nat.sub 4294967295 e) g))) k) w) fun temp1 =>
  force
    (Nat.mod (Nat.add temp1 (Nat.add
      (Nat.xor (Nat.xor (rotateNat a 2) (rotateNat a 13)) (rotateNat a 22))
      (Nat.xor (Nat.xor (Nat.land a b) (Nat.land a c)) (Nat.land b c)))) 4294967296) fun a' =>
  force (Nat.mod (Nat.add d temp1) 4294967296) fun e' => next a' e'

theorem natRound_eq {α : Type} (s : State) (k w : UInt32) (next : Nat → Nat → α) :
    natRound k.toNat w.toNat s.a.toNat s.b.toNat s.c.toNat s.d.toNat s.e.toNat s.f.toNat
        s.g.toNat s.h.toNat next =
      next (roundStep s (k, w)).a.toNat (roundStep s (k, w)).e.toNat := by
  have h6 := rotateRight_toNat s.e 6 (by decide) (by decide)
  have h11 := rotateRight_toNat s.e 11 (by decide) (by decide)
  have h25 := rotateRight_toNat s.e 25 (by decide) (by decide)
  have h2 := rotateRight_toNat s.a 2 (by decide) (by decide)
  have h13 := rotateRight_toNat s.a 13 (by decide) (by decide)
  have h22 := rotateRight_toNat s.a 22 (by decide) (by decide)
  have hs1 : (rotateRight s.e 6 ^^^ rotateRight s.e 11 ^^^ rotateRight s.e 25).toNat =
      Nat.xor (Nat.xor (rotateNat s.e.toNat 6) (rotateNat s.e.toNat 11))
        (rotateNat s.e.toNat 25) := by
    rw [UInt32.toNat_xor, UInt32.toNat_xor, h6, h11, h25]
    rfl
  have hs0 : (rotateRight s.a 2 ^^^ rotateRight s.a 13 ^^^ rotateRight s.a 22).toNat =
      Nat.xor (Nat.xor (rotateNat s.a.toNat 2) (rotateNat s.a.toNat 13))
        (rotateNat s.a.toNat 22) := by
    rw [UInt32.toNat_xor, UInt32.toNat_xor, h2, h13, h22]
    rfl
  have hchoice : ((s.e &&& s.f) ^^^ (~~~s.e &&& s.g)).toNat =
      Nat.xor (Nat.land s.e.toNat s.f.toNat)
        (Nat.land (Nat.sub 4294967295 s.e.toNat) s.g.toNat) := by
    rw [UInt32.toNat_xor, UInt32.toNat_and, UInt32.toNat_and, UInt32.toNat_not]
    rfl
  have hmajority : ((s.a &&& s.b) ^^^ (s.a &&& s.c) ^^^ (s.b &&& s.c)).toNat =
      Nat.xor (Nat.xor (Nat.land s.a.toNat s.b.toNat) (Nat.land s.a.toNat s.c.toNat))
        (Nat.land s.b.toNat s.c.toNat) := by
    rw [UInt32.toNat_xor, UInt32.toNat_xor, UInt32.toNat_and, UInt32.toNat_and, UInt32.toNat_and]
    rfl
  unfold natRound
  rw [force_eq, force_eq, force_eq, ← hs1, ← hs0, ← hchoice, ← hmajority]
  simp only [roundStep]
  generalize rotateRight s.e 6 ^^^ rotateRight s.e 11 ^^^ rotateRight s.e 25 = s1
  generalize rotateRight s.a 2 ^^^ rotateRight s.a 13 ^^^ rotateRight s.a 22 = s0
  generalize (s.e &&& s.f) ^^^ (~~~s.e &&& s.g) = choice
  generalize (s.a &&& s.b) ^^^ (s.a &&& s.c) ^^^ (s.b &&& s.c) = majority
  have hmod : ∀ x y : Nat, Nat.mod x y = x % y := fun _ _ => rfl
  simp only [UInt32.toNat_add, Nat.add_eq, hmod]
  congr 1 <;> omega

/-- What is done with the eight words. -/
abbrev Continuation (α : Type) : Type := Nat → Nat → Nat → Nat → Nat → Nat → Nat → Nat → α

def State.feed {α : Type} (s : State) (next : Continuation α) : α :=
  next s.a.toNat s.b.toNat s.c.toNat s.d.toNat s.e.toNat s.f.toNat s.g.toNat s.h.toNat

noncomputable def natRounds {α : Type} (next : Continuation α) (pairs : List (Nat × Nat)) :
    Continuation α :=
  List.rec next
    (fun pair _ rest a b c d e f g h =>
      natRound pair.1 pair.2 a b c d e f g h fun a' e' => rest a' a b c e' e f g) pairs

theorem natRounds_eq {α : Type} (next : Continuation α) (pairs : List (UInt32 × UInt32))
    (s : State) :
    s.feed (natRounds next (pairs.map fun pair => (pair.1.toNat, pair.2.toNat))) =
      (pairs.foldl roundStep s).feed next := by
  induction pairs generalizing s with
  | nil => rfl
  | cons pair pairs ih =>
    rw [List.foldl_cons, ← ih]
    exact natRound_eq s pair.1 pair.2 _

/-! ### The schedule -/

/-- The next word of a schedule, put in front. -/
def natScheduleStep {α : Type} (rest : List Nat → α) (words : List Nat) : α :=
  force (words.getD 14 0) fun w15 =>
  force (words.getD 1 0) fun w2 =>
  force
    (Nat.mod (Nat.add (Nat.add (Nat.add (words.getD 15 0)
      (Nat.xor (Nat.xor (rotateNat w15 7) (rotateNat w15 18)) (Nat.shiftRight w15 3)))
      (words.getD 6 0))
      (Nat.xor (Nat.xor (rotateNat w2 17) (rotateNat w2 19)) (Nat.shiftRight w2 10)))
      4294967296) fun w => rest (w :: words)

noncomputable def natSchedule {α : Type} (next : List Nat → α) (n : Nat) : List Nat → α :=
  Nat.rec next (fun _ rest => natScheduleStep rest) n

theorem getD_map_toNat (words : List UInt32) (i : Nat) :
    (words.map UInt32.toNat).getD i 0 = (words.getD i 0).toNat := by
  rw [List.getD_eq_getElem?_getD, List.getD_eq_getElem?_getD, List.getElem?_map]
  cases words[i]? <;> rfl

theorem natSchedule_eq {α : Type} (next : List Nat → α) (n : Nat) (words : List UInt32) :
    natSchedule next n (words.map UInt32.toNat) =
      next ((extendSchedule n words).map UInt32.toNat) := by
  induction n generalizing words with
  | zero => rfl
  | succ n ih =>
    rw [extendSchedule, ← ih]
    have h7 := rotateRight_toNat (words.getD 14 0) 7 (by decide) (by decide)
    have h18 := rotateRight_toNat (words.getD 14 0) 18 (by decide) (by decide)
    have h17 := rotateRight_toNat (words.getD 1 0) 17 (by decide) (by decide)
    have h19 := rotateRight_toNat (words.getD 1 0) 19 (by decide) (by decide)
    show natScheduleStep (natSchedule next n) _ =
      natSchedule next n (UInt32.toNat _ :: words.map UInt32.toNat)
    rw [natScheduleStep, force_eq, force_eq, force_eq, getD_map_toNat, getD_map_toNat, getD_map_toNat,
      getD_map_toNat]
    congr 2
    simp only [UInt32.toNat_add, UInt32.toNat_xor, UInt32.toNat_shiftRight, h7, h18, h17, h19]
    have hmod : ∀ x y : Nat, Nat.mod x y = x % y := fun _ _ => rfl
    have hxor : ∀ x y : Nat, Nat.xor x y = x ^^^ y := fun _ _ => rfl
    have hshift : ∀ x y : Nat, Nat.shiftRight x y = x >>> y := fun _ _ => rfl
    have h3 : UInt32.toNat 3 % 32 = 3 := rfl
    have h10 : UInt32.toNat 10 % 32 = 10 := rfl
    have h7' : UInt32.toNat 7 = 7 := rfl
    have h18' : UInt32.toNat 18 = 18 := rfl
    have h17' : UInt32.toNat 17 = 17 := rfl
    have h19' : UInt32.toNat 19 = 19 := rfl
    simp only [Nat.add_eq, hmod, hxor, hshift, h3, h10, h7', h18', h17', h19']
    generalize (words.getD 15 0).toNat = x
    generalize (words.getD 6 0).toNat = y
    generalize rotateNat (words.getD 14 0).toNat 7 ^^^ rotateNat (words.getD 14 0).toNat 18 ^^^
      (words.getD 14 0).toNat >>> 3 = z
    generalize rotateNat (words.getD 1 0).toNat 17 ^^^ rotateNat (words.getD 1 0).toNat 19 ^^^
      (words.getD 1 0).toNat >>> 10 = t
    omega

/-! ### Words of a block -/

def pushByte (word : UInt32) (byte : UInt8) : UInt32 := word <<< 8 ||| byte.toUInt32

def byteWord (bytes : List UInt8) : UInt32 :=
  (List.range 4).foldl (fun word j => pushByte word (bytes.getD j 0)) 0

theorem pushByte_toNat (word : UInt32) (byte : UInt8) (h : word.toNat < 2 ^ 24) :
    (pushByte word byte).toNat = word.toNat * 256 + byte.toNat := by
  have hb : byte.toNat < 2 ^ 8 := UInt8.toNat_lt byte
  have h8 : UInt32.toNat 8 % 32 = 8 := rfl
  rw [pushByte, UInt32.toNat_or, UInt32.toNat_shiftLeft, h8, UInt8.toNat_toUInt32,
    Nat.mod_eq_of_lt (by rw [Nat.shiftLeft_eq]; omega),
    ← Nat.shiftLeft_add_eq_or_of_lt hb, Nat.shiftLeft_eq]

theorem byteWord_toNat (b0 b1 b2 b3 : UInt8) (rest : List UInt8) :
    (byteWord (b0 :: b1 :: b2 :: b3 :: rest)).toNat =
      ((b0.toNat * 256 + b1.toNat) * 256 + b2.toNat) * 256 + b3.toNat := by
  have h0 := UInt8.toNat_lt b0
  have h1 := UInt8.toNat_lt b1
  have h2 := UInt8.toNat_lt b2
  have e0 : (pushByte 0 b0).toNat = b0.toNat := by
    rw [pushByte_toNat 0 b0 (by decide)]
    simp
  have e1 := pushByte_toNat (pushByte 0 b0) b1 (by omega)
  have e2 := pushByte_toNat (pushByte (pushByte 0 b0) b1) b2 (by omega)
  have e3 := pushByte_toNat (pushByte (pushByte (pushByte 0 b0) b1) b2) b3 (by omega)
  rw [e2, e1, e0] at e3
  exact e3

/-- The next word of a block, from four bytes. -/
def natWordStep {α : Type} (next : List Nat → List Nat → α) (rest : List Nat → List Nat → α)
    (words bytes : List Nat) : α :=
  match bytes with
  | b0 :: b1 :: b2 :: b3 :: bytes =>
    force (Nat.add (Nat.mul (Nat.add (Nat.mul (Nat.add (Nat.mul b0 256) b1) 256) b2) 256) b3)
      fun word => rest (word :: words) bytes
  | bytes => next words bytes

noncomputable def natWords {α : Type} (next : List Nat → List Nat → α) (n : Nat) :
    List Nat → List Nat → α :=
  Nat.rec next (fun _ rest => natWordStep next rest) n

theorem natWords_succ {α : Type} (next : List Nat → List Nat → α) (n : Nat) :
    natWords next (n + 1) = natWordStep next (natWords next n) := rfl

/-- The first words of a byte sequence. -/
def wordsOf (n : Nat) (bytes : List UInt8) : List UInt32 :=
  (List.range n).map fun i => byteWord (bytes.drop (4 * i))

theorem natWords_eq {α : Type} (next : List Nat → List Nat → α) (n : Nat) (words : List Nat)
    (bytes : List UInt8) (h : 4 * n ≤ bytes.length) :
    natWords next n words (bytes.map UInt8.toNat) =
      next ((wordsOf n bytes).reverse.map UInt32.toNat ++ words)
        ((bytes.drop (4 * n)).map UInt8.toNat) := by
  induction n generalizing words bytes with
  | zero => simp [natWords, wordsOf]
  | succ n ih =>
    match bytes, h with
    | b0 :: b1 :: b2 :: b3 :: bytes, h =>
      have hlength : 4 * n ≤ bytes.length := by
        simp only [List.length_cons] at h
        omega
      simp only [natWords_succ, List.map_cons, natWordStep, force_eq]
      rw [ih _ bytes hlength]
      have hwords : wordsOf (n + 1) (b0 :: b1 :: b2 :: b3 :: bytes) =
          byteWord (b0 :: b1 :: b2 :: b3 :: bytes) :: wordsOf n bytes := by
        rw [wordsOf, List.range_succ_eq_map, List.map_cons, List.map_map]
        rfl
      rw [hwords, List.reverse_cons, List.map_append, List.append_assoc]
      congr 2
      rw [List.map_singleton, byteWord_toNat]
      rfl

theorem wordsOf_block (bytes : List UInt8) :
    wordsOf 16 bytes = blockWords (bytes.take 64) := by
  unfold wordsOf blockWords byteWord
  apply List.map_congr_left
  intro i hi
  rw [List.mem_range] at hi
  apply List.foldl_ext
  intro word j hj
  rw [List.mem_range] at hj
  have hbyte : (bytes.drop (4 * i)).getD j 0 = (bytes.take 64).getD (4 * i + j) 0 := by
    rw [List.getD_eq_getElem?_getD, List.getD_eq_getElem?_getD, List.getElem?_drop,
      List.getElem?_take_of_lt (by omega)]
  rw [hbyte]
  rfl

/-! ### Blocks -/

def natConstants : List Nat :=
  [0x428a2f98, 0x71374491, 0xb5c0fbcf, 0xe9b5dba5, 0x3956c25b, 0x59f111f1, 0x923f82a4, 0xab1c5ed5,
   0xd807aa98, 0x12835b01, 0x243185be, 0x550c7dc3, 0x72be5d74, 0x80deb1fe, 0x9bdc06a7, 0xc19bf174,
   0xe49b69c1, 0xefbe4786, 0x0fc19dc6, 0x240ca1cc, 0x2de92c6f, 0x4a7484aa, 0x5cb0a9dc, 0x76f988da,
   0x983e5152, 0xa831c66d, 0xb00327c8, 0xbf597fc7, 0xc6e00bf3, 0xd5a79147, 0x06ca6351, 0x14292967,
   0x27b70a85, 0x2e1b2138, 0x4d2c6dfc, 0x53380d13, 0x650a7354, 0x766a0abb, 0x81c2c92e, 0x92722c85,
   0xa2bfe8a1, 0xa81a664b, 0xc24b8b70, 0xc76c51a3, 0xd192e819, 0xd6990624, 0xf40e3585, 0x106aa070,
   0x19a4c116, 0x1e376c08, 0x2748774c, 0x34b0bcb5, 0x391c0cb3, 0x4ed8aa4a, 0x5b9cca4f, 0x682e6ff3,
   0x748f82ee, 0x78a5636f, 0x84c87814, 0x8cc70208, 0x90befffa, 0xa4506ceb, 0xbef9a3f7, 0xc67178f2]

theorem natConstants_eq : natConstants = roundConstants.map UInt32.toNat := by decide

/-- The words after a block, from those before it and those of its last round. -/
def natAdd {α : Type} (next : Continuation α) (a b c d e f g h a' b' c' d' e' f' g' h' : Nat) : α :=
  force (Nat.mod (Nat.add a a') 4294967296) fun a =>
  force (Nat.mod (Nat.add b b') 4294967296) fun b =>
  force (Nat.mod (Nat.add c c') 4294967296) fun c =>
  force (Nat.mod (Nat.add d d') 4294967296) fun d =>
  force (Nat.mod (Nat.add e e') 4294967296) fun e =>
  force (Nat.mod (Nat.add f f') 4294967296) fun f =>
  force (Nat.mod (Nat.add g g') 4294967296) fun g =>
  force (Nat.mod (Nat.add h h') 4294967296) fun h => next a b c d e f g h

/-- One block; the bytes that are left are handed on. -/
noncomputable def natBlock {α : Type} (rest : List Nat → Continuation α) (bytes : List Nat) :
    Continuation α := fun a b c d e f g h =>
  natWords (fun words bytes =>
    natSchedule (fun schedule =>
      natRounds (natAdd (rest bytes) a b c d e f g h) (natConstants.zip schedule.reverse)
        a b c d e f g h) 48 words) 16 [] bytes

noncomputable def natBlocks {α : Type} (next : Continuation α) (n : Nat) :
    List Nat → Continuation α :=
  Nat.rec (fun _ => next) (fun _ rest => natBlock rest) n

theorem natBlock_eq {α : Type} (rest : List Nat → Continuation α) (bytes : List UInt8) (s : State)
    (h : 64 ≤ bytes.length) :
    s.feed (natBlock rest (bytes.map UInt8.toNat)) =
      (compress s (bytes.take 64)).feed (rest ((bytes.drop 64).map UInt8.toNat)) := by
  have hadd : ∀ t : State, ∀ next : Continuation α,
      t.feed (s.feed (natAdd next)) = (s.add t).feed next := by
    intro t next
    simp only [State.feed, natAdd, force_eq, State.add, UInt32.toNat_add]
    rfl
  have hzip : ∀ schedule : List UInt32,
      natConstants.zip ((schedule.map UInt32.toNat).reverse) =
        (roundConstants.zip schedule.reverse).map fun pair => (pair.1.toNat, pair.2.toNat) := by
    intro schedule
    rw [natConstants_eq, ← List.map_reverse, List.zip_map]
    rfl
  rw [compress, ← wordsOf_block, ← hadd, ← natRounds_eq, ← hzip]
  show natWords _ 16 [] (bytes.map UInt8.toNat) = _
  rw [natWords_eq _ 16 [] bytes (by omega), List.append_nil]
  show natSchedule _ 48 _ = _
  rw [natSchedule_eq]
  rfl

theorem natBlocks_eq {α : Type} (next : Continuation α) (n : Nat) (bytes : List UInt8) (s : State)
    (h : 64 * n ≤ bytes.length) :
    s.feed (natBlocks next n (bytes.map UInt8.toNat)) =
      ((List.range n).foldl (fun s i => compress s ((bytes.drop (64 * i)).take 64)) s).feed
        next := by
  induction n generalizing bytes s with
  | zero => rfl
  | succ n ih =>
    show s.feed (natBlock (natBlocks next n) (bytes.map UInt8.toNat)) = _
    rw [natBlock_eq _ _ _ (by omega), ih _ _ (by rw [List.length_drop]; omega),
      List.range_succ_eq_map, List.foldl_cons, List.foldl_map]
    have hdrop : ∀ i, (bytes.drop 64).drop (64 * i) = bytes.drop (64 * i.succ) := by
      intro i
      rw [List.drop_drop]
      congr 1
      omega
    simp only [hdrop, Nat.mul_zero, List.drop_zero]

/-! ### The digest -/

/-- The message with its padding. -/
def natPadded (bytes : List Nat) : List Nat :=
  bytes ++ 128 :: (List.replicate ((119 - bytes.length % 64) % 64) 0 ++
    (List.range 8).map fun i => 8 * bytes.length / 256 ^ (7 - i) % 256)

theorem natPadded_eq (bytes : List UInt8) :
    natPadded (bytes.map UInt8.toNat) = (padded bytes).map UInt8.toNat := by
  unfold natPadded padded
  rw [List.length_map]
  simp only [List.map_append, List.map_cons, List.map_replicate, List.map_map]
  congr 3

theorem length_padded (bytes : List UInt8) :
    (padded bytes).length = 64 * ((bytes.length + 72) / 64) := by
  simp only [padded, List.length_append, List.length_cons, List.length_replicate, List.length_map,
    List.length_range]
  omega

/-- The hexadecimal digits of a word. -/
def natHexWord (word : Nat) : List Char :=
  [28, 24, 20, 16, 12, 8, 4, 0].map fun shift =>
    Nat.digitChar (Nat.mod (Nat.shiftRight word shift) 16)

theorem natHexWord_eq (word : UInt32) : natHexWord word.toNat = hexWord word := by
  unfold natHexWord hexWord
  have hshift : ∀ x y : Nat, Nat.shiftRight x y = x / 2 ^ y := Nat.shiftRight_eq_div_pow
  simp only [hshift, List.map_cons, List.map_nil]
  rfl

noncomputable def natDigest (bytes : List Nat) : List Char :=
  natBlocks
    (fun a b c d e f g h =>
      natHexWord a ++ (natHexWord b ++ (natHexWord c ++ (natHexWord d ++ (natHexWord e ++
        (natHexWord f ++ (natHexWord g ++ natHexWord h)))))))
    (Nat.div (Nat.add bytes.length 72) 64) (natPadded bytes)
    0x6a09e667 0xbb67ae85 0x3c6ef372 0xa54ff53a 0x510e527f 0x9b05688c 0x1f83d9ab 0x5be0cd19

/-- The computed digits are those of the digest. -/
theorem natDigest_eq (chars : List Char) :
    String.ofList (natDigest ((chars.flatMap String.utf8EncodeChar).map UInt8.toNat)) =
      hexdigest (String.ofList chars) := by
  rw [hexdigest, String.toList_ofList]
  generalize chars.flatMap String.utf8EncodeChar = bytes
  congr 1
  rw [natDigest, List.length_map, natPadded_eq]
  have hlength := length_padded bytes
  have h := natBlocks_eq (fun a b c d e f g h =>
      natHexWord a ++ (natHexWord b ++ (natHexWord c ++ (natHexWord d ++ (natHexWord e ++
        (natHexWord f ++ (natHexWord g ++ natHexWord h)))))))
    ((bytes.length + 72) / 64) (padded bytes) initial (by omega)
  refine Eq.trans h ?_
  rw [digest]
  have hcount : (padded bytes).length / 64 = (bytes.length + 72) / 64 := by omega
  simp only [hcount, State.feed, natHexWord_eq, State.words, List.flatMap_cons, List.flatMap_nil,
    List.append_nil]

end PlantNexus.Data.Sha256
