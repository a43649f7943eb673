import Mathlib.Data.List.Basic
import Mathlib.Tactic.IntervalCases

/-!
# Sha256 — the digest behind activity tokens

SHA-256 over a list of bytes.  A word is a natural number below `2 ^ 32`; every
sum is reduced where it is formed, so the kernel computes digests with its own
arithmetic.  What other modules use of a digest is its alphabet and its length.
-/

namespace ControlPlaneKit.Library.Sha256

/-! ## Words -/

/-- Words have 32 bits. -/
def wordModulus : Nat := 4294967296

/-- A word turned right. -/
def rotr (x n : Nat) : Nat := (x >>> n ||| x <<< (32 - n)) % wordModulus

/-- Bits of `y` where those of `x` are set, and of `z` elsewhere. -/
def ch (x y z : Nat) : Nat := (x &&& y) ^^^ ((wordModulus - 1 - x) &&& z)

/-- The bit that two of three words have. -/
def maj (x y z : Nat) : Nat := (x &&& y) ^^^ (x &&& z) ^^^ (y &&& z)

def bigSigma0 (x : Nat) : Nat := rotr x 2 ^^^ rotr x 13 ^^^ rotr x 22

def bigSigma1 (x : Nat) : Nat := rotr x 6 ^^^ rotr x 11 ^^^ rotr x 25

def smallSigma0 (x : Nat) : Nat := rotr x 7 ^^^ rotr x 18 ^^^ x >>> 3

def smallSigma1 (x : Nat) : Nat := rotr x 17 ^^^ rotr x 19 ^^^ x >>> 10

/-- The first 32 bits of the fractional parts of the cube roots of 64 primes. -/
def roundConstants : List Nat :=
  [ 0x428a2f98, 0x71374491, 0xb5c0fbcf, 0xe9b5dba5, 0x3956c25b, 0x59f111f1,
    0x923f82a4, 0xab1c5ed5
  , 0xd807aa98, 0x12835b01, 0x243185be, 0x550c7dc3, 0x72be5d74, 0x80deb1fe,
    0x9bdc06a7, 0xc19bf174
  , 0xe49b69c1, 0xefbe4786, 0x0fc19dc6, 0x240ca1cc, 0x2de92c6f, 0x4a7484aa,
    0x5cb0a9dc, 0x76f988da
  , 0x983e5152, 0xa831c66d, 0xb00327c8, 0xbf597fc7, 0xc6e00bf3, 0xd5a79147,
    0x06ca6351, 0x14292967
  , 0x27b70a85, 0x2e1b2138, 0x4d2c6dfc, 0x53380d13, 0x650a7354, 0x766a0abb,
    0x81c2c92e, 0x92722c85
  , 0xa2bfe8a1, 0xa81a664b, 0xc24b8b70, 0xc76c51a3, 0xd192e819, 0xd6990624,
    0xf40e3585, 0x106aa070
  , 0x19a4c116, 0x1e376c08, 0x2748774c, 0x34b0bcb5, 0x391c0cb3, 0x4ed8aa4a,
    0x5b9cca4f, 0x682e6ff3
  , 0x748f82ee, 0x78a5636f, 0x84c87814, 0x8cc70208, 0x90befffa, 0xa4506ceb,
    0xbef9a3f7, 0xc67178f2 ]

/-! ## Compression -/

/-- The eight working words. -/
structure State where
  a : Nat
  b : Nat
  c : Nat
  d : Nat
  e : Nat
  f : Nat
  g : Nat
  h : Nat

/-- The first 32 bits of the fractional parts of the square roots of 8 primes. -/
def initialState : State where
  a := 0x6a09e667
  b := 0xbb67ae85
  c := 0x3c6ef372
  d := 0xa54ff53a
  e := 0x510e527f
  f := 0x9b05688c
  g := 0x1f83d9ab
  h := 0x5be0cd19

/-- Word by word, modulo a word. -/
def State.add (s t : State) : State where
  a := (s.a + t.a) % wordModulus
  b := (s.b + t.b) % wordModulus
  c := (s.c + t.c) % wordModulus
  d := (s.d + t.d) % wordModulus
  e := (s.e + t.e) % wordModulus
  f := (s.f + t.f) % wordModulus
  g := (s.g + t.g) % wordModulus
  h := (s.h + t.h) % wordModulus

def State.words (s : State) : List Nat := [s.a, s.b, s.c, s.d, s.e, s.f, s.g, s.h]

/-- One round with round constant `k` and schedule word `w`. -/
def State.round (s : State) (k w : Nat) : State :=
  let t := (s.h + bigSigma1 s.e + ch s.e s.f s.g + k + w) % wordModulus
  { a := (t + bigSigma0 s.a + maj s.a s.b s.c) % wordModulus
    b := s.a
    c := s.b
    d := s.c
    e := (s.d + t) % wordModulus
    f := s.e
    g := s.f
    h := s.g }

/-- The schedule word that enters the sixteen-word window. -/
def nextWord (window : List Nat) : Nat :=
  (smallSigma1 (window.getD 14 0) + window.getD 9 0 + smallSigma0 (window.getD 1 0) +
    window.getD 0 0) % wordModulus

/-- One round for each constant and each word of the schedule, which is prolonged as it
goes. -/
def rounds : List Nat → List Nat → State → State
  | [], _, s => s
  | k :: ks, window, s =>
      rounds ks (window.tail ++ [nextWord window]) (s.round k (window.headD 0))

/-- A block is mixed into the state, and the state before it added. -/
def compress (s : State) (block : List Nat) : State :=
  s.add (rounds roundConstants block s)

/-! ## Padding and blocks -/

/-- Big-endian words of a byte list whose length is a multiple of four. -/
def wordsOf : List Nat → List Nat
  | a :: b :: c :: d :: rest => (((a * 256 + b) * 256 + c) * 256 + d) :: wordsOf rest
  | _ => []

/-- The length of a message in bits, in eight bytes. -/
def lengthBytes (bits : Nat) : List Nat :=
  [56, 48, 40, 32, 24, 16, 8, 0].map fun shift => bits >>> shift % 256

/-- A message with one set bit, zeros and its length, in whole blocks. -/
def pad (message : List Nat) : List Nat :=
  message ++ 0x80 :: List.replicate ((119 - message.length % 64) % 64) 0 ++
    lengthBytes (8 * message.length)

/-- The padded message in blocks of sixteen words. -/
def blocks : Nat → List Nat → List (List Nat)
  | 0, _ => []
  | count + 1, words => words.take 16 :: blocks count (words.drop 16)

/-- The state after all blocks. -/
def digest (message : List Nat) : State :=
  let words := wordsOf (pad message)
  (blocks (words.length / 16) words).foldl compress initialState

/-! ## Hexadecimal form -/

/-- A word in eight lower-case digits. -/
def hexDigits (word : Nat) : List Char :=
  [28, 24, 20, 16, 12, 8, 4, 0].map fun shift => Nat.digitChar (word >>> shift % 16)

/-- `hashlib.sha256(message).hexdigest()` as characters. -/
def hexdigestChars (message : List Nat) : List Char :=
  (digest message).words.flatMap hexDigits

def isHexDigit (c : Char) : Bool :=
  let n := c.toNat
  (48 ≤ n && n ≤ 57) || (97 ≤ n && n ≤ 102)

/-- The digits below sixteen are hexadecimal. -/
theorem isHexDigit_digitChar {n : Nat} (h : n < 16) :
    isHexDigit (Nat.digitChar n) = true := by
  interval_cases n <;> decide

/-- **Every digest has 64 digits.** -/
theorem hexdigestChars_length (message : List Nat) :
    (hexdigestChars message).length = 64 := by
  simp [hexdigestChars, State.words, hexDigits]

/-- **And all of them are hexadecimal.** -/
theorem isHexDigit_of_mem_hexdigest {message : List Nat} {c : Char}
    (h : c ∈ hexdigestChars message) : isHexDigit c = true := by
  obtain ⟨word, -, hc⟩ := List.mem_flatMap.mp h
  obtain ⟨shift, -, rfl⟩ := List.mem_map.mp hc
  exact isHexDigit_digitChar (Nat.mod_lt _ (by decide))

-- "abc"
example : hexdigestChars [97, 98, 99] =
    "ba7816bf8f01cfea414140de5dae2223b00361a396177a9cb410ff61f20015ad".toList := by
  decide

/-! ## Unrolled compression

The same digest with the window and the state as arguments: the kernel then
reduces every word to a literal before the next round. -/

/-- `rotr` on raw naturals; the two shifts add to 32. -/
def rotate (x right left : Nat) : Nat :=
  ((x.shiftRight right).lor (x.shiftLeft left)).mod 4294967296

/-- `rounds`, with the window and the state as arguments. -/
def unrolledRounds :
    List Nat → Nat → Nat → Nat → Nat → Nat → Nat → Nat → Nat → Nat → Nat → Nat →
    Nat → Nat → Nat → Nat → Nat → Nat → Nat → Nat → Nat → Nat → Nat → Nat → Nat → State
  | [], _, _, _, _, _, _, _, _, _, _, _, _, _, _, _, _, a, b, c, d, e, f, g, h =>
      ⟨a, b, c, d, e, f, g, h⟩
  | k :: ks, w0, w1, w2, w3, w4, w5, w6, w7, w8, w9, w10, w11, w12, w13, w14, w15,
      a, b, c, d, e, f, g, h =>
      let t := ((((h.add (((rotate e 6 26).xor (rotate e 11 21)).xor
        (rotate e 25 7))).add ((e.land f).xor ((Nat.sub 4294967295 e).land g))).add
        k).add w0).mod 4294967296
      unrolledRounds ks w1 w2 w3 w4 w5 w6 w7 w8 w9 w10 w11 w12 w13 w14 w15
        ((((((rotate w14 17 15).xor (rotate w14 19 13)).xor (w14.shiftRight 10)).add
          w9).add (((rotate w1 7 25).xor (rotate w1 18 14)).xor (w1.shiftRight 3))).add
          w0 |>.mod 4294967296)
        (((t.add (((rotate a 2 30).xor (rotate a 13 19)).xor (rotate a 22 10))).add
          (((a.land b).xor (a.land c)).xor (b.land c))).mod 4294967296)
        a b c ((d.add t).mod 4294967296) e f g

/-- The rounds with the schedule in sixteen arguments are the rounds; by induction on
the constants. -/
theorem unrolledRounds_eq (ks : List Nat) :
    ∀ w0 w1 w2 w3 w4 w5 w6 w7 w8 w9 w10 w11 w12 w13 w14 w15
    a b c d e f g h,
    unrolledRounds ks w0 w1 w2 w3 w4 w5 w6 w7 w8 w9 w10 w11 w12 w13 w14 w15
      a b c d e f g h =
    rounds ks [w0, w1, w2, w3, w4, w5, w6, w7, w8, w9, w10, w11, w12, w13, w14, w15]
      ⟨a, b, c, d, e, f, g, h⟩ := by
  induction ks with
  | nil => intros; rfl
  | cons k ks ih =>
      intro w0 w1 w2 w3 w4 w5 w6 w7 w8 w9 w10 w11 w12 w13 w14 w15 a b c d e f g h
      exact ih w1 w2 w3 w4 w5 w6 w7 w8 w9 w10 w11 w12 w13 w14 w15 _ _ a b c _ e f g

/-- `compress`, evaluated with the words as arguments. -/
def unrolledCompress (s : State) (block : List Nat) : State :=
  match block with
  | [w0, w1, w2, w3, w4, w5, w6, w7, w8, w9, w10, w11, w12, w13, w14, w15] =>
      s.add (unrolledRounds roundConstants w0 w1 w2 w3 w4 w5 w6 w7 w8 w9 w10 w11 w12 w13
        w14 w15 s.a s.b s.c s.d s.e s.f s.g s.h)
  | _ => compress s block

/-- It computes the same. -/
theorem unrolledCompress_eq : unrolledCompress = compress := by
  funext s block
  unfold unrolledCompress
  split
  · rw [unrolledRounds_eq]
    rfl
  · rfl

def unrolledDigest (message : List Nat) : State :=
  let words := wordsOf (pad message)
  (blocks (words.length / 16) words).foldl unrolledCompress initialState

def unrolledHexdigestChars (message : List Nat) : List Char :=
  (unrolledDigest message).words.flatMap hexDigits

/-- **The digest may be evaluated unrolled.** -/
theorem unrolledHexdigestChars_eq : unrolledHexdigestChars = hexdigestChars := by
  funext message
  rw [unrolledHexdigestChars, unrolledDigest, unrolledCompress_eq]
  rfl

end ControlPlaneKit.Library.Sha256
