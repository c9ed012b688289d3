import NodeFleet.Credential.Octets

/-!
# Digests of 512 bits

A message is filled up to whole blocks of 128 bytes.  Each block is stretched to a schedule of 80
words of 64 bits, and every word of the schedule, with a constant of its own, turns the eight
words of the state once.  After each block the state before it is added.

The constants are the first 64 bits behind the point of the roots of the first primes: square
roots for the first state, cube roots for the turns.
-/

namespace NodeFleet.Sha512

/-! ## Words -/

/-- The bits of a word moved to the right, those that fall out coming back on the left. -/
def rotate (w : UInt64) (count : UInt64) : UInt64 :=
  w >>> count ||| w <<< (64 - count)

/-- The mixture of a word's bits for the schedule's words fifteen back. -/
def mixEarly (w : UInt64) : UInt64 :=
  rotate w 1 ^^^ rotate w 8 ^^^ w >>> 7

/-- The mixture of a word's bits for the schedule's words two back. -/
def mixLate (w : UInt64) : UInt64 :=
  rotate w 19 ^^^ rotate w 61 ^^^ w >>> 6

/-- The mixture of the bits of a state's first word. -/
def mixFirst (w : UInt64) : UInt64 :=
  rotate w 28 ^^^ rotate w 34 ^^^ rotate w 39

/-- The mixture of the bits of a state's fifth word. -/
def mixFifth (w : UInt64) : UInt64 :=
  rotate w 14 ^^^ rotate w 18 ^^^ rotate w 41

/-- The bits of `b` where those of `a` are set, and those of `c` elsewhere. -/
def choose (a b c : UInt64) : UInt64 :=
  a &&& b ^^^ ~~~a &&& c

/-- The bits that two of three words have in common. -/
def majority (a b c : UInt64) : UInt64 :=
  a &&& b ^^^ a &&& c ^^^ b &&& c

/-! ## Constants -/

/-- The constants of the turns. -/
def constants : List UInt64 :=
  [0x428A2F98D728AE22, 0x7137449123EF65CD, 0xB5C0FBCFEC4D3B2F, 0xE9B5DBA58189DBBC,
    0x3956C25BF348B538, 0x59F111F1B605D019, 0x923F82A4AF194F9B, 0xAB1C5ED5DA6D8118,
    0xD807AA98A3030242, 0x12835B0145706FBE, 0x243185BE4EE4B28C, 0x550C7DC3D5FFB4E2,
    0x72BE5D74F27B896F, 0x80DEB1FE3B1696B1, 0x9BDC06A725C71235, 0xC19BF174CF692694,
    0xE49B69C19EF14AD2, 0xEFBE4786384F25E3, 0x0FC19DC68B8CD5B5, 0x240CA1CC77AC9C65,
    0x2DE92C6F592B0275, 0x4A7484AA6EA6E483, 0x5CB0A9DCBD41FBD4, 0x76F988DA831153B5,
    0x983E5152EE66DFAB, 0xA831C66D2DB43210, 0xB00327C898FB213F, 0xBF597FC7BEEF0EE4,
    0xC6E00BF33DA88FC2, 0xD5A79147930AA725, 0x06CA6351E003826F, 0x142929670A0E6E70,
    0x27B70A8546D22FFC, 0x2E1B21385C26C926, 0x4D2C6DFC5AC42AED, 0x53380D139D95B3DF,
    0x650A73548BAF63DE, 0x766A0ABB3C77B2A8, 0x81C2C92E47EDAEE6, 0x92722C851482353B,
    0xA2BFE8A14CF10364, 0xA81A664BBC423001, 0xC24B8B70D0F89791, 0xC76C51A30654BE30,
    0xD192E819D6EF5218, 0xD69906245565A910, 0xF40E35855771202A, 0x106AA07032BBD1B8,
    0x19A4C116B8D2D0C8, 0x1E376C085141AB53, 0x2748774CDF8EEB99, 0x34B0BCB5E19B48A8,
    0x391C0CB3C5C95A63, 0x4ED8AA4AE3418ACB, 0x5B9CCA4F7763E373, 0x682E6FF3D6B2B8A3,
    0x748F82EE5DEFB2FC, 0x78A5636F43172F60, 0x84C87814A1F0AB72, 0x8CC702081A6439EC,
    0x90BEFFFA23631E28, 0xA4506CEBDE82BDE9, 0xBEF9A3F7B2C67915, 0xC67178F2E372532B,
    0xCA273ECEEA26619C, 0xD186B8C721C0C207, 0xEADA7DD6CDE0EB1E, 0xF57D4F7FEE6ED178,
    0x06F067AA72176FBA, 0x0A637DC5A2C898A6, 0x113F9804BEF90DAE, 0x1B710B35131C471B,
    0x28DB77F523047D84, 0x32CAAB7B40C72493, 0x3C9EBE0A15C9BEBC, 0x431D67C49C100D4C,
    0x4CC5D4BECB3E42B6, 0x597F299CFC657E2A, 0x5FCB6FAB3AD6FAEC, 0x6C44198C4A475817]

/-! ## States -/

/-- The eight words that a message is mixed into. -/
structure State where
  /-- The first word. -/
  a : UInt64
  /-- The second word. -/
  b : UInt64
  /-- The third word. -/
  c : UInt64
  /-- The fourth word. -/
  d : UInt64
  /-- The fifth word. -/
  e : UInt64
  /-- The sixth word. -/
  f : UInt64
  /-- The seventh word. -/
  g : UInt64
  /-- The eighth word. -/
  h : UInt64

namespace State

/-- The state before the first block. -/
def first : State :=
  { a := 0x6A09E667F3BCC908, b := 0xBB67AE8584CAA73B
    c := 0x3C6EF372FE94F82B, d := 0xA54FF53A5F1D36F1
    e := 0x510E527FADE682D1, f := 0x9B05688C2B3E6C1F
    g := 0x1F83D9ABFB41BD6B, h := 0x5BE0CD19137E2179 }

def words (s : State) : List UInt64 :=
  [s.a, s.b, s.c, s.d, s.e, s.f, s.g, s.h]

/-- The sum of two states word by word. -/
def add (s t : State) : State :=
  { a := s.a + t.a, b := s.b + t.b, c := s.c + t.c, d := s.d + t.d
    e := s.e + t.e, f := s.f + t.f, g := s.g + t.g, h := s.h + t.h }

/-- The state after one turn with a constant and a word of the schedule. -/
def turn (s : State) (constant word : UInt64) : State :=
  let early := s.h + mixFifth s.e + choose s.e s.f s.g + constant + word
  let late := mixFirst s.a + majority s.a s.b s.c
  { a := early + late, b := s.a, c := s.b, d := s.c
    e := s.d + early, f := s.e, g := s.f, h := s.g }

end State

/-! ## Blocks -/

/-- The number of bytes of a block. -/
def blockSize : Nat := 128

/-- The message with what fills it up: a set bit, zeros, and the number of its bits. -/
def filled (message : List Nat) : List Nat :=
  let zeros := (2 * blockSize - 17 - message.length % blockSize) % blockSize
  message ++ 0x80 :: List.replicate zeros 0 ++ Octets.ofNat 16 (8 * message.length)

/-- The next `count` words of a schedule from the sixteen words before them. -/
def schedule : Nat → List UInt64 → List UInt64
  | 0, _ => []
  | count + 1, window =>
      let word (i : Nat) : UInt64 := window.getD i 0
      let next := word 0 + mixEarly (word 1) + word 9 + mixLate (word 14)
      word 0 :: schedule count (window.drop 1 ++ [next])

/-- The words of the bytes of a block. -/
def blockWords (block : List Nat) : List UInt64 :=
  (List.range 16).map fun i => UInt64.ofNat (Octets.number ((block.drop (8 * i)).take 8))

/-- The state after a block. -/
def absorb (s : State) (block : List Nat) : State :=
  let turned := (constants.zip (schedule constants.length (blockWords block))).foldl
    (fun s (constant, word) => s.turn constant word) s
  s.add turned

/-- The blocks of bytes, of at most so many. -/
def blocks : Nat → List Nat → List (List Nat)
  | 0, _ => []
  | count + 1, bytes => bytes.take blockSize :: blocks count (bytes.drop blockSize)

def digest (message : List Nat) : List Nat :=
  let bytes := filled message
  let s := (blocks (bytes.length / blockSize) bytes).foldl absorb .first
  s.words.flatMap fun w => Octets.ofNat 8 w.toNat

end NodeFleet.Sha512
