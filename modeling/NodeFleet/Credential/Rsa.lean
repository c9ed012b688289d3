import NodeFleet.Credential.Der

/-!
# Keys from two primes

A key consists of the product of two primes, which is its modulus, an exponent that is public, one
that is secret, and numbers that are worked out from these to save time.  `Rsa.Key.isSound` says
which keys are accepted: the sizes lie between bounds, and the parts fit together as far as can be
seen without factoring a number.
-/

namespace NodeFleet.Rsa

structure Key where
  modulus : Nat
  /-- The public exponent. -/
  exponent : Nat
  /-- The secret exponent. -/
  secret : Nat
  /-- The first prime. -/
  p : Nat
  /-- The second prime. -/
  q : Nat
  /-- The secret exponent that does for the first prime. -/
  secretP : Nat
  /-- The secret exponent that does for the second prime. -/
  secretQ : Nat
  /-- The inverse of the second prime among the residues of the first. -/
  inverse : Nat

/-- The least number of bits of a modulus, whole bytes being counted. -/
def leastBits : Nat := 2048

/-- The greatest number of bits of a modulus. -/
def greatestBits : Nat := 4096

/-- The number of bits that the number of bits of a prime is a multiple of. -/
def primeUnit : Nat := 512

/-- The number of bits of a number. -/
def bits (n : Nat) : Nat :=
  if n = 0 then 0 else n.log2 + 1

/-- Whether a number is odd. -/
def isOdd (n : Nat) : Bool :=
  n % 2 = 1

namespace Key

/-- Whether the public part is accepted. -/
def isPublicSound (k : Key) : Bool :=
  isOdd k.modulus && leastBits ≤ (bits k.modulus + 7) / 8 * 8 && bits k.modulus ≤ greatestBits &&
    isOdd k.exponent && 2 ^ 16 < k.exponent && k.exponent < 2 ^ 33

/-- The number of bits of each prime: half of those of the modulus. -/
def primeBits (k : Key) : Nat :=
  (bits k.modulus + 1) / 2

/-- Whether a number and its secret exponent do for one of the primes. -/
def isHalfSound (k : Key) (prime secret : Nat) : Bool :=
  isOdd prime && bits prime = k.primeBits && isOdd secret && secret < prime

/-- Whether a key is accepted. -/
def isSound (k : Key) : Bool :=
  k.isPublicSound && k.primeBits % primeUnit = 0 && k.isHalfSound k.p k.secretP &&
    k.isHalfSound k.q k.secretQ && k.p * k.q % k.modulus = 0 && isOdd k.secret &&
    k.primeBits < bits k.secret && k.secret < k.modulus && k.inverse < k.p &&
    k.inverse * k.q % k.p = 1

end Key

def key : Der.Reader Key :=
  Der.inside Der.sequenceTag do
    Der.exactly 0
    let modulus ← Der.natural
    let exponent ← Der.natural
    let secret ← Der.natural
    let p ← Der.natural
    let q ← Der.natural
    let secretP ← Der.natural
    let secretQ ← Der.natural
    let inverse ← Der.natural
    return { modulus, exponent, secret, p, q, secretP, secretQ, inverse }

/-- Whether bytes are a key that is accepted. -/
def isKey (bytes : List Nat) : Bool :=
  ((Der.all? key bytes).map Key.isSound).getD false

end NodeFleet.Rsa
