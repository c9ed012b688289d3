import NodeFleet.Credential.Curve
import NodeFleet.Credential.Der
import NodeFleet.Credential.Edwards
import NodeFleet.Credential.Rsa

/-!
# Private keys

A key is written bare, as the kind of key prescribes, or wrapped with the identifier of its kind.
Which of these it is and what kind it has is not told by the label that it stands under: a key
serves if it is in order as one of the kinds.  The parts that could be worked out from others have
to be what would come out.
-/

namespace NodeFleet.PrivateKey

open Der

/-! ## Wrapping -/

/-- A key with the identifier of its kind. -/
structure Wrapped where
  /-- The identifier and what belongs to it. -/
  kind : List Nat
  secret : List Nat
  /-- The public key, which the second version of wrapping adds. -/
  shown : Option (List Nat)

/-- Reads the public key of a wrapped one, bare or as an element of its own. -/
def shown : Reader (List Nat) := do
  if ← isNext (partTag 1) then inside (partTag 1) (wholeBits bitsTag)
  else wholeBits (plainPartTag 1)

/-- Reads a wrapped key.  Attributes do not count. -/
def wrapped : Reader Wrapped :=
  inside sequenceTag do
    let version ← natural
    let kind ← contents sequenceTag
    let secret ← contents bytesTag
    let _ ← optional (partTag 0) (contents (partTag 0))
    match version with
    | 0 => return { kind, secret, shown := none }
    | 1 => return { kind, secret, shown := some (← shown) }
    | _ => failure

/-- The key of a kind that bytes wrap without a public one. -/
def unwrapped? (kind bytes : List Nat) : Option (List Nat) :=
  match all? wrapped bytes with
  | some key => if key.kind = kind ∧ key.shown.isNone then some key.secret else none
  | none => none

/-! ## Kinds -/

/-- The kind of keys from two primes. -/
def rsaKind : List Nat :=
  [0x06, 0x09, 0x2A, 0x86, 0x48, 0x86, 0xF7, 0x0D, 0x01, 0x01, 0x01, 0x05, 0x00]

def curveKind (c : Curve) : List Nat :=
  [0x06, 0x07, 0x2A, 0x86, 0x48, 0xCE, 0x3D, 0x02, 0x01] ++ c.identifier

/-- The kind of keys on the twisted curve. -/
def edwardsKind : List Nat := [0x06, 0x03, 0x2B, 0x65, 0x70]

/-- Whether bytes are a key from two primes. -/
def isRsa (bytes : List Nat) : Bool :=
  Rsa.isKey bytes || ((unwrapped? rsaKind bytes).map Rsa.isKey).getD false

/-- Reads the secret number of a bare key on a curve and its public point. -/
def curveKey (c : Curve) : Reader (List Nat × List Nat) :=
  inside sequenceTag do
    exactly 1
    let secret ← contents bytesTag
    let curve ← optional (partTag 0) (contents (partTag 0))
    if curve.getD c.identifier ≠ c.identifier then failure
    let shown ← inside (partTag 1) (wholeBits bitsTag)
    return (secret, shown)

/-- Whether bytes are a key on a curve. -/
def isOnCurve (c : Curve) (bytes : List Nat) : Bool :=
  let isBare (bytes : List Nat) : Bool :=
    ((all? (curveKey c) bytes).map fun (secret, shown) => c.isPair secret shown).getD false
  isBare bytes || ((unwrapped? (curveKind c) bytes).map isBare).getD false

/-- The number of bytes of a secret for the twisted curve. -/
def edwardsSize : Nat := 32

/-- Whether bytes are a key on the twisted curve, which is always wrapped. -/
def isEdwards (bytes : List Nat) : Bool :=
  match all? wrapped bytes with
  | some key =>
      match all? (contents bytesTag) key.secret with
      | some secret =>
          key.kind = edwardsKind && secret.length = edwardsSize &&
            key.shown.all fun shown => shown = Edwards.publicBytes secret
      | none => false
  | none => false

/-- Whether bytes are a key that serves. -/
def isKey (bytes : List Nat) : Bool :=
  isRsa bytes || Curve.all.any (isOnCurve · bytes) || isEdwards bytes

end NodeFleet.PrivateKey
