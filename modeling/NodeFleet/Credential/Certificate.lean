import NodeFleet.Credential.Der

/-!
# Certificates that others are checked against

A certificate is a sequence of what it states, the identifier of the way it is signed, and the
signature.  A statement of version 3 may end in extensions; of the known ones each stands once,
and one that is not known must not be critical.  A statement of version 1 does not name its
version and has no extensions.

Only the form is looked at: neither the signature nor the time.
-/

namespace NodeFleet.Certificate

open Der

/-! ## Extensions -/

structure Extension where
  /-- The identifier of its kind. -/
  kind : List Nat
  /-- Whether it must not be ignored. -/
  isCritical : Bool
  value : List Nat

/-- Reads a truth value: all bits are set, or none. -/
def truth : Reader Bool := do
  match ← contents boolTag with
  | [0xFF] => return true
  | [0x00] => return false
  | _ => failure

def extension : Reader Extension := do
  let kind ← contents identifierTag
  let isCritical := (← optional boolTag truth).getD false
  let value ← contents bytesTag
  return { kind, isCritical, value }

/-- The last number in the identifier for what a key may be used for. -/
def usageNumber : Nat := 15

/-- The last numbers in the identifiers of the known extensions: the uses of the key, other names of
the subject, whether it issues certificates, the names that it may issue them for, where revoked
ones are listed, and the purposes of the key. -/
def knownNumbers : List Nat := [usageNumber, 17, 19, 30, 31, 37]

/-- The last number of an extension's identifier, if it is known. -/
def Extension.number? (e : Extension) : Option Nat :=
  match e.kind with
  | [0x55, 0x1D, n] => if knownNumbers.contains n then some n else none
  | _ => none

/-- Whether the value of the known extension with a number is in order: a sequence, but for the uses
of the key. -/
def isValue (number : Nat) (value : List Nat) : Bool :=
  number = usageNumber || (all? (contents sequenceTag) value).isSome

/-- Whether extensions are in order, `seen` being the numbers before them. -/
def areSound (seen : List Nat) : List Extension → Bool
  | [] => true
  | e :: rest =>
      match e.number? with
      | some n => !seen.contains n && isValue n e.value && areSound (n :: seen) rest
      | none => !e.isCritical && areSound seen rest

/-- Whether bytes are extensions in order, one at least. -/
def areExtensions (bytes : List Nat) : Bool :=
  match elements? bytes with
  | some (first :: rest) =>
      let read (e : Element) : Option Extension :=
        if e.tag = sequenceTag then all? extension e.contents else none
      match (first :: rest).mapM read with
      | some extensions => areSound [] extensions
      | none => false
  | _ => false

/-! ## Statements -/

/-- Reads the issuer, the time of validity, the subject and its key, which are sequences. -/
def parties : Reader Unit := do
  let _issuer ← contents sequenceTag
  let _validity ← contents sequenceTag
  let _subject ← contents sequenceTag
  let _key ← contents sequenceTag
  return ()

/-- Reads a statement of version 3 that is signed in a given way.  The number of the certificate may
be any. -/
def statement (signing : List Nat) : Reader Unit := do
  inside (partTag 0) (exactly 2)
  let _ ← contents integerTag
  if (← contents sequenceTag) ≠ signing then failure
  parties
  match ← optional (partTag 3) (inside (partTag 3) (contents sequenceTag)) with
  | some extensions => if areExtensions extensions then return () else failure
  | none => return ()

/-- Reads a statement of version 1. -/
def plainStatement : Reader Unit := do
  let _ ← contents integerTag
  let _ ← contents sequenceTag
  parties

def certificate : Reader Unit := do
  let stated ← contents sequenceTag
  let signing ← contents sequenceTag
  let _ ← wholeBits bitsTag
  let reader := if stated.head? = some (partTag 0) then statement signing else plainStatement
  StateT.lift (all? reader stated)

/-- Whether bytes are a certificate that others can be checked against. -/
def isAuthority (bytes : List Nat) : Bool :=
  (all? (inside sequenceTag certificate) bytes).isSome

end NodeFleet.Certificate
