import NodeFleet.Text.Blank
import NodeFleet.Text.Split
import NodeFleet.Text.Numeral

/-!
# IPv4 address ranges

A range is the block of addresses that share the first `prefixLength` bits of its
network address.  A range read from text has no bits set beyond them, and every
subnet of such a range inherits this.

`AddressRange.read?` reads `a.b.c.d/n`, `AddressRange.text` writes it, and
`AddressRange.subnet` gives the blocks of a longer prefix inside a range.
-/

namespace NodeFleet

open NodeFleet.Text

/-- A block of IPv4 addresses. -/
structure AddressRange where
  /-- The lowest address of the block. -/
  network : UInt32
  /-- The number of leading bits that all addresses of the block share. -/
  prefixLength : UInt8
  deriving DecidableEq

/-- Why an address range or a profile built on one is refused. -/
inductive AddressFault where
  /-- No slash separates an address from a length. -/
  | notARange
  /-- The part before the slash is no IPv4 address. -/
  | badAddress
  /-- The part after the slash is no 8-bit number. -/
  | badPrefix
  /-- The length is above 32. -/
  | prefixTooLong
  /-- The network address has a bit set beyond the prefix. -/
  | hostBits
  /-- No range was given. -/
  | absent
  deriving DecidableEq

/-- The wording of a reason. -/
def AddressFault.reason : AddressFault → String
  | .notARange => "expected <ipv4>/<prefix>"
  | .badAddress => "invalid IPv4 address"
  | .badPrefix => "invalid prefix length"
  | .prefixTooLong => "prefix length must be at most 32"
  | .hostBits => "host bits set beyond the prefix"
  | .absent => "pod address range is required"

/-- Why a subnet is refused. -/
inductive SubnetFault where
  /-- The length is shorter than the range's own or above 32. -/
  | badPrefix (base : AddressRange) (requested : UInt8)
  /-- The index is not below the number of subnets. -/
  | outOfRange (index : Nat) (base : AddressRange) (prefixLength : UInt8) (available : Nat)
  deriving DecidableEq

namespace AddressRange

/-! ## Text -/

/-- The bits of an address that a prefix of the given length fixes. -/
def mask (prefixLength : UInt8) : UInt32 :=
  if prefixLength = 0 then 0 else 0xFFFFFFFF <<< (32 - prefixLength.toUInt32)

/-- One part of a dotted address: a number below 256 in one to three digits, without leading
zeros. -/
def octet? (cs : List Char) : Option Nat :=
  if cs.length ≤ 3 ∧ (cs.length = 1 ∨ cs.head? ≠ some '0') then
    (Numeral.digits? cs).filter (· < 256)
  else none

/-- The address written as four numbers with dots between them. -/
def address? (cs : List Char) : Option UInt32 :=
  match splitOn '.' cs with
  | [a, b, c, d] => do
      let a ← octet? a
      let b ← octet? b
      let c ← octet? c
      let d ← octet? d
      return UInt32.ofNat (((a * 256 + b) * 256 + c) * 256 + d)
  | _ => none

/-- Reads a range from characters; blanks around it are ignored. -/
def readChars (cs : List Char) : Except AddressFault AddressRange :=
  let body := trim cs
  match cut? '/' body with
  | none => .error .notARange
  | some (address, length) =>
      match address? address with
      | none => .error .badAddress
      | some network =>
          match Numeral.below? 256 length with
          | none => .error .badPrefix
          | some n =>
              if 32 < n then .error .prefixTooLong
              else
                let range : AddressRange := ⟨network, UInt8.ofNat n⟩
                if network &&& ~~~(mask range.prefixLength) ≠ 0 then .error .hostBits
                else .ok range

def read (text : String) : Except AddressFault AddressRange :=
  readChars text.toList

/-- The four numbers of an address, highest first. -/
def octets (address : UInt32) : List Nat :=
  let n := address.toNat
  [n / 2 ^ 24, n / 2 ^ 16 % 256, n / 2 ^ 8 % 256, n % 256]

def addressChars (address : UInt32) : List Char :=
  List.intercalate ['.'] ((octets address).map Numeral.write)

def networkText (range : AddressRange) : String :=
  String.ofList (addressChars range.network)

def chars (range : AddressRange) : List Char :=
  addressChars range.network ++ '/' :: Numeral.write range.prefixLength.toNat

def text (range : AddressRange) : String :=
  String.ofList range.chars

/-! ## Subnets -/

/-- The number of blocks of the given prefix length inside a range. -/
def subnetCount (range : AddressRange) (prefixLength : UInt8) : Except SubnetFault Nat :=
  if prefixLength < range.prefixLength ∨ 32 < prefixLength then
    .error (.badPrefix range prefixLength)
  else .ok (2 ^ (prefixLength.toNat - range.prefixLength.toNat))

/-- The block with the given index among those of the given prefix length, counted from the
lowest. -/
def subnet (range : AddressRange) (index : Nat) (prefixLength : UInt8) :
    Except SubnetFault AddressRange := do
  let available ← range.subnetCount prefixLength
  if available ≤ index then
    throw (.outOfRange index range prefixLength available)
  let network := range.network.toNat + index * 2 ^ (32 - prefixLength.toNat)
  return ⟨UInt32.ofNat network, prefixLength⟩

end AddressRange

/-- The short name of a refused subnet. -/
def SubnetFault.kind : SubnetFault → String
  | .badPrefix .. => "invalid_prefix"
  | .outOfRange .. => "subnet_out_of_range"

/-- The wording of a refused subnet. -/
def SubnetFault.message : SubnetFault → String
  | .badPrefix base requested =>
      "prefix length /" ++ Numeral.text requested.toNat ++ " does not fit inside " ++ base.text
  | .outOfRange index base prefixLength available =>
      "subnet index " ++ Numeral.text index ++ " is outside " ++ base.text ++ " (only " ++
        Numeral.text available ++ " /" ++ Numeral.text prefixLength.toNat ++ " subnets)"

end NodeFleet
