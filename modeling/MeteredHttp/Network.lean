import MeteredHttp.Address

/-!
# Address ranges

A range of addresses in CIDR notation: an address and the number of its leading bits that count.
IPv4 ranges are kept in IPv4-mapped form, so that one comparison serves both families.

* `Network.parse` reads a range; an address without a length stands for itself alone.
* `Network.contains` is membership.
-/

namespace MeteredHttp

/-- A range of addresses: those that agree with `base` in their first `bits` bits. -/
structure Network where
  base : Ipv6
  bits : Nat
  /-- The range as it was written. -/
  text : Bytes
  bits_le : bits ≤ 128

namespace Network

/-- Why a text is no range. -/
inductive ParseError where
  /-- What stands before the slash is no address. -/
  | address (text : Bytes)
  /-- What follows the slash is no length of a range of this family. -/
  | length (text : Bytes)
  deriving DecidableEq

/-- The text of the error, which quotes the range up to its first NUL byte. -/
def ParseError.message : ParseError → Bytes
  | .address text => utf8 "invalid IP range: " ++ text.untilNul
  | .length text => utf8 "invalid IP range prefix: " ++ text.untilNul

/-- The texts before and after the first slash. -/
def splitLength (text : Bytes) : Bytes × Option Bytes :=
  match Bytes.cut? text [47] with
  | some (host, digits) => (host, some digits)
  | none => (text, none)

/-- The number of leading bits that count in an address of `width` bits: all of them unless a
length is written. -/
def readLength? (width : Nat) : Option Bytes → Option { n : Nat // n ≤ width }
  | none => some ⟨width, Nat.le_refl width⟩
  | some digits =>
    match Numeral.readAll? 10 digits with
    | some n => if h : n ≤ width then some ⟨n, h⟩ else none
    | none => none

/-- Reads an address, optionally followed by a slash and a length.  The address ends at its first
NUL byte. -/
def parse (text : Bytes) : Except ParseError Network :=
  let (host, digits) := splitLength text
  match Ipv4.parse? host.untilNul, Ipv6.parse? host.untilNul with
  | some v4, _ =>
    match readLength? 32 digits with
    | some ⟨n, h⟩ => .ok ⟨.ofIpv4 v4, 96 + n, text, by omega⟩
    | none => .error (.length text)
  | none, some v6 =>
    match readLength? 128 digits with
    | some ⟨n, h⟩ => .ok ⟨v6, n, text, h⟩
    | none => .error (.length text)
  | none, none => .error (.address text)

/-- The byte whose first `n` bits are set. -/
def leadingMask (n : Nat) : UInt8 := (0xff <<< (8 - n) : Nat).toUInt8

/-- Whether two strings of bytes agree in their first `left` bits.  They are compared byte by byte,
and the last byte under a mask of the bits that are left. -/
def agree (left : Nat) : List UInt8 → List UInt8 → Bool
  | a :: as, b :: bs =>
    if left = 0 then true
    else
      let mask := leadingMask (min left 8)
      if a &&& mask ≠ b &&& mask then false else agree (left - min left 8) as bs
  | _, _ => true

/-- Whether an address lies in the range. -/
def contains (network : Network) (address : Ipv6) : Bool :=
  agree network.bits address.bytes network.base.bytes

end Network

end MeteredHttp
