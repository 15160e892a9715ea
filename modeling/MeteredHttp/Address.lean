import MeteredHttp.Numeral

/-!
# Internet addresses

IPv4 and IPv6 addresses in their usual textual forms.

* `Ipv4.parse?` accepts four decimal numbers of at most 255 without leading zeros.
* `Ipv6.parse?` accepts eight groups of one to four hexadecimal digits, of which a `::` stands for
  one or more zero groups, and the last two of which may be written as an IPv4 address.
* `Ipv4.render` and `Ipv6.render` print an address; in the latter the first longest run of two or
  more zero groups becomes `::`, and addresses that embed an IPv4 address end in its dotted form.
* `Ipv6.ofIpv4` is the IPv4-mapped form, in which both kinds of addresses are compared.
-/

namespace MeteredHttp

/-- The four bytes of an IPv4 address. -/
structure Ipv4 where
  a : UInt8
  b : UInt8
  c : UInt8
  d : UInt8
  deriving DecidableEq

/-- The eight groups of an IPv6 address, most significant one first. -/
structure Ipv6 where
  groups : Vector UInt16 8
  deriving DecidableEq

namespace Ipv4

/-- One of the four numbers: one to three digits, no leading zero, at most 255. -/
def parseOctet? (text : Bytes) : Option UInt8 :=
  if text.length ≤ 3 ∧ (text = [48] ∨ text.head? ≠ some 48) then
    match text.all Bytes.isDigit, Numeral.readAll? 10 text with
    | true, some n => if n ≤ 255 then some n.toUInt8 else none
    | _, _ => none
  else none

/-- The address written by the whole text. -/
def parse? (text : Bytes) : Option Ipv4 :=
  match Bytes.fields 46 text with
  | [a, b, c, d] => do some ⟨← parseOctet? a, ← parseOctet? b, ← parseOctet? c, ← parseOctet? d⟩
  | _ => none

/-- Four decimal numbers with dots between them. -/
def render (address : Ipv4) : Bytes :=
  let octet (n : UInt8) := Numeral.render 10 n.toNat
  octet address.a ++ 46 :: octet address.b ++ 46 :: octet address.c ++ 46 :: octet address.d

end Ipv4

namespace Ipv6

/-- The sixteen bytes of an address. -/
def bytes (address : Ipv6) : List UInt8 :=
  address.groups.toList.flatMap fun g => [(g.toNat / 256).toUInt8, (g.toNat % 256).toUInt8]

/-- The address as a number of 128 bits. -/
def toNat (address : Ipv6) : Nat :=
  address.groups.toList.foldl (fun n g => n * 65536 + g.toNat) 0

/-- The address that is a given number, of which 128 bits count. -/
def ofNat (n : Nat) : Ipv6 :=
  ⟨Vector.ofFn fun i => (n / Nat.pow 65536 (7 - i.val)).toUInt16⟩

/-- The IPv4-mapped address `::ffff:a.b.c.d`. -/
def ofIpv4 (v4 : Ipv4) : Ipv6 :=
  ⟨#v[0, 0, 0, 0, 0, 0xffff, (v4.a.toNat * 256 + v4.b.toNat).toUInt16,
    (v4.c.toNat * 256 + v4.d.toNat).toUInt16]⟩

/-! ## Reading -/

/-- One group: one to four hexadecimal digits. -/
def parseGroup? (text : Bytes) : Option UInt16 :=
  if text.length ≤ 4 then (Numeral.readAll? 16 text).map (·.toUInt16) else none

/-- The groups of a text, with colons between them; the empty text has none. -/
def parseGroups? (text : Bytes) : Option (List UInt16) :=
  if text = [] then some [] else (Bytes.fields 58 text).mapM parseGroup?

/-- The groups of a text that ends an address: the last field may be an IPv4 address, which counts
for two groups. -/
def parseTail? (text : Bytes) : Option (List UInt16) :=
  if text = [] then some []
  else
    let parts := Bytes.fields 58 text
    match parts.getLast?.bind Ipv4.parse? with
    | some v4 => do
      let front ← parts.dropLast.mapM parseGroup?
      some (front ++ [(v4.a.toNat * 256 + v4.b.toNat).toUInt16,
        (v4.c.toNat * 256 + v4.d.toNat).toUInt16])
    | none => parts.mapM parseGroup?

/-- The address with the given groups, if they are eight. -/
def ofGroups? (groups : List UInt16) : Option Ipv6 :=
  if h : groups.toArray.size = 8 then some ⟨⟨groups.toArray, h⟩⟩ else none

/-- The address written by the whole text.  The groups around a `::` leave room for at least one
zero group. -/
def parse? (text : Bytes) : Option Ipv6 :=
  match Bytes.cut? text (utf8 "::") with
  | some (front, back) => do
    let front ← parseGroups? front
    let back ← parseTail? back
    if front.length + back.length < 8 then
      ofGroups? (front ++ List.replicate (8 - (front.length + back.length)) 0 ++ back)
    else none
  | none => if text = [] then none else (parseTail? text).bind ofGroups?

/-! ## Printing -/

/-- The longest run of zero groups, as its start and its length, the first one of equal length.
`position` is that of the head of the list, `best` the best run before it and `current` the run
that ends there. -/
def longestZeroRun (position : Nat) (best current : Nat × Nat) : List UInt16 → Nat × Nat
  | [] => if best.2 < current.2 then current else best
  | g :: rest =>
    if g = 0 then
      longestZeroRun (position + 1) best
        (if current.2 = 0 then (position, 1) else (current.1, current.2 + 1)) rest
    else
      longestZeroRun (position + 1) (if best.2 < current.2 then current else best) (0, 0) rest

/-- Groups with colons between them. -/
def renderGroups (groups : List UInt16) : Bytes :=
  (groups.map fun g => Numeral.render 16 g.toNat).intersperse [58] |>.flatten

/-- The IPv4 address in the last 32 bits. -/
def lastIpv4 (address : Ipv6) : Ipv4 :=
  let g := address.groups[6].toNat
  let h := address.groups[7].toNat
  ⟨(g / 256).toUInt8, (g % 256).toUInt8, (h / 256).toUInt8, (h % 256).toUInt8⟩

/-- The printed form of an address. -/
def render (address : Ipv6) : Bytes :=
  let groups := address.groups.toList
  let (start, length) := longestZeroRun 0 (0, 0) (0, 0) groups
  if length < 2 then renderGroups groups
  else if start = 0 ∧ length = 6 then utf8 "::" ++ address.lastIpv4.render
  else if start = 0 ∧ length = 5 ∧ address.groups[5] = 0xffff then
    utf8 "::ffff:" ++ address.lastIpv4.render
  else
    renderGroups (groups.take start) ++ utf8 "::" ++ renderGroups (groups.drop (start + length))

end Ipv6

/-- The address of a socket. -/
inductive SocketAddress where
  | v4 (address : Ipv4)
  | v6 (address : Ipv6)
  /-- An address of another family. -/
  | other
  deriving DecidableEq

namespace SocketAddress

/-- The address as 128 bits, IPv4 addresses in their mapped form. -/
def mapped? : SocketAddress → Option Ipv6
  | .v4 address => some (.ofIpv4 address)
  | .v6 address => some address
  | .other => none

/-- The printed form; addresses of other families have none. -/
def render : SocketAddress → Bytes
  | .v4 address => address.render
  | .v6 address => address.render
  | .other => []

end SocketAddress

end MeteredHttp
