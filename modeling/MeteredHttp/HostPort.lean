import MeteredHttp.Numeral

/-!
# Hosts and ports

An address of the form `host:port`.  A host that holds a colon, such as an IPv6 address, stands in
brackets.
-/

namespace MeteredHttp.HostPort

/-- A host and a port as one address. -/
def join (host : Bytes) (port : Int) : Bytes :=
  (if 58 ∈ host then 91 :: host ++ [93] else host) ++ 58 :: Numeral.decimal port

/-- The host in brackets, of an address whose opening bracket has been read: the text up to the
first closing bracket, which a colon must follow. -/
def splitBracketed (address : Bytes) : Option Bytes :=
  match address.dropWhile (· ≠ 93) with
  | _ :: 58 :: _ => some (address.takeWhile (· ≠ 93))
  | _ => none

/-- The host of an address.  Without brackets there must be exactly one colon: a bare IPv6 address
has several and no port. -/
def split? : Bytes → Option Bytes
  | 91 :: rest => splitBracketed rest
  | address => if address.count 58 = 1 then some (address.takeWhile (· ≠ 58)) else none

end MeteredHttp.HostPort
