import MeteredHttp.Address

/-!
# The host of a URL

Finds the host that a request to a URL would be sent to, or finds that the text is no URL.  The
rules are those of a lenient reader: one to three slashes may follow the scheme, an IPv4 address
may be abbreviated or written in octal or hexadecimal, and a name may hold percent-encoded bytes.

* `Url.authority?` is what stands between the scheme and the path.
* `Url.hostText?` drops the user information and the port.
* `Url.normalHost?` brings the host into its final form; `Url.bracketed?` does so for an IPv6
  address, whose brackets may be percent-encoded.
* `Url.host?` is all of this together.
-/

namespace MeteredHttp.Url

/-! ## Scheme and authority -/

/-- The schemes that are known. -/
def schemes : List Bytes :=
  ["dict", "file", "ftp", "ftps", "gopher", "gophers", "http", "https", "imap", "imaps", "ldap",
    "ldaps", "mqtt", "pop3", "pop3s", "rtmp", "rtmpe", "rtmps", "rtmpt", "rtmpte", "rtmpts",
    "rtsp", "scp", "sftp", "smb", "smbs", "smtp", "smtps", "telnet", "tftp"].map utf8

/-- The bytes a scheme may hold after its first letter. -/
def isSchemeByte (b : UInt8) : Bool :=
  Bytes.isLetter b || Bytes.isDigit b || b == 43 || b == 45 || b == 46

/-- The scheme in lower case and what follows its colon. -/
def splitScheme? (text : Bytes) : Option (Bytes × Bytes) :=
  if text.head?.any Bytes.isLetter then
    let scheme := text.takeWhile isSchemeByte
    match text.drop scheme.length with
    | 58 :: rest => if scheme.length ≤ 40 then some (Bytes.lower scheme, rest) else none
    | _ => none
  else none

/-- The authority of a URL: what follows the scheme and one to three slashes, up to the path, the
query or the fragment.  It must not be empty, and URLs of local files have none. -/
def authority? (text : Bytes) : Option Bytes := do
  let (scheme, rest) ← splitScheme? text
  let slashes := (rest.take 4).takeWhile (· == 47)
  let authority := (rest.drop slashes.length).takeWhile fun b => b ≠ 47 ∧ b ≠ 63 ∧ b ≠ 35
  if scheme ∈ schemes ∧ scheme ≠ utf8 "file" ∧ 1 ≤ slashes.length ∧ slashes.length ≤ 3
      ∧ authority ≠ [] then
    some authority
  else none

/-! ## User information and port -/

/-- The authority without the user information, which ends at the first `@`. -/
def withoutUser (authority : Bytes) : Bytes :=
  match Bytes.cut? authority [64] with
  | some (_, rest) => rest
  | none => authority

/-- Whether a text that follows the host is nothing, a colon alone, or a colon and a port. -/
def isPortSuffix : Bytes → Bool
  | [] => true
  | b :: digits =>
    b == 58 && (digits.isEmpty || (Numeral.readAll? 10 digits).any (· ≤ 65535))

/-- The host and the port, still with its colon, of an authority without user information.  A host
in brackets ends at the first closing bracket, any other at the first colon. -/
def splitPort? (text : Bytes) : Option (Bytes × Bytes) :=
  if text.head? = some 91 then
    (Bytes.find? text [93]).map fun i => (text.take (i + 1), text.drop (i + 1))
  else some (text.takeWhile (· ≠ 58), text.dropWhile (· ≠ 58))

/-- The host of an authority as it is written. -/
def hostText? (authority : Bytes) : Option Bytes := do
  let (host, port) ← splitPort? (withoutUser authority)
  if isPortSuffix port ∧ host ≠ [] then some host else none

/-! ## IPv4 addresses in any notation -/

/-- One number of an IPv4 address: hexadecimal after `0x`, octal after another leading zero. -/
def ipv4Number? (text : Bytes) : Option Nat :=
  match text with
  | 48 :: 120 :: digits | 48 :: 88 :: digits => Numeral.readAll? 16 digits
  | 48 :: _ => Numeral.readAll? 8 text
  | _ => Numeral.readAll? 10 text

/-- The address given by one to four numbers, the last of which fills the bytes that remain. -/
def ipv4OfNumbers? (numbers : List Nat) : Option Ipv4 :=
  let assemble (leading : List Nat) (last : Nat) : Option Ipv4 :=
    if leading.all (· ≤ 255) ∧ last < Nat.pow 256 (4 - leading.length) then
      let n := leading.foldr (fun octet acc => octet * 16777216 + acc / 256) 0 + last
      some ⟨(n / 16777216).toUInt8, (n / 65536).toUInt8, (n / 256).toUInt8, n.toUInt8⟩
    else none
  match numbers with
  | [a] => assemble [] a
  | [a, b] => assemble [a] b
  | [a, b, c] => assemble [a, b] c
  | [a, b, c, d] => assemble [a, b, c] d
  | _ => none

/-- The IPv4 address that a host is written as, in any notation. -/
def looseIpv4? (host : Bytes) : Option Ipv4 :=
  ((Bytes.fields 46 host).mapM ipv4Number?).bind ipv4OfNumbers?

/-! ## IPv6 addresses in brackets -/

/-- The bytes an IPv6 address is written with. -/
def isIpv6Byte (b : UInt8) : Bool := Numeral.isDigitOf 16 b || b == 58 || b == 46

/-- Whether a text that follows a percent sign is the name of a zone and a closing bracket.  The
percent sign may itself be percent-encoded, which leaves a 25 in front of the name. -/
def isZone (text : Bytes) : Bool :=
  let named : Bytes :=
    match text with
    | 50 :: 53 :: b :: rest => if b = 93 then text else b :: rest
    | _ => text
  let name : Bytes := named.takeWhile (· ≠ 93)
  decide (0 < name.length ∧ name.length ≤ 15 ∧ name.length < named.length)

/-- Whether a text that follows an address closes it: with a single byte, which is a bracket unless
the brackets are percent-encoded, or with a zone, after whose bracket anything may stand. -/
def closesAddress : Bytes → Bool
  | [] => false
  | b :: rest => rest.isEmpty || (b == 37 && isZone rest)

/-- The host of an IPv6 address behind an opening bracket.  The zone is dropped, and the address is
replaced by its printed form where that is shorter. -/
def bracketed? (host : Bytes) : Option Bytes :=
  let inside := host.drop 1
  let address := inside.takeWhile isIpv6Byte
  if host.length < 4 ∨ ¬closesAddress (inside.drop address.length) then none
  else
    (Ipv6.parse? address).map fun v6 =>
      let printed := v6.render
      91 :: (if printed.length < address.length then printed else address) ++ [93]

/-! ## Names -/

/-- The byte that two hexadecimal digits stand for. -/
def hexPair? (high low : UInt8) : Option UInt8 := do
  some (16 * (← Numeral.digitValue? high) + (← Numeral.digitValue? low)).toUInt8

/-- A text with every percent sign and the two hexadecimal digits behind it replaced by the byte
they stand for. -/
def percentDecode : Bytes → Bytes
  | 37 :: high :: low :: rest =>
    match hexPair? high low with
    | some b => b :: percentDecode rest
    | none => 37 :: percentDecode (high :: low :: rest)
  | b :: rest => b :: percentDecode rest
  | [] => []
termination_by text => text.length

/-- A host with its percent signs decoded, unless that yields a control character. -/
def decodeHost? (host : Bytes) : Option Bytes :=
  let decoded := percentDecode host
  if decoded.any (· < 32) then none else some decoded

/-- The bytes that no name of a host holds.  A percent sign is not among them, so that `a%zz` is a
name: these are the rules of libcurl 7.88, later ones are stricter. -/
def isForbidden (b : UInt8) : Bool :=
  b ∈ utf8 " \t\r\n/:#?!@\x7b\x7d[]\\$'\"^`*<>=;,+&()"

/-- A name, unless it holds a forbidden byte. -/
def plainName? (name : Bytes) : Option Bytes :=
  if name.any isForbidden then none else some name

/-! ## The host -/

/-- The final form of a host that is neither an IPv4 address nor stands in brackets as it is
written.  Once decoded it may still be an address in brackets. -/
def decodedHost? (host : Bytes) : Option Bytes := do
  let decoded ← decodeHost? host
  if decoded.head? = some 91 then bracketed? decoded else plainName? decoded

/-- The final form of a host. -/
def normalHost? (host : Bytes) : Option Bytes :=
  match looseIpv4? host with
  | some v4 => some v4.render
  | none => if host.head? = some 91 then bracketed? host else decodedHost? host

/-- The bytes that no URL holds: controls, the blank and DEL. -/
def isJunk (b : UInt8) : Bool := b ≤ 32 || b == 127

/-- The length of the longest URL. -/
def longestUrl : Nat := 8000000

/-- The host of a URL, which ends at its first NUL byte. -/
def host? (url : Bytes) : Option Bytes := do
  let text := url.untilNul
  if longestUrl < text.length ∨ text.any isJunk then none
  else normalHost? (← hostText? (← authority? text))

/-- The host of a URL, or the empty text if there is none. -/
def host (url : Bytes) : Bytes := (host? url).getD []

end MeteredHttp.Url
