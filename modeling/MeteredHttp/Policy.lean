import MeteredHttp.Network

/-!
# Network policy

Which peers a client refuses to talk to: address ranges and patterns of host names.  The first
entry that matches is the one that is reported.

* `HostPattern.parse?` reads a pattern: a name, or `*.` followed by a domain.
* `Policy.ofLists` builds a policy from the texts of a configuration.
* `Policy.blockedAddress?` and `Policy.blockedHost?` are the verdicts.
-/

namespace MeteredHttp

/-- A pattern of host names, in lower case. -/
inductive HostPattern where
  /-- One host. -/
  | exactly (name : Bytes)
  /-- Every host below a domain, but not the domain itself. -/
  | below (domain : Bytes)
  deriving DecidableEq

namespace HostPattern

/-- The pattern as it is written, in lower case. -/
def text : HostPattern → Bytes
  | .exactly name => name
  | .below domain => utf8 "*." ++ domain

/-- A pattern of one host or of the hosts below a domain; a star is allowed nowhere else, and the
name must not be empty. -/
def parse? (text : Bytes) : Option HostPattern :=
  match text.dropStart? (utf8 "*.") with
  | some domain => if domain ≠ [] ∧ 42 ∉ domain then some (.below domain.lower) else none
  | none => if text ≠ [] ∧ 42 ∉ text then some (.exactly text.lower) else none

/-- Whether a host matches the pattern; letter case does not count. -/
def covers (pattern : HostPattern) (host : Bytes) : Bool :=
  match pattern with
  | .exactly name => host.lower == name
  | .below domain =>
    decide ((46 :: domain).length < host.length) && (46 :: domain).isSuffixOf host.lower

end HostPattern

/-- The address ranges and host patterns that a client refuses. -/
structure Policy where
  networks : List Network
  patterns : List HostPattern

namespace Policy

/-- Why a policy cannot be built. -/
inductive BuildError where
  | network (error : Network.ParseError)
  | pattern (text : Bytes)
  deriving DecidableEq

/-- The text of the error, which quotes a pattern up to its first NUL byte. -/
def BuildError.message : BuildError → Bytes
  | .network error => error.message
  | .pattern text => utf8 "invalid blocked hostname pattern: " ++ text.untilNul

/-- The policy that refuses nobody. -/
def empty : Policy := ⟨[], []⟩

/-- A range of a configuration. -/
def readNetwork (text : Bytes) : Except BuildError Network :=
  (Network.parse text).mapError .network

/-- A pattern of a configuration. -/
def readPattern (text : Bytes) : Except BuildError HostPattern :=
  match HostPattern.parse? text with
  | some pattern => .ok pattern
  | none => .error (.pattern text)

/-- The policy of the ranges and patterns of a configuration.  All ranges are read before the
patterns, and the first malformed text is reported. -/
def ofLists (networks patterns : List Bytes) : Except BuildError Policy := do
  let networks ← networks.mapM readNetwork
  let patterns ← patterns.mapM readPattern
  return ⟨networks, patterns⟩

/-- Whether the policy refuses nobody. -/
def isEmpty (policy : Policy) : Bool := policy.networks.isEmpty && policy.patterns.isEmpty

/-- The first range that holds the address of a socket.  Sockets of other families are never
refused. -/
def blockedAddress? (policy : Policy) (address : SocketAddress) : Option Network :=
  address.mapped?.bind fun mapped => policy.networks.find? (·.contains mapped)

/-- The first pattern that covers a host. -/
def blockedHost? (policy : Policy) (host : Bytes) : Option HostPattern :=
  policy.patterns.find? (·.covers host)

end Policy

end MeteredHttp
