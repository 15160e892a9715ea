import MeteredHttp.Bytes

/-!
# System tags

The tags that the library puts on samples of its own accord.  A run chooses which of them it wants.
-/

namespace MeteredHttp

/-- A tag that the library itself sets. -/
inductive SystemTag where
  | proto
  | subproto
  | status
  | method
  | url
  | name
  | group
  | check
  | error
  | errorCode
  | tlsVersion
  | scenario
  | service
  | expectedResponse
  | ip
  | vu
  | iter
  deriving DecidableEq

namespace SystemTag

/-- All system tags in their order. -/
def all : List SystemTag :=
  [.proto, .subproto, .status, .method, .url, .name, .group, .check, .error, .errorCode,
    .tlsVersion, .scenario, .service, .expectedResponse, .ip, .vu, .iter]

/-- The name under which a system tag is kept. -/
def key : SystemTag → Bytes
  | .proto => utf8 "proto"
  | .subproto => utf8 "subproto"
  | .status => utf8 "status"
  | .method => utf8 "method"
  | .url => utf8 "url"
  | .name => utf8 "name"
  | .group => utf8 "group"
  | .check => utf8 "check"
  | .error => utf8 "error"
  | .errorCode => utf8 "error_code"
  | .tlsVersion => utf8 "tls_version"
  | .scenario => utf8 "scenario"
  | .service => utf8 "service"
  | .expectedResponse => utf8 "expected_response"
  | .ip => utf8 "ip"
  | .vu => utf8 "vu"
  | .iter => utf8 "iter"

/-- The system tag kept under a name. -/
def ofKey? (key : Bytes) : Option SystemTag := all.find? (·.key = key)

/-- The tags whose values are too many to be indexed; they go to the metadata. -/
def isMetadata : SystemTag → Bool
  | .vu | .iter => true
  | _ => false

end SystemTag

/-- A set of system tags. -/
structure SystemTagSet where
  has : SystemTag → Bool

namespace SystemTagSet

/-- No system tag. -/
def empty : SystemTagSet := ⟨fun _ => false⟩

/-- The set with one more tag. -/
def insert (set : SystemTagSet) (tag : SystemTag) : SystemTagSet :=
  ⟨fun other => other = tag || set.has other⟩

/-- The set without a tag. -/
def erase (set : SystemTagSet) (tag : SystemTag) : SystemTagSet :=
  ⟨fun other => other ≠ tag && set.has other⟩

/-- The set of the listed tags. -/
def ofList (tags : List SystemTag) : SystemTagSet := ⟨fun tag => tags.contains tag⟩

/-- The tags of the set in their order. -/
def toList (set : SystemTagSet) : List SystemTag := SystemTag.all.filter set.has

/-- The set that is used unless another one is asked for: all tags but those of the peer address
and of the metadata. -/
def default : SystemTagSet := ⟨fun tag => tag ≠ .ip && !tag.isMetadata⟩

end SystemTagSet

end MeteredHttp
