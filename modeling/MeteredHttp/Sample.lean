import MeteredHttp.Binary64
import MeteredHttp.TagContext
import MeteredHttp.Timestamp

/-!
# Samples

The data points that requests and checks leave behind.
-/

namespace MeteredHttp

/-- The series that samples are recorded in. -/
inductive Series where
  /-- One for every request. -/
  | requests
  /-- How long a request took, in milliseconds. -/
  | duration
  /-- One for every request whose status was not expected. -/
  | failed
  /-- One for every check that held. -/
  | checks
  /-- Any other series, by its name. -/
  | other (name : Bytes)
  deriving DecidableEq

namespace Series

/-- The series that every run has. -/
def builtin : List Series := [.requests, .duration, .failed, .checks]

/-- The name of a series. -/
def name : Series → Bytes
  | .requests => utf8 "http_reqs"
  | .duration => utf8 "http_req_duration"
  | .failed => utf8 "http_req_failed"
  | .checks => utf8 "checks"
  | .other name => name

/-- The series of a name, among those that every run has. -/
def ofName? (name : Bytes) : Option Series := builtin.find? (·.name = name)

end Series

/-- A data point. -/
structure Sample where
  /-- The series it belongs to, if any. -/
  series : Option Series
  tags : Tags
  metadata : Tags
  time : Timestamp
  value : Binary64

/-- The samples that are handed over together. -/
abbrev Batch := List Sample

/-- A duration in nanoseconds, expressed in milliseconds. -/
def milliseconds (nanoseconds : Int) : Binary64 := (Binary64.ofInt nanoseconds).divNat 1000000

end MeteredHttp
