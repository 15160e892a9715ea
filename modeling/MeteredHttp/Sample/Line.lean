import MeteredHttp.Json.Printer
import MeteredHttp.Sample

/-!
# Sample lines

A sample in writing is a JSON document on a line of its own.
-/

namespace MeteredHttp

/-- Tags as an object. -/
def Tags.toJson (tags : Tags) : Json.Value :=
  .object (tags.entries.map fun (name, value) => (name, .string value))

namespace Sample

/-- A sample as a JSON document. -/
def toJson (sample : Sample) : Json.Value :=
  .object [
    (utf8 "data", .object [
      (utf8 "metadata", sample.metadata.toJson),
      (utf8 "tags", sample.tags.toJson),
      (utf8 "time", .string sample.time.render),
      (utf8 "value", .real sample.value)]),
    (utf8 "metric", .string ((sample.series.map Series.name).getD [])),
    (utf8 "type", .string (utf8 "Point"))]

/-- The line of a sample, with its end.  A sample whose tags are not valid UTF-8 has none. -/
def line (sample : Sample) : Except Json.Fault Bytes :=
  sample.toJson.write?.map (· ++ [10])

end Sample

end MeteredHttp
