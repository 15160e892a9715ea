import MeteredHttp.Outlets

/-!
# Runs

What a run lends to its clients and checks: the tags they attach to samples, and the outlets they
report to.
-/

namespace MeteredHttp

/-- The surroundings of clients and checks. -/
structure RunContext where
  /-- The system tags that are wanted. -/
  enabled : SystemTagSet := .default
  /-- The tags and the metadata of every sample. -/
  base : TagContext := {}
  outlets : Outlets := {}
  /-- The run is over; from now on samples are dropped. -/
  ended : Bool := false

namespace RunContext

/-- Ends the run. -/
def stop (run : RunContext) : RunContext := { run with ended := true }

end RunContext

end MeteredHttp
