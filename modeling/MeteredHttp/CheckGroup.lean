import MeteredHttp.RunContext

/-!
# Checks

Named checks with counters of how often they held, kept in groups.

* `CheckGroup.get` finds or creates the record of a check.
* `CheckGroup.checkStatus` checks the status of a response.
-/

namespace MeteredHttp

/-- How often a check held, and how often it did not. -/
structure Tally where
  passes : Nat := 0
  fails : Nat := 0
  deriving DecidableEq

/-- Counts one more outcome. -/
def Tally.count (tally : Tally) (passed : Bool) : Tally :=
  if passed then { tally with passes := tally.passes + 1 }
  else { tally with fails := tally.fails + 1 }

/-- A group of checks, by name. -/
structure CheckGroup where
  name : Bytes := []
  checks : Dictionary Tally := .empty

namespace CheckGroup

/-- The record of a check. -/
def tally (group : CheckGroup) (check : Bytes) : Tally := (group.checks.find? check).getD {}

/-- What is wrong with a name that contains the separator of groups.  The text quotes the name up to
its first NUL byte. -/
def invalidName (check : Bytes) : Bytes :=
  utf8 "check name can't contain '::': " ++ check.untilNul

/-- The record of a check, which is created if it is new; names must not contain the separator of
groups. -/
def get (group : CheckGroup) (check : Bytes) : Except Bytes (Tally × CheckGroup) :=
  if check.contains (utf8 "::") then .error (invalidName check)
  else
    let tally := group.tally check
    .ok (tally, { group with checks := group.checks.insert check tally })

/-- The name of the check for a status. -/
def statusCheck (want : Int) : Bytes := utf8 "check status is " ++ Numeral.decimal want

/-- The sample of a check. -/
def sample (run : RunContext) (check : Bytes) (extra : Tags) (passed : Bool) (now : Timestamp) :
    Sample :=
  let ctx := (run.base.overlay extra).withEnabled run.enabled .check check
  { series := some .checks
    tags := ctx.tags
    metadata := ctx.metadata
    time := now
    value := if passed then .one else .zero }

/-- Checks that a response has the wanted status, counts the outcome on the record of the check and
reports it.  It fails if there is no such record because the name was refused. -/
def checkStatus (group : CheckGroup) (run : RunContext) (want status : Int) (extra : Tags)
    (now : Timestamp) : Except Bytes (Bool × CheckGroup × RunContext) := do
  let check := statusCheck want
  let (tally, group) ← group.get check
  let passed := status == want
  let outlets := run.outlets.publishOrWarn run.ended [sample run check extra passed now]
    (utf8 "dropping check sample")
  return (passed, { group with checks := group.checks.insert check (tally.count passed) },
    { run with outlets })

/-- A check of a status for those who know that its name is not refused. -/
def expectStatus (group : CheckGroup) (run : RunContext) (want status : Int) (extra : Tags)
    (now : Timestamp) : Bool × CheckGroup × RunContext :=
  (group.checkStatus run want status extra now).toOption.getD (status == want, group, run)

end CheckGroup

end MeteredHttp
