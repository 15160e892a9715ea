import MeteredHttp.Bytes
import MeteredHttp.Pool

/-!
# Custody of pooled objects

Who has the objects of a pool.  An object is idle in the pool, held by a caller, or bound to a
lease, which gives it back to the pool when it ends.  Callers and leases are told apart by name.

* `Custody.take` and `Custody.giveBack` move an object between the pool and a caller.
* `Custody.lease` binds the object of a caller to a lease, `Custody.endLease` gives it back.
* `Custody.alter` and `Custody.modify` change an object that is held or leased.
* `Custody.step` is any one of these, `Custody.steps` several.
-/

namespace MeteredHttp

/-- Where the objects of a pool are. -/
structure Custody (α : Type) where
  pool : Pool α := {}
  /-- What each caller holds. -/
  held : Bytes → Option α := fun _ => none
  /-- What each lease is bound to. -/
  leased : Bytes → Option α := fun _ => none

namespace Custody

variable {α : Type}

/-- What the holders have once `name` has `item`; all others keep what they have. -/
def assign (holders : Bytes → Option α) (name : Bytes) (item : Option α) : Bytes → Option α :=
  fun other => if other = name then item else holders other

/-- A caller comes with a new object, which replaces what it held before. -/
def bring (c : Custody α) (name : Bytes) (item : α) : Custody α :=
  { c with held := assign c.held name (some item) }

/-- A caller takes an object out of the pool, or holds nothing if there is none. -/
def take (c : Custody α) (name : Bytes) : Option α × Custody α :=
  let (item, pool) := c.pool.take
  (item, { c with pool, held := assign c.held name item })

/-- A caller gives its object back. -/
def giveBack (c : Custody α) (name : Bytes) : Custody α :=
  { c with pool := c.pool.giveBack (c.held name), held := assign c.held name none }

/-- A caller changes the object it holds. -/
def alter (c : Custody α) (name : Bytes) (change : α → α) : Custody α :=
  { c with held := assign c.held name ((c.held name).map change) }

/-- The object of a caller is bound to the lease of the same name.  If that lease is still open it
ends first. -/
def lease (c : Custody α) (name : Bytes) : Custody α where
  pool := c.pool.giveBack (c.leased name)
  held := assign c.held name none
  leased := assign c.leased name (c.held name)

/-- A lease ends and gives its object back. -/
def endLease (c : Custody α) (name : Bytes) : Custody α :=
  { c with pool := c.pool.giveBack (c.leased name), leased := assign c.leased name none }

/-- Changes the object that a lease is bound to. -/
def modify (c : Custody α) (name : Bytes) (change : α → α) : Custody α :=
  { c with leased := assign c.leased name ((c.leased name).map change) }

/-! ## Histories -/

/-- What can happen to the objects of a pool. -/
inductive Step (α : Type) where
  | bring (name : Bytes) (item : α)
  | take (name : Bytes)
  | alter (name : Bytes) (change : α → α)
  | giveBack (name : Bytes)
  | lease (name : Bytes)
  | modify (name : Bytes) (change : α → α)
  | endLease (name : Bytes)

/-- One step. -/
def step (c : Custody α) : Step α → Custody α
  | .bring name item => c.bring name item
  | .take name => (c.take name).2
  | .alter name change => c.alter name change
  | .giveBack name => c.giveBack name
  | .lease name => c.lease name
  | .modify name change => c.modify name change
  | .endLease name => c.endLease name

/-- Several steps, one after the other. -/
def steps (c : Custody α) (history : List (Step α)) : Custody α := history.foldl step c

end Custody

end MeteredHttp
