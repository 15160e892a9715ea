/-!
# Pools

Objects that wait to be used again.  The one that came back last is handed out first.

* `Pool.take` takes an object out, `Pool.giveBack` gives one back.
-/

namespace MeteredHttp

/-- Objects that wait to be used again, the one that came back last in front. -/
structure Pool (α : Type) where
  idle : List α := []

namespace Pool

variable {α : Type}

instance : Inhabited (Pool α) := ⟨{}⟩

/-- Takes out the object that came back last, if there is one. -/
def take (pool : Pool α) : Option α × Pool α :=
  match pool.idle with
  | [] => (none, pool)
  | item :: rest => (some item, ⟨rest⟩)

/-- Gives an object back; to give back nothing changes nothing. -/
def giveBack (pool : Pool α) : Option α → Pool α
  | none => pool
  | some item => ⟨item :: pool.idle⟩

/-- The number of objects that wait. -/
def size (pool : Pool α) : Nat := pool.idle.length

end Pool

end MeteredHttp
