import Mathlib.Tactic.Lemma
import MeteredHttp.Pool.Custody

/-!
# Places of pooled objects

An object is idle in the pool, held by a caller or bound to a lease, and it has an identity that its
holders cannot change.

* `Custody.Place` is where an object can be, `Custody.at?` what is there.
* `Custody.Moves` says that objects went to other places.  It keeps them apart (`Moves.apart`) and
  loses none (`Moves.has_iff`).
* By `Custody.moves_step` every step brings an object, or moves those that its caller did not drop.
  So `Custody.apart_step` and `Custody.has_step_iff` say what any step does to them.
-/

namespace MeteredHttp

namespace Custody

variable {α ι : Type} (identity : α → ι)

/-! ## Places -/

/-- Where an object can be. -/
inductive Place where
  /-- In the pool, after as many others. -/
  | idle (position : Nat)
  | held (name : Bytes)
  | leased (name : Bytes)
deriving DecidableEq

namespace Place

/-- Where objects go when that of a holder is put in front of the pool. -/
def onReturn (holder : Place) (place : Place) : Place :=
  if place = holder then .idle 0 else match place with
    | .idle position => .idle (position + 1)
    | other => other

/-- Where objects go when a caller takes the one in front. -/
def onTake (name : Bytes) : Place → Place
  | .idle 0 => .held name
  | .idle (position + 1) => .idle position
  | other => other

/-- Where objects go when that of a caller is bound to its lease. -/
def onLease (name : Bytes) : Place → Place
  | .held other => if other = name then .leased name else .held other
  | other => other

end Place

/-- What is at a place. -/
def at? (c : Custody α) : Place → Option α
  | .idle position => c.pool.idle[position]?
  | .held name => c.held name
  | .leased name => c.leased name

/-- No object is in two places. -/
def Apart (c : Custody α) : Prop :=
  ∀ p q x y, c.at? p = some x → c.at? q = some y → identity x = identity y → p = q

/-- The object of an identity is somewhere. -/
def Has (c : Custody α) (k : ι) : Prop := ∃ p x, c.at? p = some x ∧ identity x = k

/-- The objects of `before` go to other places, and nothing else is in `after`. -/
def Moves (before after : Custody α) : Prop :=
  ∃ destination : Place → Place,
    (∀ p x, before.at? p = some x →
        ∃ y, after.at? (destination p) = some y ∧ identity y = identity x)
      ∧ ∀ q y, after.at? q = some y →
        ∃ p x, before.at? p = some x ∧ destination p = q ∧ identity y = identity x

namespace Moves

variable {identity} {before between after : Custody α}

lemma of_same (h : ∀ p, after.at? p = before.at? p) : Moves identity before after :=
  ⟨id, fun p x hx => ⟨x, (h p).trans hx, rfl⟩, fun q y hy => ⟨q, y, (h q).symm.trans hy, rfl, rfl⟩⟩

lemma trans (h : Moves identity before between) (h' : Moves identity between after) :
    Moves identity before after := by
  obtain ⟨first, harrive, hleave⟩ := h
  obtain ⟨second, harrive', hleave'⟩ := h'
  refine ⟨second ∘ first, ?_, ?_⟩
  · intro p x hx
    obtain ⟨y, hy, hyx⟩ := harrive p x hx
    obtain ⟨z, hz, hzy⟩ := harrive' (first p) y hy
    exact ⟨z, hz, hzy.trans hyx⟩
  · intro r z hz
    obtain ⟨q, y, hy, rfl, hzy⟩ := hleave' r z hz
    obtain ⟨p, x, hx, rfl, hyx⟩ := hleave q y hy
    exact ⟨p, x, hx, rfl, hzy.trans hyx⟩

/-- Objects that are apart stay apart when they are moved. -/
lemma apart (h : Moves identity before after) (hapart : Apart identity before) :
    Apart identity after := by
  obtain ⟨destination, -, hleave⟩ := h
  intro p q x y hx hy hxy
  obtain ⟨p', x', hx', rfl, hxx'⟩ := hleave p x hx
  obtain ⟨q', y', hy', rfl, hyy'⟩ := hleave q y hy
  have hsame : p' = q' := hapart p' q' x' y' hx' hy' (by rw [← hxx', ← hyy', hxy])
  rw [hsame]

/-- No object is lost when it is moved, and none appears. -/
lemma has_iff (h : Moves identity before after) (k : ι) :
    Has identity after k ↔ Has identity before k := by
  obtain ⟨destination, harrive, hleave⟩ := h
  constructor
  · rintro ⟨q, y, hy, rfl⟩
    obtain ⟨p, x, hx, -, hyx⟩ := hleave q y hy
    exact ⟨p, x, hx, hyx.symm⟩
  · rintro ⟨p, x, hx, rfl⟩
    obtain ⟨y, hy, hyx⟩ := harrive p x hx
    exact ⟨destination p, y, hy, hyx⟩

/-- A holder may change its object, if it keeps the identity. -/
lemma of_changed {change : α → α} (hkeeps : ∀ x, identity (change x) = identity x)
    (hat : ∀ p, after.at? p = before.at? p ∨ after.at? p = (before.at? p).map change) :
    Moves identity before after := by
  refine ⟨id, ?_, ?_⟩
  · intro p x hx
    rcases hat p with hsame | hchanged
    · exact ⟨x, hsame.trans hx, rfl⟩
    · exact ⟨change x, by rw [id, hchanged, hx, Option.map_some], hkeeps x⟩
  · intro q y hy
    rcases hat q with hsame | hchanged
    · exact ⟨q, y, hsame ▸ hy, rfl, rfl⟩
    · obtain ⟨x, hx, rfl⟩ := Option.map_eq_some_iff.mp (hchanged ▸ hy)
      exact ⟨q, x, hx, rfl, hkeeps x⟩

/-- What a holder had goes into the pool, in front of all others. -/
lemma of_returned (holder : Place) (haway : ∀ n, holder ≠ .idle n)
    (hpool : after.pool = before.pool.giveBack (before.at? holder))
    (hleft : after.at? holder = none)
    (hothers : ∀ p, p ≠ holder → (∀ n, p ≠ .idle n) → after.at? p = before.at? p) :
    Moves identity before after := by
  cases hitem : before.at? holder with
  | none =>
    refine of_same fun p => ?_
    by_cases hp : p = holder
    · rw [hp, hleft, hitem]
    · cases p with
      | idle n => rw [at?, at?, hpool, hitem, Pool.giveBack]
      | held | leased => exact hothers _ hp (by simp)
  | some item =>
    have hidle : after.pool.idle = item :: before.pool.idle := by
      rw [hpool, hitem, Pool.giveBack]
    refine ⟨holder.onReturn, ?_, ?_⟩
    · intro p x hx
      refine ⟨x, ?_, rfl⟩
      by_cases hp : p = holder
      · subst hp
        simpa [Place.onReturn, at?, hidle] using hitem.symm.trans hx
      · cases p with
        | idle n => simpa [Place.onReturn, hp, at?, hidle] using hx
        | held | leased => simpa [Place.onReturn, hp] using (hothers _ hp (by simp)).trans hx
    · intro q y hy
      have hother : q ≠ holder := by
        rintro rfl
        rw [hleft] at hy
        cases hy
      match q with
      | .idle 0 =>
        obtain rfl : item = y := by simpa [at?, hidle] using hy
        exact ⟨holder, item, hitem, if_pos rfl, rfl⟩
      | .idle (n + 1) =>
        exact ⟨.idle n, y, by simpa [at?, hidle] using hy, if_neg (haway n).symm, rfl⟩
      | .held name | .leased name =>
        exact ⟨_, y, (hothers _ hother (by simp)).symm.trans hy, if_neg hother, rfl⟩

end Moves

/-! ## One step -/

namespace Step

/-- The object that a step brings. -/
def brought? : Step α → Option α
  | .bring _ item => some item
  | _ => none

/-- Whoever changes an object keeps its identity. -/
def Keeps : Step α → Prop
  | .alter _ change | .modify _ change => ∀ x, identity (change x) = identity x
  | _ => True

end Step

/-- The object that a caller drops when a step gives it another one. -/
def dropped? (c : Custody α) : Step α → Option α
  | .bring name _ | .take name => c.held name
  | _ => none

/-- What is left once it has dropped it. -/
def lightened (c : Custody α) : Step α → Custody α
  | .bring name _ | .take name => { c with held := assign c.held name none }
  | _ => c

variable {identity}

/-- Nothing but what is dropped is lost. -/
lemma at?_lightened (c : Custody α) (s : Step α) (p : Place) :
    (c.lightened s).at? p = c.at? p
      ∨ (c.lightened s).at? p = none ∧ c.at? p = c.dropped? s := by
  cases s with
  | bring name | take name =>
    cases p with
    | idle | leased => exact .inl rfl
    | held other => by_cases h : other = name <;> simp [lightened, dropped?, at?, assign, h]
  | _ => exact .inl rfl

lemma take_of_empty {c : Custody α} (h : c.pool.idle = []) (name : Bytes) :
    c.take name = (none, { c with held := assign c.held name none }) := by
  simp [take, Pool.take, h]

lemma take_of_cons {c : Custody α} {first : α} {rest : List α} (h : c.pool.idle = first :: rest)
    (name : Bytes) :
    c.take name
      = (some first, { c with pool := ⟨rest⟩, held := assign c.held name (some first) }) := by
  simp [take, Pool.take, h]

lemma moves_take (c : Custody α) (name : Bytes) :
    Moves identity (c.lightened (.take name)) (c.take name).2 := by
  cases hidle : c.pool.idle with
  | nil =>
    rw [take_of_empty hidle]
    exact Moves.of_same fun _ => rfl
  | cons first rest =>
    rw [take_of_cons hidle]
    refine ⟨Place.onTake name, ?_, ?_⟩
    · intro p x hx
      refine ⟨x, ?_, rfl⟩
      match p with
      | .idle 0 => simpa [Place.onTake, lightened, at?, assign, hidle] using hx
      | .idle (n + 1) => simpa [Place.onTake, lightened, at?, hidle] using hx
      | .held other =>
        obtain ⟨hother, hx⟩ : other ≠ name ∧ c.held other = some x := by
          simpa [lightened, at?, assign] using hx
        simpa [Place.onTake, at?, assign, hother] using hx
      | .leased other => exact hx
    · intro q y hy
      cases q with
      | idle n =>
        exact ⟨.idle (n + 1), y, by simpa [lightened, at?, hidle] using hy, rfl, rfl⟩
      | held other =>
        by_cases hother : other = name
        · refine ⟨.idle 0, y, ?_, by rw [hother, Place.onTake], rfl⟩
          simpa [lightened, at?, assign, hidle, hother] using hy
        · refine ⟨.held other, y, ?_, rfl, rfl⟩
          simpa [lightened, at?, assign, hother] using hy
      | leased other => exact ⟨.leased other, y, hy, rfl, rfl⟩

lemma moves_giveBack (c : Custody α) (name : Bytes) : Moves identity c (c.giveBack name) := by
  refine Moves.of_returned (.held name) (by simp) rfl ?_ fun p => ?_
  · simp [giveBack, at?, assign]
  · cases p <;> simp +contextual [giveBack, at?, assign]

lemma moves_endLease (c : Custody α) (name : Bytes) : Moves identity c (c.endLease name) := by
  refine Moves.of_returned (.leased name) (by simp) rfl ?_ fun p => ?_
  · simp [endLease, at?, assign]
  · cases p <;> simp +contextual [endLease, at?, assign]

lemma moves_lease (c : Custody α) (name : Bytes) : Moves identity c (c.lease name) := by
  -- the lease that is still open ends, then the object of the caller goes to the lease
  refine (moves_endLease c name).trans ⟨Place.onLease name, ?_, ?_⟩
  · intro p x hx
    refine ⟨x, ?_, rfl⟩
    cases p with
    | idle n => exact hx
    | held other =>
      by_cases hother : other = name <;>
        simpa [Place.onLease, lease, endLease, at?, assign, hother] using hx
    | leased other =>
      obtain ⟨hother, hx⟩ : other ≠ name ∧ c.leased other = some x := by
        simpa [endLease, at?, assign] using hx
      simpa [Place.onLease, lease, at?, assign, hother] using hx
  · intro q y hy
    cases q with
    | idle n => exact ⟨.idle n, y, hy, rfl, rfl⟩
    | held other =>
      obtain ⟨hother, hy⟩ : other ≠ name ∧ c.held other = some y := by
        simpa [lease, at?, assign] using hy
      exact ⟨.held other, y, hy, by simp [Place.onLease, hother], rfl⟩
    | leased other =>
      by_cases hother : other = name
      · refine ⟨.held name, y, ?_, by simp [Place.onLease, hother], rfl⟩
        simpa [lease, endLease, at?, assign, hother] using hy
      · refine ⟨.leased other, y, ?_, rfl, rfl⟩
        simpa [lease, endLease, at?, assign, hother] using hy

lemma moves_alter (c : Custody α) (name : Bytes) {change : α → α}
    (hkeeps : ∀ x, identity (change x) = identity x) : Moves identity c (c.alter name change) := by
  refine Moves.of_changed hkeeps fun p => ?_
  cases p with
  | idle | leased => exact .inl rfl
  | held other => by_cases h : other = name <;> simp [alter, at?, assign, h]

lemma moves_modify (c : Custody α) (name : Bytes) {change : α → α}
    (hkeeps : ∀ x, identity (change x) = identity x) : Moves identity c (c.modify name change) := by
  refine Moves.of_changed hkeeps fun p => ?_
  cases p with
  | idle | held => exact .inl rfl
  | leased other => by_cases h : other = name <;> simp [modify, at?, assign, h]

/-- **A step** brings an object, or moves those that its caller did not drop. -/
lemma moves_step (c : Custody α) {s : Step α} (hkeeps : s.Keeps identity) :
    (∃ name item, s = .bring name item)
      ∨ s.brought? = none ∧ Moves identity (c.lightened s) (c.step s) := by
  cases s with
  | bring name item => exact .inl ⟨name, item, rfl⟩
  | take name => exact .inr ⟨rfl, moves_take c name⟩
  | alter name change => exact .inr ⟨rfl, moves_alter c name hkeeps⟩
  | giveBack name => exact .inr ⟨rfl, moves_giveBack c name⟩
  | lease name => exact .inr ⟨rfl, moves_lease c name⟩
  | modify name change => exact .inr ⟨rfl, moves_modify c name hkeeps⟩
  | endLease name => exact .inr ⟨rfl, moves_endLease c name⟩

/-- An object that is brought is all that comes to what its caller did not drop. -/
lemma at?_bring {c : Custody α} {name : Bytes} {item x : α} {p : Place} :
    (c.bring name item).at? p = some x
      ↔ p = .held name ∧ item = x ∨ (c.lightened (.bring name item)).at? p = some x := by
  cases p with
  | idle | leased => simp [bring, lightened, at?]
  | held other => by_cases h : other = name <;> simp [bring, lightened, at?, assign, h]

lemma has_step_iff (c : Custody α) {s : Step α} (hkeeps : s.Keeps identity) (k : ι) :
    Has identity (c.step s) k
      ↔ Has identity (c.lightened s) k ∨ s.brought?.map identity = some k := by
  rcases moves_step c hkeeps with ⟨name, item, rfl⟩ | ⟨hbrings, hmoves⟩
  · constructor
    · rintro ⟨p, x, hx, rfl⟩
      rcases at?_bring.mp hx with ⟨-, rfl⟩ | hx
      · exact .inr rfl
      · exact .inl ⟨p, x, hx, rfl⟩
    · rintro (⟨p, x, hx, rfl⟩ | hitem)
      · exact ⟨p, x, at?_bring.mpr (.inr hx), rfl⟩
      · exact ⟨.held name, item, at?_bring.mpr (.inl ⟨rfl, rfl⟩), Option.some.inj hitem⟩
  · rw [hmoves.has_iff, hbrings]
    simp

/-- What is somewhere stays there for its caller, or is dropped by it. -/
lemma has_lightened_or {c : Custody α} (s : Step α) {k : ι} (h : Has identity c k) :
    Has identity (c.lightened s) k ∨ (c.dropped? s).map identity = some k := by
  obtain ⟨p, x, hx, rfl⟩ := h
  rcases at?_lightened c s p with hsame | ⟨-, hdropped⟩
  · exact .inl ⟨p, x, hsame.trans hx, rfl⟩
  · exact .inr (by rw [← hdropped, hx, Option.map_some])

lemma at?_of_lightened {c : Custody α} {s : Step α} {p : Place} {x : α}
    (h : (c.lightened s).at? p = some x) : c.at? p = some x := by
  rcases at?_lightened c s p with hsame | ⟨hnone, -⟩
  · exact hsame.symm.trans h
  · rw [hnone] at h
    cases h

lemma apart_step {c : Custody α} {s : Step α} (hkeeps : s.Keeps identity)
    (hnew : ∀ item, s.brought? = some item → ¬Has identity c (identity item))
    (hapart : Apart identity c) : Apart identity (c.step s) := by
  have hlightened : Apart identity (c.lightened s) := fun p q x y hx hy =>
    hapart p q x y (at?_of_lightened hx) (at?_of_lightened hy)
  rcases moves_step c hkeeps with ⟨name, item, rfl⟩ | ⟨-, hmoves⟩
  · -- the only object that could be in two places is the new one, and it was nowhere
    have hnowhere : ∀ p x, (c.lightened (.bring name item)).at? p = some x →
        identity item ≠ identity x := fun p x hx hsame =>
      hnew item rfl ⟨p, x, at?_of_lightened hx, hsame.symm⟩
    intro p q x y hx hy hxy
    rcases at?_bring.mp hx with ⟨rfl, rfl⟩ | hbefore
    · rcases at?_bring.mp hy with ⟨rfl, -⟩ | hbefore
      · rfl
      · exact absurd hxy (hnowhere q y hbefore)
    · rcases at?_bring.mp hy with ⟨rfl, rfl⟩ | hbefore'
      · exact absurd hxy.symm (hnowhere p x hbefore)
      · exact hlightened p q x y hbefore hbefore' hxy
  · exact hmoves.apart hlightened

end Custody

end MeteredHttp
