import Mathlib.Data.List.Induction
import Mathlib.Data.List.Nodup
import MeteredHttp.Proofs.Pool.Places

/-!
# Histories of pooled objects

Objects with different identities are brought to a new pool.  Callers and leases take them out,
change them and give them back in any order.

* `Custody.apart_steps` says that they stay apart, `Custody.has_or_dropped` that none is lost.
* `Custody.returned_append_idle` is the one fact about the idle objects from which their number
  (`Custody.size_steps`) and their order (`Custody.inOrder_steps`) follow.
* **`Custody.objects_apart_and_reused_in_order`** is all of this for any history.
-/

namespace MeteredHttp

namespace Custody

variable {α ι : Type} {identity : α → ι}

/-! ## What histories bring -/

section

variable (identity)

/-- The identities of the objects that a history brings. -/
def brought (history : List (Step α)) : List ι := (history.filterMap Step.brought?).map identity

/-- A history brings distinct objects, and they keep their identities. -/
structure Distinct (history : List (Step α)) : Prop where
  brought : (brought identity history).Nodup
  keeps : ∀ s ∈ history, s.Keeps identity

end

lemma steps_concat (c : Custody α) (history : List (Step α)) (s : Step α) :
    c.steps (history ++ [s]) = (c.steps history).step s := by simp [steps]

lemma brought_concat (history : List (Step α)) (s : Step α) :
    brought identity (history ++ [s])
      = brought identity history ++ (s.brought?.map identity).toList := by
  cases h : s.brought? <;> simp [brought, h]

lemma Distinct.of_concat {history : List (Step α)} {s : Step α}
    (h : Distinct identity (history ++ [s])) : Distinct identity history := by
  refine ⟨?_, fun s hs => h.keeps s (List.mem_append_left _ hs)⟩
  exact (List.nodup_append.mp (brought_concat history s ▸ h.brought)).1

/-- Every object was brought. -/
lemma mem_brought_of_has {history : List (Step α)} (hkeeps : ∀ s ∈ history, s.Keeps identity)
    {k : ι} (h : Has identity (({} : Custody α).steps history) k) :
    k ∈ brought identity history := by
  induction history using List.reverseRecOn with
  | nil =>
    obtain ⟨p, x, hx, -⟩ := h
    cases p <;> simp [steps, at?] at hx
  | append_singleton history s ih =>
    rw [steps_concat, has_step_iff _ (hkeeps s (by simp))] at h
    rw [brought_concat, List.mem_append]
    rcases h with ⟨p, x, hx, rfl⟩ | hbrought
    · refine .inl (ih (fun s hs => hkeeps s (List.mem_append_left _ hs)) ?_)
      exact ⟨p, x, at?_of_lightened hx, rfl⟩
    · exact .inr (by simp [hbrought])

lemma apart_steps {history : List (Step α)} (h : Distinct identity history) :
    Apart identity (({} : Custody α).steps history) := by
  induction history using List.reverseRecOn with
  | nil =>
    intro p q x y hx
    cases p <;> simp [steps, at?] at hx
  | append_singleton history s ih =>
    rw [steps_concat]
    refine apart_step (h.keeps s (by simp)) (fun item hitem hhas => ?_) (ih h.of_concat)
    have hmem := mem_brought_of_has h.of_concat.keeps hhas
    have hnodup := h.brought
    rw [brought_concat, List.nodup_append] at hnodup
    exact hnodup.2.2 _ hmem (identity item) (by simp [hitem]) rfl

/-! ## What goes into the pool and what comes out -/

/-- The object that a step gives back to the pool, as its holder leaves it. -/
def returned? (c : Custody α) : Step α → Option α
  | .giveBack name => c.held name
  | .lease name | .endLease name => c.leased name
  | _ => none

/-- The object that a step takes out of the pool. -/
def taken? (c : Custody α) : Step α → Option α
  | .take name => (c.take name).1
  | _ => none

/-- What a history does, noted step by step. -/
def noted (note : Custody α → Step α → Option α) (c : Custody α) : List (Step α) → List α
  | [] => []
  | s :: rest => (note c s).toList ++ noted note (c.step s) rest

lemma noted_concat (note : Custody α → Step α → Option α) (c : Custody α)
    (history : List (Step α)) (s : Step α) :
    noted note c (history ++ [s]) = noted note c history ++ (note (c.steps history) s).toList := by
  induction history generalizing c with
  | nil => simp [noted, steps]
  | cons first rest ih => simp [noted, ih, steps]

/-- **No object is lost** but those that callers dropped. -/
lemma has_or_dropped {history : List (Step α)} (hkeeps : ∀ s ∈ history, s.Keeps identity) {k : ι}
    (h : k ∈ brought identity history) :
    Has identity (({} : Custody α).steps history) k
      ∨ k ∈ (noted dropped? {} history).map identity := by
  induction history using List.reverseRecOn with
  | nil => simp [brought] at h
  | append_singleton history s ih =>
    rw [brought_concat, List.mem_append] at h
    rw [steps_concat, has_step_iff _ (hkeeps s (by simp)), noted_concat, List.map_append,
      List.mem_append]
    rcases h with h | hbrought
    · rcases ih (fun s hs => hkeeps s (List.mem_append_left _ hs)) h with hhas | hdropped
      · rcases has_lightened_or s hhas with hhas | hdropped
        · exact .inl (.inl hhas)
        · exact .inr (.inr (by simpa using hdropped))
      · exact .inr (.inl hdropped)
    · exact .inl (.inr (by simpa using hbrought))

/-- What a step gives back is in front of the idle objects, and what it takes out was. -/
lemma returned_append_idle (c : Custody α) (s : Step α) :
    (c.returned? s).toList ++ c.pool.idle = (c.taken? s).toList ++ (c.step s).pool.idle := by
  cases s with
  | bring | alter | modify => rfl
  | take name =>
    cases h : c.pool.idle with
    | nil => simp [returned?, taken?, step, take_of_empty h, h]
    | cons first rest => simp [returned?, taken?, step, take_of_cons h]
  | giveBack name =>
    cases h : c.held name <;> simp [returned?, taken?, step, giveBack, Pool.giveBack, h]
  | lease name =>
    cases h : c.leased name <;> simp [returned?, taken?, step, lease, Pool.giveBack, h]
  | endLease name =>
    cases h : c.leased name <;> simp [returned?, taken?, step, endLease, Pool.giveBack, h]

lemma size_steps (c : Custody α) (history : List (Step α)) :
    (c.steps history).pool.size + (noted taken? c history).length
      = c.pool.size + (noted returned? c history).length := by
  induction history generalizing c with
  | nil => rfl
  | cons s rest ih =>
    have hstep := congrArg List.length (c.returned_append_idle s)
    have hrest := ih (c.step s)
    simp only [List.length_append] at hstep
    simp only [noted, List.length_append, Pool.size] at hrest ⊢
    have hsteps : c.steps (s :: rest) = (c.step s).steps rest := rfl
    rw [hsteps]
    omega

/-- What a step gives back was not idle. -/
lemma at?_of_returned {c : Custody α} {s : Step α} {x : α} (h : c.returned? s = some x) :
    ∃ p, (∀ n, p ≠ .idle n) ∧ c.at? p = some x := by
  cases s with
  | giveBack name => exact ⟨.held name, by simp, h⟩
  | lease name | endLease name => exact ⟨.leased name, by simp, h⟩
  | _ => simp [returned?] at h

/-! ## The order of the idle objects -/

section

variable [DecidableEq ι] (identity)

/-- Of the objects that came back and are idle now, the one that did so last. -/
def latest (idle returned : List α) : Option α :=
  returned.reverse.find? fun x => identity x ∈ idle.map identity

/-- Each idle object came back after those behind it, and is as it was then. -/
def InOrder (idle returned : List α) : Prop :=
  ∀ x rest, (x :: rest) <:+ idle → latest identity (x :: rest) returned = some x

end

section

variable [DecidableEq ι] {idle returned : List α}

lemma latest_concat (idle returned : List α) (x : α) :
    latest identity idle (returned ++ [x])
      = if identity x ∈ idle.map identity then some x else latest identity idle returned := by
  rw [latest, List.reverse_append, List.reverse_singleton, List.singleton_append, List.find?_cons]
  by_cases h : identity x ∈ idle.map identity
  · rw [decide_eq_true h, if_pos h]
  · rw [decide_eq_false h, if_neg h]
    rfl

lemma InOrder.suffix {behind : List α} (h : InOrder identity idle returned)
    (hbehind : behind <:+ idle) : InOrder identity behind returned :=
  fun x rest hsuffix => h x rest (hsuffix.trans hbehind)

lemma InOrder.push {x : α} (h : InOrder identity idle returned)
    (hnew : identity x ∉ idle.map identity) : InOrder identity (x :: idle) (returned ++ [x]) := by
  intro y rest hsuffix
  rcases List.suffix_cons_iff.mp hsuffix with heq | hbehind
  · obtain ⟨rfl, rfl⟩ := List.cons.inj heq
    rw [latest_concat, if_pos (by simp)]
  · have hother : identity x ∉ (y :: rest).map identity :=
      fun hmem => hnew ((hbehind.map identity).subset hmem)
    rw [latest_concat, if_neg hother]
    exact h y rest hbehind

lemma inOrder_step {c : Custody α} (hapart : Apart identity c)
    (h : InOrder identity c.pool.idle returned) (s : Step α) :
    InOrder identity (c.step s).pool.idle (returned ++ (c.returned? s).toList) := by
  refine InOrder.suffix ?_ ⟨_, (c.returned_append_idle s).symm⟩
  cases hreturned : c.returned? s with
  | none => simpa using h
  | some x =>
    refine h.push fun hmem => ?_
    -- it would be idle and with its holder
    obtain ⟨y, hy, hyx⟩ := List.mem_map.mp hmem
    obtain ⟨n, hn⟩ := List.mem_iff_getElem?.mp hy
    obtain ⟨p, hp, hx⟩ := at?_of_returned hreturned
    exact hp n (hapart p (.idle n) x y hx hn hyx.symm)

lemma inOrder_steps {history : List (Step α)} (h : Distinct identity history) :
    InOrder identity (({} : Custody α).steps history).pool.idle (noted returned? {} history) := by
  induction history using List.reverseRecOn with
  | nil => simp [InOrder, steps]
  | append_singleton history s ih =>
    rw [steps_concat, noted_concat]
    exact inOrder_step (apart_steps h.of_concat) (ih h.of_concat) s

lemma take_eq_latest {c : Custody α} (h : InOrder identity c.pool.idle returned) (name : Bytes) :
    (c.take name).1 = latest identity c.pool.idle returned := by
  cases hidle : c.pool.idle with
  | nil =>
    have hnone : latest identity [] returned = none := List.find?_eq_none.mpr (by simp)
    rw [take_of_empty hidle, hnone]
  | cons first rest =>
    rw [take_of_cons hidle, h first rest (hidle ▸ List.suffix_refl _)]

lemma take_eq_none_iff (c : Custody α) (name : Bytes) :
    (c.take name).1 = none ↔ c.pool.size = 0 := by
  cases hidle : c.pool.idle with
  | nil => simp [take_of_empty hidle, Pool.size, hidle]
  | cons first rest => simp [take_of_cons hidle, Pool.size, hidle]

/-- **Pools neither lose nor duplicate objects.**  Distinct objects are brought to a new pool, taken
out, changed, given back and leased, through any history.

* No object is in two places: idle, held by a caller or bound to a lease.
* Every object is in one of them, unless a caller dropped it for another one.
* The idle objects are as many as were given back, by callers and by leases that ended, less those
  that were taken out.
* There is nothing to take out if and only if no object is idle.  Otherwise it is the idle object
  that came back last, as its last holder left it. -/
theorem objects_apart_and_reused_in_order {history : List (Step α)}
    (h : Distinct identity history) :
    let c := ({} : Custody α).steps history
    Apart identity c
      ∧ (∀ k ∈ brought identity history,
          Has identity c k ∨ k ∈ (noted dropped? {} history).map identity)
      ∧ c.pool.size + (noted taken? {} history).length = (noted returned? {} history).length
      ∧ ∀ name, ((c.take name).1 = none ↔ c.pool.size = 0)
        ∧ (c.take name).1 = latest identity c.pool.idle (noted returned? {} history) := by
  intro c
  refine ⟨apart_steps h, fun k => has_or_dropped h.keeps, ?_,
    fun name => ⟨c.take_eq_none_iff name, ?_⟩⟩
  · simpa [Pool.size] using size_steps {} history
  · exact take_eq_latest (inOrder_steps h) name

/-- The object that was leased first came back last, and shows what was done to it meanwhile. -/
theorem objects_apart_and_reused_in_order_overlapping_leases :
    let history : List (Step (Nat × Nat)) :=
      [.bring (utf8 "a") (1, 0), .lease (utf8 "a"), .bring (utf8 "b") (2, 0), .lease (utf8 "b"),
        .endLease (utf8 "b"), .modify (utf8 "a") fun x => (x.1, 7), .endLease (utf8 "a")]
    let c := ({} : Custody (Nat × Nat)).steps history
    Distinct Prod.fst history ∧ Apart Prod.fst c ∧ c.pool.size = 2
      ∧ (c.take (utf8 "c")).1 = some (1, 7) := by
  intro history c
  have hdistinct : Distinct Prod.fst history :=
    ⟨(by decide : [1, 2].Nodup), by simp [history, Step.Keeps]⟩
  obtain ⟨hapart, -, hsize, htake⟩ := objects_apart_and_reused_in_order hdistinct
  exact ⟨hdistinct, hapart, hsize, (htake (utf8 "c")).2⟩

end

end Custody

end MeteredHttp
