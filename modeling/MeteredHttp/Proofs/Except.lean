import Mathlib.Data.List.Forall2

/-!
# Computations that can fail

When a computation made of others succeeds, and what is to blame when it does not: `bind_eq_ok` and
`bind_eq_error` for two steps, `mapM_eq_ok` for one step on each element of a list.
-/

namespace MeteredHttp

section Steps

variable {α β ε δ : Type} {first : Except ε α} {next : α → Except ε β}

lemma pure_eq_ok {a a' : α} : (pure a : Except ε α) = .ok a' ↔ a = a' := by
  simp [pure, Except.pure]

/-- Two steps succeed if each does. -/
lemma bind_eq_ok {result : β} :
    (first >>= next) = .ok result ↔ ∃ a, first = .ok a ∧ next a = .ok result := by
  cases first <;> simp [bind, Except.bind]

/-- Of two steps the first one that fails is to blame. -/
lemma bind_eq_error {reason : ε} :
    (first >>= next) = .error reason
      ↔ first = .error reason ∨ ∃ a, first = .ok a ∧ next a = .error reason := by
  cases first <;> simp [bind, Except.bind]

@[simp] lemma mapError_eq_ok {f : ε → δ} {a : α} : first.mapError f = .ok a ↔ first = .ok a := by
  cases first <;> simp [Except.mapError]

@[simp] lemma mapError_eq_error {f : ε → δ} {reason : δ} :
    first.mapError f = .error reason ↔ ∃ cause, first = .error cause ∧ f cause = reason := by
  cases first <;> simp [Except.mapError]

end Steps

/-- What is read of the texts of a list, one after the other. -/
lemma mapM_eq_ok {α β ε : Type} {read : α → Except ε β} {texts : List α} {results : List β} :
    texts.mapM read = .ok results
      ↔ List.Forall₂ (fun text result => read text = .ok result) texts results := by
  induction texts generalizing results with
  | nil => simp [List.mapM_nil, pure, Except.pure, eq_comm]
  | cons first rest ih =>
    rw [List.mapM_cons, List.forall₂_cons_left_iff]
    simp only [bind_eq_ok, pure_eq_ok, ih]
    constructor
    · rintro ⟨head, hhead, tail, htail, rfl⟩
      exact ⟨head, tail, hhead, htail, rfl⟩
    · rintro ⟨head, tail, hhead, htail, rfl⟩
      exact ⟨head, hhead, tail, htail, rfl⟩

lemma exists_of_mem_of_forall₂ {α β : Type} {r : α → β → Prop} {xs : List α} {ys : List β}
    (h : List.Forall₂ r xs ys) {x : α} (hx : x ∈ xs) : ∃ y ∈ ys, r x y := by
  induction h with
  | nil => cases hx
  | @cons first y rest ys hfirst _ ih =>
    rcases List.mem_cons.1 hx with rfl | hrest
    · exact ⟨y, List.mem_cons_self, hfirst⟩
    · obtain ⟨y', hmem, hr⟩ := ih hrest
      exact ⟨y', List.mem_cons_of_mem y hmem, hr⟩

/-- Elements that each have a partner can be paired with a list of partners, and only they can. -/
lemma exists_forall₂_iff {α β : Type} {r : α → β → Prop} {xs : List α} :
    (∃ ys, List.Forall₂ r xs ys) ↔ ∀ x ∈ xs, ∃ y, r x y := by
  constructor
  · rintro ⟨ys, hpairs⟩ x hx
    obtain ⟨y, -, hr⟩ := exists_of_mem_of_forall₂ hpairs hx
    exact ⟨y, hr⟩
  · intro h
    induction xs with
    | nil => exact ⟨[], .nil⟩
    | cons x rest ih =>
      obtain ⟨⟨y, hy⟩, hrest⟩ := List.forall_mem_cons.1 h
      obtain ⟨ys, hys⟩ := ih hrest
      exact ⟨y :: ys, .cons hy hys⟩

end MeteredHttp
