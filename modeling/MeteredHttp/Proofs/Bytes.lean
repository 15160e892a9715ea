import MeteredHttp.Bytes
import Mathlib.Data.List.TakeWhile

/-!
# Keys and fields in texts

* `Bytes.forall_byte` checks a property of bytes number by number.
* `Bytes.contains_iff` says that a key is found in a text exactly if it is a part of it.
* `Bytes.cut?_eq_some` and `Bytes.cut?_append` say where a text is cut: at a place where the key is,
  and at the first one.
* `Bytes.span_append` says what is before and behind the first separator.
* `Bytes.fields_induction` takes a text apart as `Bytes.fields` does.
* `Bytes.append_lt_append_iff` compares texts that begin with parts of the same length.
-/

namespace MeteredHttp.Bytes

/-- What holds of 256 numbers as bytes holds of every byte. -/
lemma forall_byte {p : UInt8 → Prop} (h : ∀ n : Fin 256, p (UInt8.ofNat n.val)) (b : UInt8) :
    p b := by
  have hb := h ⟨b.toNat, b.toNat_lt⟩
  rwa [UInt8.ofNat_toNat] at hb

lemma isSome_findFrom {text key : Bytes} {n : Nat} :
    (findFrom key n text).isSome = true ↔ key <:+: text := by
  induction text generalizing n with
  | nil => by_cases h : key = [] <;> simp [findFrom, h]
  | cons b rest ih =>
    rw [findFrom, List.infix_cons_iff]
    by_cases hstart : key <+: b :: rest
    · simp [hstart]
    · simp [hstart, ih]

lemma contains_iff {text key : Bytes} : text.contains key = true ↔ key <:+: text :=
  isSome_findFrom

variable {text key front back : Bytes} {sep : UInt8}

/-- A key does not start where its first byte is not. -/
lemma infix_append_of_not_mem (h : sep ∉ front) :
    sep :: key <:+: front ++ back ↔ sep :: key <:+: back := by
  induction front with
  | nil => rfl
  | cons b rest ih =>
    obtain ⟨hb, hrest⟩ := not_or.1 (mt List.mem_cons.2 h)
    simp [List.infix_cons_iff, hb, ih hrest]

/-- A key does not lie across a seam if the two bytes that meet there do not meet in it. -/
lemma infix_append_of_seam
    (h : ∀ x ∈ front.getLast?, ∀ y ∈ back.head?, ¬[x, y] <:+: key) :
    key <:+: front ++ back ↔ key <:+: front ∨ key <:+: back := by
  rw [List.infix_append_iff_ne_nil, ← or_assoc, or_iff_left_iff_imp]
  rintro ⟨start, rest, hstart, hrest, rfl, hfront, hback⟩
  obtain ⟨x, hx⟩ := Option.ne_none_iff_exists'.1 (mt List.getLast?_eq_none_iff.1 hstart)
  obtain ⟨init, rfl⟩ := List.getLast?_eq_some_iff.1 hx
  obtain ⟨y, tail, rfl⟩ := List.exists_cons_of_ne_nil hrest
  obtain ⟨before, rfl⟩ := hfront
  obtain ⟨after, rfl⟩ := hback
  exact absurd ⟨init, tail, by simp⟩ (h x (by simp) y (by simp))

/-! ## Order -/

/-- Texts whose beginnings have the same length are in the order of these, or else of the rest. -/
lemma append_lt_append_iff {front' back' : Bytes} (h : front.length = front'.length) :
    front ++ back < front' ++ back' ↔ front < front' ∨ front = front' ∧ back < back' := by
  induction front generalizing front' with
  | nil =>
    obtain rfl := List.length_eq_zero_iff.1 h.symm
    simp
  | cons b rest ih =>
    obtain ⟨c, rest', rfl⟩ := List.exists_cons_of_length_eq_add_one h.symm
    rw [List.cons_append, List.cons_append, List.cons_lt_cons_iff, List.cons_lt_cons_iff,
      ih (Nat.succ.inj h), List.cons.injEq]
    grind

/-! ## Starts -/

lemma dropStart?_append (front back : Bytes) : (front ++ back).dropStart? front = some back := by
  simp [dropStart?]

lemma dropStart?_eq_none : text.dropStart? front = none ↔ ¬front <+: text := by
  simp [dropStart?]

/-! ## Cuts -/

lemma findFrom_eq_some {n m : Nat} (h : findFrom key n text = some m) :
    ∃ front back, text = front ++ key ++ back ∧ m = n + front.length := by
  induction text generalizing n with
  | nil =>
    by_cases hkey : key = []
    · simp only [findFrom, hkey, if_true, Option.some.injEq] at h
      exact ⟨[], [], by simp [hkey], by simp [h]⟩
    · simp [findFrom, hkey] at h
  | cons b rest ih =>
    by_cases hstart : key <+: b :: rest
    · simp only [findFrom, List.isPrefixOf_iff_prefix.2 hstart, if_true, Option.some.injEq] at h
      obtain ⟨back, hback⟩ := hstart
      exact ⟨[], back, by simp [hback], by simp [h]⟩
    · simp only [findFrom, List.isPrefixOf_iff_prefix, hstart, if_false] at h
      obtain ⟨front, back, rfl, hm⟩ := ih h
      exact ⟨b :: front, back, rfl, by simp only [List.length_cons]; omega⟩

/-- A text is cut where the key is. -/
lemma cut?_eq_some (h : cut? text key = some (front, back)) : text = front ++ key ++ back := by
  obtain ⟨m, hfind, hparts⟩ := Option.map_eq_some_iff.1 h
  obtain ⟨start, rest, rfl, hm⟩ := findFrom_eq_some hfind
  obtain ⟨rfl, rfl⟩ := Prod.mk.inj hparts
  have hlength : m = start.length := by omega
  subst hlength
  simp

lemma cut?_eq_none : cut? text key = none ↔ ¬key <:+: text := by
  rw [cut?, Option.map_eq_none_iff, find?, ← isSome_findFrom (n := 0),
    Option.not_isSome_iff_eq_none]

/-- A key that starts before its first occurrence would have to end there. -/
lemma findFrom_append (hkey : key ≠ []) (h : ¬key <:+: front ++ key.dropLast) (back : Bytes)
    (n : Nat) : findFrom key n (front ++ key ++ back) = some (n + front.length) := by
  induction front generalizing n with
  | nil =>
    cases key with
    | nil => exact absurd rfl hkey
    | cons b rest => simp [findFrom]
  | cons b front ih =>
    have hlater : ¬key <:+: front ++ key.dropLast := by
      intro hpart
      exact h (List.infix_cons hpart)
    have hstart : ¬key <+: b :: (front ++ key ++ back) := by
      intro hbegin
      refine h (List.IsPrefix.isInfix ?_)
      refine List.prefix_of_prefix_length_le hbegin ?_ ?_
      · rw [List.cons_append, List.append_assoc, List.cons_prefix_cons]
        refine ⟨rfl, List.prefix_append_right_inj _ |>.2 ?_⟩
        exact (List.dropLast_prefix key).trans (List.prefix_append key back)
      · simp only [List.length_append, List.length_cons, List.length_dropLast]
        omega
    simp only [List.cons_append, findFrom, List.isPrefixOf_iff_prefix, hstart, if_false, ih hlater,
      List.length_cons, Option.some.injEq]
    omega

/-- A text is cut at the first place where the key is. -/
lemma cut?_append (hkey : key ≠ []) (h : ¬key <:+: front ++ key.dropLast) (back : Bytes) :
    cut? (front ++ key ++ back) key = some (front, back) := by
  have hfind : find? (front ++ key ++ back) key = some front.length := by
    simpa [find?] using findFrom_append hkey h back 0
  rw [cut?, hfind]
  simp

lemma all_ne_of_not_mem (h : sep ∉ text) : ∀ b ∈ text, decide (b ≠ sep) = true := by
  intro b hb
  rw [decide_eq_true_eq]
  rintro rfl
  exact h hb

/-- Without NUL bytes a text is seen in full. -/
lemma untilNul_of_nul_free (h : 0 ∉ text) : text.untilNul = text :=
  List.takeWhile_eq_self_iff.2 (all_ne_of_not_mem h)

/-- A text up to a separator, and from there on. -/
lemma span_append (h : sep ∉ front) (back : Bytes) :
    (front ++ sep :: back).takeWhile (· ≠ sep) = front
      ∧ (front ++ sep :: back).dropWhile (· ≠ sep) = sep :: back := by
  have hall := all_ne_of_not_mem h
  rw [List.takeWhile_append_of_pos hall, List.dropWhile_append_of_pos hall]
  simp

lemma not_mem_takeWhile_ne (sep : UInt8) (text : Bytes) : sep ∉ text.takeWhile (· ≠ sep) := by
  intro hmem
  simpa using List.mem_takeWhile_imp hmem

/-- What stops a search for a separator is a separator. -/
lemma eq_of_dropWhile_ne {b : UInt8} {rest : Bytes}
    (h : text.dropWhile (· ≠ sep) = b :: rest) : b = sep := by
  have hhead := List.head?_dropWhile_not (fun b => decide (b ≠ sep)) text
  rw [h] at hhead
  simpa using hhead

/-! ## Fields -/

lemma fields_of_not_mem (h : sep ∉ text) : fields sep text = [text] := by
  induction text with
  | nil => rfl
  | cons b rest ih =>
    obtain ⟨hb, hrest⟩ := not_or.1 (mt List.mem_cons.2 h)
    have hfields : rest.foldr _ [[]] = [rest] := ih hrest
    simp [fields, hfields, Ne.symm hb]

lemma fields_append_cons (h : sep ∉ front) (rest : Bytes) :
    fields sep (front ++ sep :: rest) = front :: fields sep rest := by
  induction front with
  | nil => simp [fields]
  | cons b front ih =>
    obtain ⟨hb, hfront⟩ := not_or.1 (mt List.mem_cons.2 h)
    have hfields : (front ++ sep :: rest).foldr _ [[]] = front :: fields sep rest := ih hfront
    simp [fields, hfields, Ne.symm hb]

/-- A text is a last field, or a field that is followed by a separator and a text. -/
@[elab_as_elim]
lemma fields_induction {motive : Bytes → Prop} (sep : UInt8) (text : Bytes)
    (last : ∀ text, sep ∉ text → motive text)
    (field : ∀ text rest, sep ∉ text → motive rest → motive (text ++ sep :: rest)) :
    motive text := by
  induction hlength : text.length using Nat.strongRecOn generalizing text with
  | ind n ih =>
    by_cases hmem : sep ∈ text
    · obtain ⟨front, rest, rfl, hfront⟩ := List.eq_append_cons_of_mem hmem
      refine field front rest hfront (ih rest.length ?_ rest rfl)
      rw [← hlength, List.length_append, List.length_cons]
      omega
    · exact last text hmem

lemma fields_ne_nil (sep : UInt8) (text : Bytes) : fields sep text ≠ [] := by
  cases text using fields_induction sep with
  | last text htext => simp [fields_of_not_mem htext]
  | field text rest htext _ => simp [fields_append_cons htext]

/-- What follows the first field, if there are more of them. -/
lemma exists_of_fields_cons {first : Bytes} {others : List Bytes} (hne : others ≠ [])
    (h : fields sep text = first :: others) :
    ∃ rest, text = first ++ sep :: rest ∧ fields sep rest = others := by
  cases text using fields_induction sep with
  | last text htext =>
    rw [fields_of_not_mem htext] at h
    exact absurd (List.cons.inj h).2.symm hne
  | field text rest htext _ =>
    rw [fields_append_cons htext] at h
    obtain ⟨rfl, hothers⟩ := List.cons.inj h
    exact ⟨rest, rfl, hothers⟩

lemma eq_of_fields_singleton {field : Bytes} (h : fields sep text = [field]) : text = field := by
  cases text using fields_induction sep with
  | last text htext =>
    rw [fields_of_not_mem htext] at h
    exact (List.cons.inj h).1
  | field text rest htext _ =>
    rw [fields_append_cons htext] at h
    exact absurd (List.cons.inj h).2 (fields_ne_nil sep rest)

end MeteredHttp.Bytes
