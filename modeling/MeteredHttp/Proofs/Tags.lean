import MeteredHttp.TagContext
import Mathlib.Tactic.Lemma

/-!
# Looking up tags

What is found under a name after entries were set or overlaid (`Dictionary.find?_insert`,
`Dictionary.find?_overlay`), and after system tags were set one after the other
(`TagContext.find?_withValues`).  A dictionary made of entries that are in order has these entries
(`Dictionary.entries_ofList`).
-/

namespace MeteredHttp

namespace Dictionary

variable {α : Type}

lemma find?_insertEntry (name other : Bytes) (value : α) (entries : List (Bytes × α)) :
    (insertEntry name value entries).find? (·.1 = other)
      = if name = other then some (name, value) else entries.find? (·.1 = other) := by
  induction entries with
  | nil => by_cases h : name = other <;> simp [insertEntry, h]
  | cons head rest ih =>
    obtain ⟨first, old⟩ := head
    simp only [insertEntry]
    split
    · by_cases h : name = other <;> simp [h]
    · split
      next heq =>
        subst heq
        by_cases h : name = other <;> simp [h]
      next hne =>
        rw [List.find?_cons, ih, List.find?_cons]
        by_cases hfirst : first = other
        · subst hfirst
          simp [hne]
        · simp [hfirst]

lemma find?_insert (d : Dictionary α) (name other : Bytes) (value : α) :
    (d.insert name value).find? other = if name = other then some value else d.find? other := by
  rw [find?, insert, find?_insertEntry]
  split <;> simp [find?]

lemma insertEntry_insertEntry (name : Bytes) (first second : α) (entries : List (Bytes × α)) :
    insertEntry name second (insertEntry name first entries) = insertEntry name second entries := by
  induction entries with
  | nil => simp [insertEntry, List.lt_irrefl]
  | cons head rest ih =>
    obtain ⟨other, old⟩ := head
    by_cases hlt : name < other
    · simp [insertEntry, hlt, List.lt_irrefl]
    · by_cases heq : name = other
      · simp [insertEntry, heq, List.lt_irrefl]
      · simp [insertEntry, hlt, heq, ih]

/-- Of two values of a name the second counts. -/
lemma insert_insert (d : Dictionary α) (name : Bytes) (first second : α) :
    (d.insert name first).insert name second = d.insert name second := by
  simp only [insert, insertEntry_insertEntry]

lemma find?_insertAll (d : Dictionary α) {entries : List (Bytes × α)}
    (h : entries.Pairwise fun a b => a.1 < b.1) (name : Bytes) :
    (d.insertAll entries).find? name
      = ((entries.find? (·.1 = name)).map (·.2)).or (d.find? name) := by
  induction entries generalizing d with
  | nil => simp [insertAll]
  | cons entry rest ih =>
    obtain ⟨hfirst, hrest⟩ := List.pairwise_cons.1 h
    have hstep : d.insertAll (entry :: rest) = (d.insert entry.1 entry.2).insertAll rest := rfl
    rw [hstep, ih _ hrest, find?_insert, List.find?_cons]
    by_cases hname : entry.1 = name
    · -- the names increase, so none of those behind it is the same
      have hnone : rest.find? (·.1 = name) = none := by
        refine List.find?_eq_none.2 ?_
        intro other hother
        have hlt := hfirst other hother
        rw [hname] at hlt
        have hne : other.1 ≠ name := by
          rintro heq
          rw [heq] at hlt
          exact List.lt_irrefl name hlt
        simpa using hne
      simp [hname, hnone]
    · simp [hname]

/-- What is found in two layers is what the upper one has, or else what the lower one has. -/
lemma find?_overlay (lower upper : Dictionary α) (name : Bytes) :
    (lower.overlay upper).find? name = (upper.find? name).or (lower.find? name) :=
  find?_insertAll lower upper.sorted name

lemma insertEntry_of_lt {name : Bytes} {entries : List (Bytes × α)}
    (h : ∀ entry ∈ entries, entry.1 < name) (value : α) :
    insertEntry name value entries = entries ++ [(name, value)] := by
  induction entries with
  | nil => rfl
  | cons head rest ih =>
    obtain ⟨hhead, hrest⟩ := List.forall_mem_cons.1 h
    have hne : name ≠ head.1 := by
      rintro rfl
      exact List.lt_irrefl _ hhead
    simp [insertEntry, List.lt_asymm hhead, hne, ih hrest]

lemma entries_insertAll (d : Dictionary α) {entries : List (Bytes × α)}
    (h : (d.entries ++ entries).Pairwise fun a b => a.1 < b.1) :
    (d.insertAll entries).entries = d.entries ++ entries := by
  induction entries generalizing d with
  | nil => exact (List.append_nil _).symm
  | cons entry rest ih =>
    -- Every name that is there already is less than the next one, so that it comes last.
    have hlast : (d.insert entry.1 entry.2).entries = d.entries ++ [entry] :=
      insertEntry_of_lt (fun old hold => (List.pairwise_append.1 h).2.2 old hold entry (by simp)) _
    have hstep : d.insertAll (entry :: rest) = (d.insert entry.1 entry.2).insertAll rest := rfl
    rw [List.append_cons, ← hlast] at h ⊢
    rw [hstep, ih _ h]

lemma entries_ofList {entries : List (Bytes × α)} (h : entries.Pairwise fun a b => a.1 < b.1) :
    (ofList entries).entries = entries :=
  entries_insertAll empty h

lemma eq_of_entries {d d' : Dictionary α} (h : d.entries = d'.entries) : d = d' := by
  cases d
  cases d'
  cases h
  rfl

lemma ofList_entries (d : Dictionary α) : ofList d.entries = d :=
  eq_of_entries (entries_ofList d.sorted)

end Dictionary

namespace SystemTag

lemma ofKey?_key (tag : SystemTag) : ofKey? tag.key = some tag := by cases tag <;> rfl

lemma key_of_ofKey? {name : Bytes} {tag : SystemTag} (h : ofKey? name = some tag) :
    tag.key = name := by
  simpa using List.find?_some h

end SystemTag

namespace TagContext

variable (ctx : TagContext) (enabled : SystemTagSet)

/-- Sets a system tag if it is wanted and has a value. -/
def withValue (tag : SystemTag) (value? : Option Bytes) : TagContext :=
  match value? with
  | some value => ctx.withEnabled enabled tag value
  | none => ctx

/-- Sets system tags one after the other. -/
def withValues (tags : List SystemTag) (value? : SystemTag → Option Bytes) : TagContext :=
  tags.foldl (fun ctx tag => ctx.withValue enabled tag (value? tag)) ctx

variable {tag : SystemTag} {tags : List SystemTag}

lemma find?_withValue (htag : tag.isMetadata = false) (value? : Option Bytes) (name : Bytes) :
    (ctx.withValue enabled tag value?).tags.find? name
      = if enabled.has tag ∧ tag.key = name then value?.or (ctx.tags.find? name)
        else ctx.tags.find? name := by
  cases value? with
  | none => simp [withValue]
  | some value =>
    cases henabled : enabled.has tag <;>
      simp [withValue, withEnabled, withSystem, withTag, henabled, htag, Dictionary.find?_insert]

lemma metadata_withValue (htag : tag.isMetadata = false) (value? : Option Bytes) :
    (ctx.withValue enabled tag value?).metadata = ctx.metadata := by
  cases value? with
  | none => rfl
  | some value =>
    cases henabled : enabled.has tag <;>
      simp [withValue, withEnabled, withSystem, withTag, henabled, htag]

/-- What is found after system tags were set is the value of the one of that name, if it is among
them and wanted and has one, or else what was there before. -/
lemma find?_withValues (htags : ∀ tag ∈ tags, tag.isMetadata = false)
    (value? : SystemTag → Option Bytes) (name : Bytes) :
    (ctx.withValues enabled tags value?).tags.find? name
      = ((SystemTag.ofKey? name).bind fun tag =>
          if tag ∈ tags ∧ enabled.has tag then value? tag else none).or (ctx.tags.find? name) := by
  induction tags generalizing ctx with
  | nil => simp [withValues]
  | cons first rest ih =>
    obtain ⟨hfirst, hrest⟩ := List.forall_mem_cons.1 htags
    have hstep : ctx.withValues enabled (first :: rest) value?
        = (ctx.withValue enabled first (value? first)).withValues enabled rest value? := rfl
    rw [hstep, ih _ hrest, find?_withValue _ _ hfirst]
    by_cases hname : first.key = name
    · subst hname
      rw [SystemTag.ofKey?_key]
      by_cases hmem : first ∈ rest <;> cases henabled : enabled.has first <;>
        cases hvalue : value? first <;> simp [hmem, henabled, hvalue]
    · have hother : ∀ tag, SystemTag.ofKey? name = some tag → tag ≠ first := by
        rintro tag htag rfl
        exact hname (SystemTag.key_of_ofKey? htag)
      cases htag : SystemTag.ofKey? name with
      | none => simp [hname]
      | some tag => simp [hname, hother tag htag]

lemma metadata_withValues (htags : ∀ tag ∈ tags, tag.isMetadata = false)
    (value? : SystemTag → Option Bytes) :
    (ctx.withValues enabled tags value?).metadata = ctx.metadata := by
  induction tags generalizing ctx with
  | nil => rfl
  | cons first rest ih =>
    obtain ⟨hfirst, hrest⟩ := List.forall_mem_cons.1 htags
    have hstep : ctx.withValues enabled (first :: rest) value?
        = (ctx.withValue enabled first (value? first)).withValues enabled rest value? := rfl
    rw [hstep, ih _ hrest, metadata_withValue _ _ hfirst]

end TagContext

end MeteredHttp
