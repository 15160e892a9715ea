import MeteredHttp.Bytes

/-!
# Dictionaries

Tags, metadata and the members of a JSON object map names to values and are listed in the order
of the names' bytes.  A dictionary is that list together with the fact that its names strictly
increase, so two dictionaries with the same entries are equal.

* `Dictionary.insertEntry` puts an entry in its place, replacing an entry of the same name.
* `Dictionary.find?` is the value of a name.
* `Dictionary.overlay` writes the entries of one dictionary over those of another.
-/

namespace MeteredHttp

namespace Dictionary

variable {α : Type}

/-- Puts an entry into a list sorted by name; an entry of the same name is replaced. -/
def insertEntry (name : Bytes) (value : α) : List (Bytes × α) → List (Bytes × α)
  | [] => [(name, value)]
  | (other, old) :: rest =>
    if name < other then (name, value) :: (other, old) :: rest
    else if name = other then (name, value) :: rest
    else (other, old) :: insertEntry name value rest

/-- The names in a list that an entry was put into. -/
theorem mem_insertEntry {name : Bytes} {value : α} {entries : List (Bytes × α)}
    {entry : Bytes × α} (h : entry ∈ insertEntry name value entries) :
    entry = (name, value) ∨ entry ∈ entries := by
  induction entries with
  | nil => simpa [insertEntry] using h
  | cons head rest ih =>
    obtain ⟨other, old⟩ := head
    simp only [insertEntry] at h
    split at h
    · simpa using h
    · split at h
      · rcases List.mem_cons.1 h with h | h
        · exact .inl h
        · exact .inr (List.mem_cons_of_mem _ h)
      · rcases List.mem_cons.1 h with h | h
        · exact .inr (by simp [h])
        · exact (ih h).imp id (List.mem_cons_of_mem _)

/-- Putting an entry in keeps the names strictly increasing. -/
theorem pairwise_insertEntry (name : Bytes) (value : α) {entries : List (Bytes × α)}
    (h : entries.Pairwise fun a b => a.1 < b.1) :
    (insertEntry name value entries).Pairwise fun a b => a.1 < b.1 := by
  induction entries with
  | nil => simp [insertEntry]
  | cons head rest ih =>
    obtain ⟨other, old⟩ := head
    obtain ⟨hhead, hrest⟩ := List.pairwise_cons.1 h
    simp only [insertEntry]
    split
    next hlt =>
      refine List.pairwise_cons.2 ⟨fun entry hmem => ?_, h⟩
      rcases List.mem_cons.1 hmem with rfl | hmem
      · exact hlt
      · exact List.lt_trans hlt (hhead entry hmem)
    next hnlt =>
      split
      next heq => exact List.pairwise_cons.2 ⟨fun entry hmem => heq ▸ hhead entry hmem, hrest⟩
      next hne =>
        refine List.pairwise_cons.2 ⟨fun entry hmem => ?_, ih hrest⟩
        rcases mem_insertEntry hmem with rfl | hmem
        · exact Std.not_lt.1 hnlt |> fun hle => Std.lt_of_le_of_ne hle (Ne.symm hne)
        · exact hhead entry hmem

end Dictionary

/-- A finite map from names to values, listed by the bytes of the names. -/
structure Dictionary (α : Type) where
  entries : List (Bytes × α)
  sorted : entries.Pairwise fun a b => a.1 < b.1 := by simp

namespace Dictionary

variable {α : Type}

/-- The dictionary without entries. -/
def empty : Dictionary α := { entries := [] }

instance : Inhabited (Dictionary α) := ⟨empty⟩

/-- Sets the value of a name. -/
def insert (d : Dictionary α) (name : Bytes) (value : α) : Dictionary α where
  entries := insertEntry name value d.entries
  sorted := pairwise_insertEntry name value d.sorted

/-- The value of a name. -/
def find? (d : Dictionary α) (name : Bytes) : Option α :=
  (d.entries.find? (·.1 = name)).map (·.2)

/-- Sets the names of a list one after the other; of equal names the last one counts. -/
def insertAll (d : Dictionary α) (entries : List (Bytes × α)) : Dictionary α :=
  entries.foldl (fun d entry => d.insert entry.1 entry.2) d

/-- The dictionary of a list of entries; of equal names the last one counts. -/
def ofList (entries : List (Bytes × α)) : Dictionary α := empty.insertAll entries

/-- The entries of `upper` written over those of `lower`. -/
def overlay (lower upper : Dictionary α) : Dictionary α := lower.insertAll upper.entries

end Dictionary

end MeteredHttp
