import Mathlib.Tactic.Lemma
import MeteredHttp.FileStream

/-!
# Reading files again and again

The flags of a stream stay up until it is rewound, and they come between its reader and the file: a
flag that is up where there is more to read would cut the file short.

* `FileStream.rewind_eq` says that to rewind a stream undoes all that was done to it, flags and all.
* `FileStream.Reading` is what holds of a stream over a regular file: a flag is up only where
  nothing is left to read.  So a read never fails, and takes what a cursor would
  (`FileStream.Reading.read`).
* **`FileStream.replays_file`** is what a reader gets by any reads and rewinds.
-/

namespace MeteredHttp

namespace FileStream

variable {content : Bytes} {stream : FileStream}

/-! ## Rewinding -/

/-- A stream as it was opened: at the first byte, with no flag up. -/
def rewound (stream : FileStream) : FileStream :=
  { stream with unread := FileStream.content stream.node, flags := {} }

@[simp] lemma rewound_rewound (stream : FileStream) : stream.rewound.rewound = stream.rewound := rfl

/-- A stream that is not a pipe is rewound whatever flags are up. -/
lemma rewind_eq (stream : FileStream) :
    stream.rewind = if stream.node = .pipe then
        .error (utf8 "failed to rewind " ++ stream.path.untilNul)
      else .ok stream.rewound := by
  obtain ⟨path, node, unread, flags⟩ := stream
  cases node <;> rfl

lemma rewind_of_regular (h : stream.node = .regular content) :
    stream.rewind = .ok stream.rewound := by
  rw [rewind_eq, h]
  exact if_neg nofun

/-- Reading changes nothing but how far the stream was read and its flags. -/
@[simp] lemma rewound_read (stream : FileStream) (size : Nat) :
    (stream.read size).2.rewound = stream.rewound := by
  simp only [read, apply_ite Prod.snd, ite_self, extract]
  split
  · rfl
  · split <;> rfl

/-! ## Regular files -/

/-- A stream over a regular file with this content.  A flag is up only where nothing is left to
read, and never the one for a file that cannot be read. -/
structure Reading (content : Bytes) (stream : FileStream) : Prop where
  node : stream.node = .regular content
  unbroken : stream.flags.broken = false
  finished : stream.flags.raised = true → stream.unread = []

namespace Reading

/-- A stream that was rewound has no flag up. -/
lemma rewound (h : stream.node = .regular content) : Reading content stream.rewound :=
  ⟨h, rfl, fun hraised => by cases hraised⟩

/-- The next bytes are extracted whether or not a flag is up, and whether or not one is raised. -/
lemma exists_extract (h : Reading content stream) (size : Nat) :
    ∃ flags : StreamFlags,
      let after := { stream with unread := stream.unread.drop size, flags }
      stream.extract size = (stream.unread.take size, after) ∧ Reading content after := by
  cases hraised : stream.flags.raised with
  | true =>
    -- nothing was left to read, so that nothing is lost
    have hunread := h.finished hraised
    refine ⟨{ stream.flags with failed := true }, ?_, h.node, h.unbroken, fun _ => ?_⟩
    · rw [extract, if_pos hraised, hunread, List.take_nil, List.drop_nil]
    · rw [hunread, List.drop_nil]
  | false =>
    -- a flag goes up if the read comes short, and then nothing is left behind it
    let short := decide ((stream.unread.take size).length < size)
    have hfetch : stream.fetch? size = some (stream.unread.take size) := by rw [fetch?, h.node]
    refine ⟨{ stream.flags with ended := short, failed := short }, ?_, h.node, h.unbroken, ?_⟩
    · simp [extract, hraised, hfetch, short]
    · intro hafter
      have hshort : short = true := by simpa [StreamFlags.raised, h.unbroken] using hafter
      have hlength : (stream.unread.take size).length < size := of_decide_eq_true hshort
      rw [List.length_take] at hlength
      exact List.drop_eq_nil_of_le (by omega)

/-- A read takes the next bytes. -/
lemma read (h : Reading content stream) (size : Nat) :
    (stream.read size).1 = .ok (stream.unread.take size)
      ∧ (stream.read size).2.unread = stream.unread.drop size
      ∧ Reading content (stream.read size).2 := by
  obtain ⟨flags, hextract, hafter⟩ := h.exists_extract size
  have hread : stream.read size = (.ok (stream.unread.take size),
      { stream with unread := stream.unread.drop size, flags }) := by
    rw [FileStream.read, hextract]
    exact if_neg (Bool.eq_false_iff.1 hafter.unbroken)
  rw [hread]
  exact ⟨rfl, rfl, hafter⟩

end Reading

/-! ## Reads and rewinds in any order -/

/-- What a reader asks a stream for. -/
inductive Call where
  | rewind
  | read (size : Nat)

/-- Someone who reads a stream and puts together what the reads return. -/
structure Reader where
  stream : FileStream
  /-- What was returned since the stream was rewound or opened. -/
  collected : Bytes := []

namespace Reader

/-- One call.  A call that fails returns nothing. -/
def step (reader : Reader) : Call → Reader
  | .rewind =>
    match reader.stream.rewind with
    | .ok stream => { stream }
    | .error _ => reader
  | .read size =>
    match reader.stream.read size with
    | (.ok bytes, stream) => { stream, collected := reader.collected ++ bytes }
    | (.error _, stream) => { reader with stream }

/-- Several calls, one after the other. -/
def steps (reader : Reader) (history : List Call) : Reader := history.foldl step reader

/-- The reader of a regular file that was opened as `opened`: what it collected and what is left to
read are the file. -/
structure Follows (opened : FileStream) (content : Bytes) (reader : Reader) : Prop where
  reading : Reading content reader.stream
  rewound : reader.stream.rewound = opened
  split : reader.collected ++ reader.stream.unread = content

variable {opened : FileStream} {reader : Reader}

namespace Follows

/-- A reader starts with a stream that was just opened or rewound. -/
lemma start {stream : FileStream} (h : stream.node = .regular content) :
    Follows stream.rewound content { stream := stream.rewound } :=
  ⟨.rewound h, rewound_rewound stream, by simp [FileStream.rewound, h, FileStream.content]⟩

/-- To rewind never fails, and takes the stream back to what it was when it was opened. -/
lemma rewind (h : Follows opened content reader) : reader.stream.rewind = .ok opened := by
  rw [rewind_of_regular h.reading.node, h.rewound]

/-- A read never fails, and the reader collects what it returns. -/
lemma step_read (h : Follows opened content reader) (size : Nat) :
    reader.step (.read size)
      = { stream := (reader.stream.read size).2
          collected := reader.collected ++ reader.stream.unread.take size } := by
  have hread : reader.stream.read size
      = (.ok (reader.stream.unread.take size), (reader.stream.read size).2) :=
    Prod.ext (h.reading.read size).1 rfl
  rw [step, hread]

/-- A call leaves the reader with a part of the file and the stream with the rest. -/
lemma step (h : Follows opened content reader) (call : Call) :
    Follows opened content (reader.step call) := by
  cases call with
  | rewind =>
    have hstep : reader.step .rewind = { stream := reader.stream.rewound } := by
      rw [Reader.step, h.rewind, h.rewound]
    rw [hstep, ← h.rewound]
    exact start h.reading.node
  | read size =>
    obtain ⟨-, hunread, hreading⟩ := h.reading.read size
    rw [h.step_read]
    refine ⟨hreading, (rewound_read _ _).trans h.rewound, ?_⟩
    rw [hunread, List.append_assoc, List.take_append_drop, h.split]

lemma steps (h : Follows opened content reader) (history : List Call) :
    Follows opened content (reader.steps history) := by
  induction history generalizing reader with
  | nil => exact h
  | cons call rest ih => exact ih (h.step call)

/-- At the end of the file nothing is left to read. -/
lemma unread_of_end (h : Follows opened content reader) (hend : reader.collected = content) :
    reader.stream.unread = [] := by
  simpa [hend] using h.split

/-- Reads at the end of the file add nothing to what was collected. -/
lemma collected_reads (h : Follows opened content reader) (hend : reader.collected = content)
    (sizes : List Nat) : (reader.steps (sizes.map .read)).collected = content := by
  induction sizes generalizing reader with
  | nil => exact hend
  | cons size rest ih =>
    refine ih (h.step (.read size)) ?_
    rw [h.step_read, h.unread_of_end hend, List.take_nil, List.append_nil, hend]

end Follows

end Reader

/-- **A file is replayed.**  A regular file is opened, and read and rewound in any order, with reads
of any size.

* What the reads have returned since the file was rewound or opened is the beginning of the file.
* The next read returns as many bytes as it is asked for, or as are left, and they follow those.
* Once the whole file was read, all further reads return nothing.
* To rewind takes the stream back to what it was when it was opened. -/
theorem replays_file {files : Files} {path content : Bytes}
    (h : files.find path = .ok (.regular content)) :
    ∃ stream, openFile files path = .ok stream ∧ ∀ history : List Call,
      let reader := ({ stream } : Reader).steps history
      reader.collected <+: content
        ∧ (∀ size, ∃ bytes, (reader.stream.read size).1 = .ok bytes
          ∧ bytes.length = min size (content.length - reader.collected.length)
          ∧ reader.collected ++ bytes <+: content)
        ∧ (reader.collected = content → ∀ (sizes : List Nat) (size : Nat),
          ((reader.steps (sizes.map .read)).stream.read size).1 = .ok [])
        ∧ reader.stream.rewind = .ok stream := by
  let stream : FileStream := { path, node := .regular content, unread := content }
  have hopen : openFile files path = .ok stream := by
    rw [openFile, h]
    rfl
  refine ⟨stream, hopen, fun history => ?_⟩
  intro reader
  have hstart : Reader.Follows stream content { stream } :=
    Reader.Follows.start (show stream.node = .regular content from rfl)
  have hreader : Reader.Follows stream content reader := hstart.steps history
  have hlength := congrArg List.length hreader.split
  rw [List.length_append] at hlength
  refine ⟨⟨_, hreader.split⟩, fun size => ?_, fun hend sizes size => ?_, hreader.rewind⟩
  · refine ⟨_, (hreader.reading.read size).1, ?_, reader.stream.unread.drop size, ?_⟩
    · rw [List.length_take]
      omega
    · rw [List.append_assoc, List.take_append_drop, hreader.split]
  · have hlater := hreader.steps (sizes.map .read)
    have hunread := hlater.unread_of_end (hreader.collected_reads hend sizes)
    rw [(hlater.reading.read size).1, hunread, List.take_nil]

/-- A read past the end of a file raises flags.  They stay up until the file is rewound. -/
theorem replays_file_past_the_end :
    let files : Files := { entries := [(utf8 "f", .regular (utf8 "text"))] }
    files.find (utf8 "f") = .ok (.regular (utf8 "text"))
      ∧ ∃ stream, openFile files (utf8 "f") = .ok stream
        ∧ let reader := ({ stream } : Reader).steps [.read 3, .read 9]
          reader.collected = utf8 "text" ∧ reader.stream.flags.raised = true
            ∧ ((reader.steps [.read 0, .read 5]).stream.read 1).1 = .ok []
            ∧ reader.stream.rewind = .ok stream := by
  intro files
  have hfind : files.find (utf8 "f") = .ok (.regular (utf8 "text")) := by rfl
  refine ⟨hfind, ?_⟩
  obtain ⟨stream, hopen, hreplay⟩ := replays_file hfind
  obtain ⟨-, -, hend, hrewind⟩ := hreplay [.read 3, .read 9]
  obtain rfl : FileStream.mk (utf8 "f") (.regular (utf8 "text")) (utf8 "text") {} = stream :=
    Except.ok.inj hopen
  refine ⟨_, hopen, by decide, by decide, ?_, hrewind⟩
  exact hend (by decide) [0, 5] 1

end FileStream

end MeteredHttp
