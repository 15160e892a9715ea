import MeteredHttp.Json.Field
import MeteredHttp.Proofs.Json.RoundTrip
import MeteredHttp.Proofs.Timestamp
import MeteredHttp.Sample.Line

/-!
# Samples from their lines

A line can be written of a sample exactly if its texts are valid UTF-8 (`Sample.line_eq`).  What is
read from it then is the sample: `Sample.ReadAs` says which members the document has and what they
denote, and **`Sample.readAs_of_encodable`** that it is on one line and is read with these members.
-/

namespace MeteredHttp

/-! ## Plain texts -/

namespace Utf8

/-- No byte of a text is above 127. -/
def Ascii (text : Bytes) : Prop := ∀ b ∈ text, b ≤ 127

lemma ascii_nil : Ascii [] := by simp [Ascii]

lemma ascii_cons {b : UInt8} {text : Bytes} : Ascii (b :: text) ↔ b ≤ 127 ∧ Ascii text :=
  List.forall_mem_cons

lemma ascii_append {front back : Bytes} : Ascii (front ++ back) ↔ Ascii front ∧ Ascii back :=
  List.forall_mem_append

lemma valid_of_ascii {text : Bytes} (h : Ascii text) : valid text = true := by
  have hrun : run .between text = some .between := by
    induction text with
    | nil => rfl
    | cons b rest ih =>
      obtain ⟨hb, hrest⟩ := ascii_cons.1 h
      have hnext : next .between b = some .between := if_pos hb
      rw [run, List.foldlM_cons, hnext]
      exact ih hrest
  rw [valid, hrun]
  rfl

lemma ascii_padded (width n : Nat) : Ascii (Numeral.padded width n) := by
  have hascii : ∀ b : UInt8, Numeral.isDigitOf 10 b = true → b ≤ 127 :=
    Bytes.forall_byte (by decide +kernel)
  intro b hb
  exact hascii b ((Numeral.writes_padded width n).digits b hb)

end Utf8

lemma Timestamp.valid_render (time : Timestamp) : Utf8.valid time.render = true := by
  refine Utf8.valid_of_ascii ?_
  simp only [render, Date.render, renderClock, Utf8.ascii_append, Utf8.ascii_cons,
    Utf8.ascii_padded, Utf8.ascii_nil]
  decide

/-! ## Texts of samples -/

/-- Names and values that are valid UTF-8. -/
def Tags.Encodable (tags : Tags) : Prop :=
  ∀ entry ∈ tags.entries, Utf8.valid entry.1 = true ∧ Utf8.valid entry.2 = true

instance (tags : Tags) : Decidable tags.Encodable := inferInstanceAs (Decidable (∀ _ ∈ _, _))

lemma Tags.encodable_toJson (tags : Tags) : tags.toJson.encodable = true ↔ tags.Encodable := by
  simp only [toJson, Json.Value.encodable, Encodable]
  induction tags.entries with
  | nil => simp [Json.membersEncodable]
  | cons entry rest ih =>
    rw [List.map_cons, Json.membersEncodable, Bool.and_eq_true, ih, List.forall_mem_cons,
      Bool.and_eq_true]
    rfl

lemma Tags.writable_toJson {tags : Tags} (h : tags.Encodable) : tags.toJson.Writable := by
  refine .object (List.pairwise_map.2 tags.sorted) ?_ ?_
  · rw [List.forall_mem_map]
    exact fun entry hentry => (h entry hentry).1
  · rw [List.forall_mem_map]
    exact fun entry hentry => .string (h entry hentry).2

namespace Sample

variable {sample : Sample}

/-- The name of the series, which is empty for a sample that belongs to none. -/
def metric (sample : Sample) : Bytes := (sample.series.map Series.name).getD []

/-- All texts of a sample are valid UTF-8. -/
structure Encodable (sample : Sample) : Prop where
  metric : Utf8.valid sample.metric = true
  tags : sample.tags.Encodable
  metadata : sample.metadata.Encodable

instance (sample : Sample) : Decidable sample.Encodable :=
  decidable_of_iff
    (Utf8.valid sample.metric = true ∧ sample.tags.Encodable ∧ sample.metadata.Encodable)
    ⟨fun h => ⟨h.1, h.2.1, h.2.2⟩, fun h => ⟨h.metric, h.tags, h.metadata⟩⟩

lemma encodable_toJson (sample : Sample) : sample.toJson.encodable = true ↔ sample.Encodable := by
  have hnames : Utf8.valid (utf8 "data") = true ∧ Utf8.valid (utf8 "metric") = true
      ∧ Utf8.valid (utf8 "type") = true ∧ Utf8.valid (utf8 "Point") = true := by decide
  have hmembers : Utf8.valid (utf8 "metadata") = true ∧ Utf8.valid (utf8 "tags") = true
      ∧ Utf8.valid (utf8 "time") = true ∧ Utf8.valid (utf8 "value") = true := by decide
  simp only [toJson, Json.Value.encodable, Json.membersEncodable, hnames, hmembers,
    sample.time.valid_render, Bool.and_eq_true, Tags.encodable_toJson, true_and, and_true]
  exact ⟨fun h => ⟨h.2, h.1.2, h.1.1⟩, fun h => ⟨⟨h.metadata, h.tags⟩, h.metric⟩⟩

/-- **The lines that can be written**: a sample has one exactly if its texts are valid UTF-8. -/
lemma line_eq (sample : Sample) : sample.line
    = if sample.Encodable then .ok (sample.toJson.render ++ [10]) else .error .unencodable := by
  simp only [line, Json.Value.write?, ← encodable_toJson]
  split <;> rfl

/-- The value that is read from the line of a sample: what is not a finite number is `null`. -/
def readValue (sample : Sample) : Json.Value :=
  if sample.value.isFinite then .real sample.value else .null

/-- The inner object that is read from the line of a sample. -/
def readData (sample : Sample) : Json.Value :=
  .object [
    (utf8 "metadata", sample.metadata.toJson),
    (utf8 "tags", sample.tags.toJson),
    (utf8 "time", .string sample.time.render),
    (utf8 "value", sample.readValue)]

/-- The document that is read from the line of a sample. -/
def document (sample : Sample) : Json.Value :=
  .object [
    (utf8 "data", sample.readData),
    (utf8 "metric", .string sample.metric),
    (utf8 "type", .string (utf8 "Point"))]

/-- What is not a finite number is written like `null`. -/
lemma render_document (sample : Sample) : sample.document.render = sample.toJson.render := by
  have hvalue : sample.readValue.render = (Json.Value.real sample.value).render := by
    rw [readValue]
    split
    next => rfl
    next hfinite => exact (if_neg hfinite).symm
  simp only [document, readData, toJson, Json.Value.render, Json.renderMembers, hvalue]
  rfl

lemma writable_readValue (sample : Sample) : sample.readValue.Writable := by
  rw [readValue]
  split
  next hfinite => exact .real hfinite
  next => exact .null

lemma writable_readData (h : sample.Encodable) : sample.readData.Writable := by
  refine @Json.Value.writable_object _ [utf8 "metadata", utf8 "tags", utf8 "time", utf8 "value"]
    rfl (by decide) (by decide) ?_
  simp only [List.forall_mem_cons]
  exact ⟨Tags.writable_toJson h.metadata, Tags.writable_toJson h.tags,
    .string sample.time.valid_render, sample.writable_readValue, by simp⟩

lemma writable_document (h : sample.Encodable) : sample.document.Writable := by
  refine @Json.Value.writable_object _ [utf8 "data", utf8 "metric", utf8 "type"]
    rfl (by decide) (by decide) ?_
  simp only [List.forall_mem_cons]
  exact ⟨writable_readData h, .string h.metric, .string (by decide), by simp⟩

/-- What a document says about a sample. -/
structure ReadAs (sample : Sample) (document : Json.Value) : Prop where
  type : document.member? (utf8 "type") = some (.string (utf8 "Point"))
  metric : document.member? (utf8 "metric") = some (.string sample.metric)
  data : ∃ data, document.member? (utf8 "data") = some data
    ∧ data.member? (utf8 "tags")
      = some (.object (sample.tags.entries.map fun (name, text) => (name, .string text)))
    ∧ data.member? (utf8 "metadata")
      = some (.object (sample.metadata.entries.map fun (name, text) => (name, .string text)))
    ∧ data.member? (utf8 "value") = some sample.readValue
    ∧ ∃ time, data.member? (utf8 "time") = some (.string time)
      ∧ ∀ instant, Timestamp.Denotes time instant ↔ instant = sample.time.nanoseconds / 1000

lemma readAs_document (h : sample.time.Fits) : sample.ReadAs sample.document where
  type := rfl
  metric := rfl
  data := ⟨sample.readData, rfl, rfl, rfl, rfl, sample.time.render, rfl,
    fun _ => Timestamp.denotes_render_iff h⟩

/-- **Reading a line**: the line of a sample has no newline but its end, and without that it is a
document that says what the sample says. -/
lemma exists_line (hencodable : sample.Encodable) (hfits : sample.time.Fits) :
    ∃ line, sample.line = .ok (line ++ [10]) ∧ 10 ∉ line
      ∧ ∃ document, Json.Value.parse line = .ok document ∧ sample.ReadAs document := by
  have hwritable := writable_document hencodable
  refine ⟨sample.document.render, ?_, Json.Value.newline_not_mem_render hwritable,
    sample.document, Json.Value.parse_render hwritable, readAs_document hfits⟩
  rw [line_eq, if_pos hencodable, render_document]

end Sample

end MeteredHttp
