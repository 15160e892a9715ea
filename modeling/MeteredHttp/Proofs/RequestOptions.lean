import MeteredHttp.RequestOptions
import MeteredHttp.Proofs.Json.Field
import MeteredHttp.Proofs.Json.Parser
import MeteredHttp.Proofs.Tags

/-!
# Which options are accepted

The options of a request definition come from a document, an object whose members are settings.

* `RequestOptions.Describes` relates the members of such an object to the options, given which
  values stand for header fields.
* `RequestOptions.TakenFor` says which values do: an object whose members are texts, as with tags,
  but also what `Json.Value.items` has entries of.
* **`RequestOptions.accepted_iff_described`** says which texts are accepted, and when these are the
  texts whose header fields are an object.
-/

namespace MeteredHttp

namespace RequestOptions

open Json (Fault Setting Value)

variable {v : Value} {members : List (Bytes × Value)} {name : Bytes} {options : RequestOptions}

/-! ## Settings of their own kind -/

/-- A response type goes by its name; the empty name stands for text. -/
def GoesBy (type : ResponseType) (name : Bytes) : Prop :=
  name = type.name ∨ name = [] ∧ type = .text

lemma ofName?_eq_some {type : ResponseType} :
    ResponseType.ofName? name = some type ↔ GoesBy type name := by
  rw [ResponseType.ofName?]
  constructor
  · intro h
    split at h
    next hname =>
      obtain rfl := Option.some.inj h
      exact hname.symm.imp id fun hempty => ⟨hempty, rfl⟩
    next =>
      split at h
      next hname =>
        obtain rfl := Option.some.inj h
        exact .inl hname
      next =>
        split at h
        next hname =>
          obtain rfl := Option.some.inj h
          exact .inl hname
        next => cases h
  · rintro (rfl | ⟨rfl, rfl⟩)
    · cases type <;> rfl
    · rfl

/-- A text names a response type. -/
def NamesType (v : Value) (type : ResponseType) : Prop :=
  ∃ name, v = .string name ∧ GoesBy type name

/-- An object lists the tags. -/
def ListsTags (v : Value) (tags : Tags) : Prop := v = .ofTextMembers tags.entries

/-- The header fields that a value is taken for. -/
inductive TakenFor : Value → List (Bytes × Bytes) → Prop
  | object (fields : List (Bytes × Bytes)) : TakenFor (.ofTextMembers fields) fields
  /-- The items of an array are numbered. -/
  | array (texts : List Bytes) :
    TakenFor (.ofTexts texts) (texts.zipIdx.map fun (text, i) => (Numeral.decimal i, text))
  | null : TakenFor .null []
  /-- A text alone is a field without a name. -/
  | text (text : Bytes) : TakenFor (.string text) [([], text)]

/-- Numbered entries whose values are texts are numbered texts. -/
lemma exists_texts_of_numbered {items : List Value} {fields : List (Bytes × Bytes)} {start : Nat}
    (h : ((items.zipIdx start).map fun (v, i) => (Numeral.decimal i, v))
      = fields.map fun field => (field.1, .string field.2)) :
    ∃ texts : List Bytes, items = texts.map .string
      ∧ fields = (texts.zipIdx start).map fun (text, i) => (Numeral.decimal i, text) := by
  induction items generalizing start fields with
  | nil =>
    obtain rfl := List.map_eq_nil_iff.1 h.symm
    exact ⟨[], rfl, rfl⟩
  | cons v rest ih =>
    cases fields with
    | nil => cases h
    | cons field others =>
      obtain ⟨hfield, hothers⟩ := List.cons.inj h
      obtain ⟨texts, rfl, rfl⟩ := ih hothers
      obtain ⟨hname, rfl⟩ := Prod.mk.inj hfield
      exact ⟨field.2 :: texts, rfl, by simp [hname]⟩

lemma headersOfJson_eq_ok {fields : List (Bytes × Bytes)} :
    headersOfJson v = .ok fields ↔ TakenFor v fields := by
  rw [headersOfJson, Value.mapM_entries_eq_ok]
  constructor
  · intro h
    cases v with
    | object entries =>
      obtain rfl : entries = _ := h
      exact .object fields
    | array items =>
      obtain ⟨texts, rfl, rfl⟩ := exists_texts_of_numbered h
      exact .array texts
    | null =>
      obtain rfl := List.map_eq_nil_iff.1 h.symm
      exact .null
    | string text =>
      obtain ⟨⟨name, text'⟩, rfl, hfield⟩ := List.map_eq_singleton_iff.1 h.symm
      cases hfield
      exact .text text'
    | _ =>
      -- The only entry of any other value is that value, which is no text.
      obtain ⟨⟨name, text⟩, rfl, hfield⟩ := List.map_eq_singleton_iff.1 h.symm
      cases hfield
  · rintro (fields | texts | _ | text)
    · rfl
    · simp [Value.ofTexts, Value.items, List.zipIdx_map]
    · rfl
    · rfl

lemma bodyOfJson_eq_ok {body : Option Bytes} : bodyOfJson v = .ok body ↔ v = .ofNullable body := by
  cases body <;> cases v <;> simp [bodyOfJson, Value.ofNullable, Value.toBytes, Except.map]

/-! ## Documents -/

/-- The options that the members of a document describe, each by itself; what is not there has its
default.  `Fields` says which values stand for header fields. -/
structure Describes (Fields : Value → List (Bytes × Bytes) → Prop)
    (members : List (Bytes × Value)) (options : RequestOptions) : Prop where
  throwOnError : Setting members (utf8 "throw") (· = .bool ·) false options.throwOnError
  disableKeepAlive :
    Setting members (utf8 "disable_keep_alive") (· = .bool ·) false options.disableKeepAlive
  host : Setting members (utf8 "host") (· = .string ·) [] options.host
  headers : Setting members (utf8 "headers") Fields [] options.headers
  responseType : Setting members (utf8 "response_type") NamesType .text options.responseType
  body : Setting members (utf8 "body") (· = .ofNullable ·) none options.body
  tags : Setting members (utf8 "tags") ListsTags .empty options.tags

lemma readField_eq_ok {α : Type} {name : String} {convert : Value → Except Fault α}
    {Means : Value → α → Prop} {default x : α} (hconvert : ∀ v x, convert v = .ok x ↔ Means v x) :
    readField (.object members) name convert default = .ok x
      ↔ Setting members (utf8 name) Means default x := by
  rw [readField, mapError_eq_ok, Value.field_object_eq_ok hconvert]

lemma readResponseType_eq_ok {type : ResponseType} :
    readResponseType name = .ok type ↔ GoesBy type name := by
  rw [readResponseType, ← ofName?_eq_some]
  cases ResponseType.ofName? name <;> simp

lemma exists_responseType_iff {type : ResponseType} :
    (∃ name, Setting members (utf8 "response_type") (· = .string ·) [] name
        ∧ readResponseType name = .ok type)
      ↔ Setting members (utf8 "response_type") NamesType .text type := by
  have hdefault : GoesBy type [] ↔ type = .text := by
    rw [← ofName?_eq_some]
    exact ⟨fun h => (Option.some.inj h).symm, fun h => h ▸ rfl⟩
  simp only [readResponseType_eq_ok]
  exact Json.exists_setting_iff (fun name type => GoesBy type name) hdefault

/-- The members of an object are in order already, so that all of them are tags. -/
lemma exists_tags_iff (hordered : (Value.object members).Ordered) {tags : Tags} :
    (∃ entries, Setting members (utf8 "tags") (· = .ofTextMembers ·) [] entries
        ∧ Dictionary.ofList entries = tags)
      ↔ Setting members (utf8 "tags") ListsTags .empty tags := by
  have hdefault : Dictionary.ofList [] = tags ↔ tags = .empty := eq_comm
  rw [Json.exists_setting_iff (fun entries tags => Dictionary.ofList entries = tags) hdefault]
  refine Json.setting_congr fun v hmember => ?_
  constructor
  · rintro ⟨entries, rfl, rfl⟩
    have hnames := List.pairwise_map.1 (hordered.of_member? hmember).names
    rw [ListsTags, Dictionary.entries_ofList hnames]
  · rintro rfl
    exact ⟨tags.entries, rfl, Dictionary.ofList_entries tags⟩

lemma ofJson_object_eq_ok (hordered : (Value.object members).Ordered) :
    ofJson (.object members) = .ok options ↔ Describes TakenFor members options := by
  simp only [ofJson, bind_eq_ok, pure_eq_ok, readField_eq_ok fun _ _ => Value.toBool_eq_ok,
    readField_eq_ok fun _ _ => Value.toBytes_eq_ok,
    readField_eq_ok fun _ _ => headersOfJson_eq_ok,
    readField_eq_ok fun _ _ => bodyOfJson_eq_ok,
    readField_eq_ok fun _ _ => Value.toTextMembers_eq_ok]
  constructor
  · rintro ⟨throwOnError, hthrow, disableKeepAlive, hkeep, host, hhost, headers, hheaders, name,
      hname, responseType, htype, body, hbody, tags, htags, rfl⟩
    exact ⟨hthrow, hkeep, hhost, hheaders, exists_responseType_iff.1 ⟨name, hname, htype⟩, hbody,
      (exists_tags_iff hordered).1 ⟨tags, htags, rfl⟩⟩
  · intro h
    obtain ⟨name, hname, htype⟩ := exists_responseType_iff.2 h.responseType
    obtain ⟨tags, htags, hlist⟩ := (exists_tags_iff hordered).2 h.tags
    exact ⟨_, h.throwOnError, _, h.disableKeepAlive, _, h.host, _, h.headers, name, hname, _, htype,
      _, h.body, tags, htags, by rw [hlist]⟩

/-- Options are in objects only. -/
lemma exists_object_of_ofJson (h : ofJson v = .ok options) : ∃ members, v = .object members := by
  obtain ⟨throwOnError, hthrow, -⟩ := bind_eq_ok.1 h
  exact Value.exists_object_of_field (mapError_eq_ok.1 hthrow)

lemma parse_eq_ok {text : Bytes} :
    parse text = .ok options
      ↔ ∃ members, Value.parse text = .ok (.object members)
          ∧ Describes TakenFor members options := by
  simp only [parse, bind_eq_ok, mapError_eq_ok]
  constructor
  · rintro ⟨v, hparse, hoptions⟩
    obtain ⟨members, rfl⟩ := exists_object_of_ofJson hoptions
    exact ⟨members, hparse, (ofJson_object_eq_ok (Value.ordered_of_parse hparse)).1 hoptions⟩
  · rintro ⟨members, hparse, hdescribes⟩
    exact ⟨_, hparse, (ofJson_object_eq_ok (Value.ordered_of_parse hparse)).2 hdescribes⟩

/-! ## Header fields that are an object -/

/-- An object stands for no other header fields than the texts that are its members. -/
lemma takenFor_object_iff {entries : List (Bytes × Value)} {fields : List (Bytes × Bytes)} :
    TakenFor (.object entries) fields ↔ Value.object entries = .ofTextMembers fields := by
  rw [← headersOfJson_eq_ok, ← Value.toTextMembers_eq_ok]
  rfl

/-- Whatever is taken for the header fields makes no difference where they are an object. -/
lemma describes_iff_of_object
    (hobject : ∀ v, (Value.object members).member? (utf8 "headers") = some v →
      ∃ entries, v = .object entries) :
    Describes TakenFor members options ↔ Describes (· = .ofTextMembers ·) members options := by
  have hheaders : Setting members (utf8 "headers") TakenFor [] options.headers
      ↔ Setting members (utf8 "headers") (· = .ofTextMembers ·) [] options.headers := by
    refine Json.setting_congr fun v hmember => ?_
    obtain ⟨entries, rfl⟩ := hobject v hmember
    exact takenFor_object_iff
  exact ⟨fun h => { h with headers := hheaders.1 h.headers },
    fun h => { h with headers := hheaders.2 h.headers }⟩

lemma Describes.taken (h : Describes (· = .ofTextMembers ·) members options) :
    Describes TakenFor members options :=
  (describes_iff_of_object fun _ hmember => ⟨_, h.headers.means hmember⟩).2 h

/-! ## Refusals -/

lemma readField_eq_error {α : Type} {name : String} {convert : Value → Except Fault α} {default : α}
    {error : ParseError} (h : readField v name convert default = .error error) :
    ∃ fault, error = .document fault := by
  obtain ⟨fault, -, rfl⟩ := mapError_eq_error.1 h
  exact ⟨fault, rfl⟩

lemma readResponseType_eq_error {error : ParseError} (h : readResponseType name = .error error) :
    error = .responseType name ∧ ∀ type, ¬GoesBy type name := by
  simp only [← ofName?_eq_some]
  rw [readResponseType] at h
  cases hname : ResponseType.ofName? name with
  | none =>
    rw [hname] at h
    exact ⟨(Except.error.inj h).symm, by simp⟩
  | some type =>
    rw [hname] at h
    cases h

/-- A name that no response type goes by is not empty, so that the document has it. -/
lemma exists_response_type_member
    (h : readField v "response_type" Value.toBytes [] = .ok name)
    (hname : ∀ type, ¬GoesBy type name) :
    v.member? (utf8 "response_type") = some (.string name) := by
  obtain ⟨members, rfl⟩ := Value.exists_object_of_field (mapError_eq_ok.1 h)
  have hne : name ≠ [] := by
    rintro rfl
    exact hname .text (.inr ⟨rfl, rfl⟩)
  obtain ⟨w, hmember, rfl⟩ :=
    ((readField_eq_ok fun _ _ => Value.toBytes_eq_ok).1 h).exists_member hne
  exact hmember

lemma ofJson_eq_error {error : ParseError} (h : ofJson v = .error error) :
    (∃ fault, error = .document fault)
      ∨ ∃ name, v.member? (utf8 "response_type") = some (.string name)
          ∧ (∀ type, ¬GoesBy type name) ∧ error = .responseType name := by
  by_cases hfault : ∃ fault, error = .document fault
  · exact .inl hfault
  · -- Then it is no field that cannot be read: what is left is the name of the response type.
    have hfields : ∀ {α : Type} (name : String) (convert : Value → Except Fault α) (default : α),
        readField v name convert default ≠ .error error :=
      fun _ _ _ hread => hfault (readField_eq_error hread)
    simp only [ofJson, bind_eq_error, hfields, false_or] at h
    obtain ⟨_, -, _, -, _, -, _, -, name, hfield, hrefused | ⟨_, -, _, -, _, -, hdone⟩⟩ := h
    · obtain ⟨rfl, hname⟩ := readResponseType_eq_error hrefused
      exact .inr ⟨name, exists_response_type_member hfield hname, hname, rfl⟩
    · cases hdone

/-! ## The main result -/

/-- **Which options are accepted.**

* A text is accepted, and read as options, if it is an object whose members describe these options,
  where the header fields are what their value is taken for.
* To be accepted a text needs an object of texts for its header fields, if it has them, exactly
  unless it is accepted with header fields that are no object.
* Any other text is refused, either as a document or for the name of its response type. -/
theorem accepted_iff_described (text : Bytes) :
    (∀ options, parse text = .ok options
        ↔ ∃ members, Value.parse text = .ok (.object members)
            ∧ Describes TakenFor members options)
      ∧ ((∀ options, parse text = .ok options
            ↔ ∃ members, Value.parse text = .ok (.object members)
                ∧ Describes (· = .ofTextMembers ·) members options)
          ↔ ∀ options members v, parse text = .ok options →
              Value.parse text = .ok (.object members) →
              (Value.object members).member? (utf8 "headers") = some v →
              ∃ entries, v = .object entries)
      ∧ ∀ error, parse text = .error error →
          (∃ fault, error = .document fault)
            ∨ ∃ members name, Value.parse text = .ok (.object members)
                ∧ (Value.object members).member? (utf8 "response_type") = some (.string name)
                ∧ (∀ type, ¬GoesBy type name) ∧ error = .responseType name := by
  refine ⟨fun options => parse_eq_ok, ⟨?_, ?_⟩, ?_⟩
  · intro hstrict options members v haccepted hparse hmember
    obtain ⟨members', hparse', hdescribes⟩ := (hstrict options).1 haccepted
    obtain rfl := Value.object.inj (Except.ok.inj (hparse.symm.trans hparse'))
    exact ⟨_, hdescribes.headers.means hmember⟩
  · intro hobject options
    rw [parse_eq_ok]
    refine exists_congr fun members => and_congr_right fun hparse => ?_
    constructor
    · intro hdescribes
      have haccepted := parse_eq_ok.2 ⟨members, hparse, hdescribes⟩
      have hheaders := fun v => hobject options members v haccepted hparse
      exact (describes_iff_of_object hheaders).1 hdescribes
    · exact Describes.taken
  · intro error hrefused
    rcases bind_eq_error.1 hrefused with hdocument | ⟨v, hparse, hjson⟩
    · obtain ⟨fault, -, rfl⟩ := mapError_eq_error.1 hdocument
      exact .inl ⟨fault, rfl⟩
    · refine (ofJson_eq_error hjson).imp id ?_
      rintro ⟨name, hmember, hname, rfl⟩
      obtain ⟨members, rfl⟩ := Value.exists_object_of_member? hmember
      exact ⟨members, name, mapError_eq_ok.1 hparse, hmember, hname, rfl⟩

/-- What a text has for header fields, if it is a document that has them. -/
def statedHeaders? (text : Bytes) : Option Value :=
  (Value.parse text).toOption.bind (·.member? (utf8 "headers"))

lemma undescribed_of_headers {text : Bytes} {fault : Fault}
    (h : (statedHeaders? text).map Value.toTextMembers = some (.error fault))
    (options : RequestOptions) :
    ¬∃ members, Value.parse text = .ok (.object members)
      ∧ Describes (· = .ofTextMembers ·) members options := by
  rintro ⟨members, hparse, hdescribes⟩
  obtain ⟨v, hv, hfault⟩ := Option.map_eq_some_iff.1 h
  have hmember : (Value.object members).member? (utf8 "headers") = some v := by
    rw [← hv, statedHeaders?, hparse]
    rfl
  rw [Value.toTextMembers_eq_ok.2 (hdescribes.headers.means hmember)] at hfault
  cases hfault

/-- Documents whose header fields are no object. -/
def lenient : List Bytes :=
  [utf8 "\x7b\"headers\": [\"a\"]\x7d", utf8 "\x7b\"headers\": \"a\"\x7d",
    utf8 "\x7b\"headers\": null\x7d"]

/-- They are accepted, and requests are sent with a field called `0`, with a field without a name,
and with no field. -/
theorem listed_headers_are_accepted :
    lenient.map (fun text => (parse text).toOption.map headers)
        = [some [(utf8 "0", utf8 "a")], some [([], utf8 "a")], some []]
      ∧ ∀ text ∈ lenient, ∀ options,
          ¬∃ members, Value.parse text = .ok (.object members)
            ∧ Describes (· = .ofTextMembers ·) members options := by
  constructor
  · decide +kernel
  · have hstated : ∀ text ∈ lenient,
        (statedHeaders? text).map Value.toTextMembers = some (.error .mistyped) := by
      decide +kernel
    exact fun text htext => undescribed_of_headers (hstated text htext)

end RequestOptions

end MeteredHttp
