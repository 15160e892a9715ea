import MeteredHttp.Json.Parser
import MeteredHttp.Proofs.Except
import MeteredHttp.Proofs.Json.Scanning
import MeteredHttp.Proofs.Tags

/-!
# Reading back what was written

* `Json.Value.Writable` collects what makes a value survive: its numbers are finite or fit in 64
  bits, its texts are valid UTF-8, and its objects list their members in order.
* `Json.Parser.reads_of_writable` says that the reader that comes to the written form of such a
  value has this value complete when it has come to the end of it, whatever is open around it.
* **`Json.Value.parse_render`** concludes that a document is read back as the value it was written
  from.
* `Json.Value.newline_not_mem_render` adds that a document is written on one line.
-/

namespace MeteredHttp.Json

/-! ## Sequences of tokens -/

namespace Token

variable {text rest : Bytes} {token : Token}

lemma go_of_none (done : List Token) (h : next? text = none) :
    sequence.go done text = done.reverse := by
  rw [sequence.go]
  split
  next => rfl
  next hsome => cases h.symm.trans hsome

lemma go_of_some (done : List Token) (h : next? text = some (token, rest)) :
    sequence.go done text = sequence.go (token :: done) rest := by
  rw [sequence.go]
  split
  next hnone => cases h.symm.trans hnone
  next hsome =>
    cases h.symm.trans hsome
    rfl

/-- The tokens found so far stand in front. -/
lemma go_eq (done : List Token) (text : Bytes) :
    sequence.go done text = done.reverse ++ sequence.go [] text := by
  cases hnext : next? text with
  | none => simp [go_of_none _ hnext]
  | some found =>
    obtain ⟨token, rest⟩ := found
    rw [go_of_some done hnext, go_of_some [] hnext, go_eq (token :: done) rest, go_eq [token] rest]
    simp
termination_by text.length
decreasing_by all_goals exact next?_length hnext

lemma sequence_nil : sequence [] = [] := go_of_none [] rfl

lemma sequence_of_next? (h : next? text = some (token, rest)) :
    sequence text = token :: sequence rest := by
  rw [sequence, go_of_some [] h, go_eq]
  rfl

end Token

/-! ## Values -/

/-- Values that can be read back: numbers are finite or fit in 64 bits, texts are valid UTF-8, and
the members of objects are in order. -/
inductive Value.Writable : Value → Prop
  | null : Writable .null
  | bool (b : Bool) : Writable (.bool b)
  | integer {i : Int} (hlow : -9223372036854775808 ≤ i) (hhigh : i ≤ 18446744073709551615) :
    Writable (.integer i)
  | real {x : Binary64} (hfinite : x.isFinite = true) : Writable (.real x)
  | string {s : Bytes} (hvalid : Utf8.valid s = true) : Writable (.string s)
  | array {items : List Value} (h : ∀ v ∈ items, Writable v) : Writable (.array items)
  | object {members : List (Bytes × Value)} (hnames : members.Pairwise fun a b => a.1 < b.1)
    (hvalid : ∀ entry ∈ members, Utf8.valid entry.1 = true)
    (h : ∀ entry ∈ members, Writable entry.2) : Writable (.object members)

/-- An object whose names are known. -/
lemma Value.writable_object {members : List (Bytes × Value)} {names : List Bytes}
    (hmembers : members.map (·.1) = names) (hnames : names.Pairwise (· < ·))
    (hvalid : ∀ name ∈ names, Utf8.valid name = true) (h : ∀ entry ∈ members, entry.2.Writable) :
    (Value.object members).Writable := by
  subst hmembers
  exact .object (List.pairwise_map.1 hnames) (List.forall_mem_map.1 hvalid) h

namespace Parser

open Token (EndsNumber next?)

variable {phase : Phase} {state state' : State} {stack : List Frame} {text rest : Bytes}
  {token : Token} {v : Value}

/-- The state after all tokens of a text. -/
def read (state : State) (text : Bytes) : Except Fault State :=
  (Token.sequence text).foldlM step state

/-- The first token of a text is one step. -/
lemma read_of_next? (h : next? text = some (token, rest)) (hstep : step state token = .ok state') :
    read state text = read state' rest := by
  rw [read, Token.sequence_of_next? h, List.foldlM_cons, hstep]
  rfl

/-- Where a value may begin. -/
def Phase.Opens (phase : Phase) : Prop := phase = .value ∨ phase = .firstItem

lemma step_of_opens (h : phase.Opens) (htoken : token ≠ .arrayClose) :
    step ⟨phase, stack⟩ token = open? stack token := by
  rcases h with rfl | rfl
  · rfl
  · simp only [step]
    split
    next => exact absurd rfl htoken
    all_goals simp_all

/-- The reader that comes to the written form of a value has it complete in the end. -/
def Reads (v : Value) : Prop :=
  ∀ {phase : Phase} {stack : List Frame} {rest : Bytes}, phase.Opens → EndsNumber rest →
    read ⟨phase, stack⟩ (v.render ++ rest) = read ⟨.complete v, stack⟩ rest

/-- A value that is one token is read in one step. -/
lemma reads_of_token
    (hnext : ∀ {rest}, EndsNumber rest → next? (v.render ++ rest) = some (token, rest))
    (hopen : ∀ stack, open? stack token = .ok ⟨.complete v, stack⟩) : Reads v := by
  intro phase stack rest hphase hrest
  have htoken : token ≠ .arrayClose := by
    rintro rfl
    cases hopen stack
  refine read_of_next? (hnext hrest) ?_
  rw [step_of_opens hphase htoken, hopen]

/-- What follows a value ends it. -/
lemma endsNumber_renderItems (items : List Value) (rest : Bytes) :
    EndsNumber (renderItems items ++ rest) := by
  cases items <;> simp [renderItems, EndsNumber] <;> decide

lemma endsNumber_renderMembers (members : List (Bytes × Value)) (rest : Bytes) :
    EndsNumber (renderMembers members ++ rest) := by
  cases members <;> simp [renderMembers, EndsNumber] <;> decide

/-- The items of an array after the one that is complete are read one after the other. -/
lemma read_renderItems {items : List Value} (h : ∀ v ∈ items, Reads v) (done : List Value)
    (v : Value) (stack : List Frame) {rest : Bytes} :
    read ⟨.complete v, .array done :: stack⟩ (renderItems items ++ rest)
      = read ⟨.complete (.array (done.reverse ++ v :: items)), stack⟩ rest := by
  induction items generalizing done v with
  | nil =>
    rw [List.append_cons, List.append_nil, ← List.reverse_cons]
    exact read_of_next? rfl rfl
  | cons next items ih =>
    obtain ⟨hnext, hitems⟩ := List.forall_mem_cons.1 h
    have hcomma : read ⟨.complete v, .array done :: stack⟩ (renderItems (next :: items) ++ rest)
        = read ⟨.value, .array (v :: done) :: stack⟩
          (next.render ++ (renderItems items ++ rest)) := by
      rw [renderItems, List.cons_append, List.append_assoc]
      exact read_of_next? rfl rfl
    rw [hcomma, hnext (.inl rfl) (endsNumber_renderItems items rest), ih hitems]
    simp

/-- A member whose name is greater than all names before it is put at the end. -/
lemma insertEntry_of_names {done members : List (Bytes × Value)} {name : Bytes}
    (hnames : (done ++ (name, v) :: members).Pairwise fun a b => a.1 < b.1) :
    Dictionary.insertEntry name v done = done ++ [(name, v)] :=
  Dictionary.insertEntry_of_lt (fun entry hentry =>
    (List.pairwise_append.1 hnames).2.2 entry hentry (name, v) List.mem_cons_self) v

/-- A name and its colon are read before the value of a member. -/
lemma read_name {done : List (Bytes × Value)} {name : Bytes}
    (hphase : phase = .name ∨ phase = .firstName) (hvalid : Utf8.valid name = true)
    (stack : List Frame) (text : Bytes) :
    read ⟨phase, .object done :: stack⟩ (quote name ++ 58 :: text)
      = read ⟨.value, .member done name :: stack⟩ text := by
  have hname : read ⟨phase, .object done :: stack⟩ (quote name ++ 58 :: text)
      = read ⟨.colon name, .object done :: stack⟩ (58 :: text) := by
    refine read_of_next? (Token.next?_quote hvalid _) ?_
    rcases hphase with rfl | rfl <;> rfl
  rw [hname]
  exact read_of_next? rfl rfl

/-- The members of an object after the one that is complete are read one after the other. -/
lemma read_renderMembers {members : List (Bytes × Value)}
    (hvalid : ∀ entry ∈ members, Utf8.valid entry.1 = true) (h : ∀ entry ∈ members, Reads entry.2)
    {done : List (Bytes × Value)} {name : Bytes} {v : Value}
    (hnames : (done ++ (name, v) :: members).Pairwise fun a b => a.1 < b.1) (stack : List Frame)
    {rest : Bytes} :
    read ⟨.complete v, .member done name :: stack⟩ (renderMembers members ++ rest)
      = read ⟨.complete (.object (done ++ (name, v) :: members)), stack⟩ rest := by
  have hinsert := insertEntry_of_names hnames
  induction members generalizing done name v with
  | nil =>
    rw [← hinsert]
    exact read_of_next? rfl rfl
  | cons next members ih =>
    obtain ⟨other, w⟩ := next
    obtain ⟨hother, hvalid⟩ := List.forall_mem_cons.1 hvalid
    obtain ⟨hnext, hmembers⟩ := List.forall_mem_cons.1 h
    have hcomma : read ⟨.complete v, .member done name :: stack⟩
          (renderMembers ((other, w) :: members) ++ rest)
        = read ⟨.name, .object (done ++ [(name, v)]) :: stack⟩
          (quote other ++ 58 :: (w.render ++ (renderMembers members ++ rest))) := by
      rw [renderMembers, List.cons_append, List.append_assoc, List.cons_append, List.append_assoc,
        ← hinsert]
      exact read_of_next? rfl rfl
    rw [List.append_cons] at hnames ⊢
    rw [hcomma, read_name (.inl rfl) hother,
      hnext (.inl rfl) (endsNumber_renderMembers members rest),
      ih hvalid hmembers hnames (insertEntry_of_names hnames)]

lemma reads_array {items : List Value} (h : ∀ v ∈ items, Reads v) : Reads (.array items) := by
  intro phase stack rest hphase hrest
  cases items with
  | nil =>
    have hopen : read ⟨phase, stack⟩ (Value.render (.array []) ++ rest)
        = read ⟨.firstItem, .array [] :: stack⟩ (93 :: rest) :=
      read_of_next? rfl (step_of_opens hphase (by simp))
    rw [hopen]
    exact read_of_next? rfl rfl
  | cons v items =>
    obtain ⟨hv, hitems⟩ := List.forall_mem_cons.1 h
    have hopen : read ⟨phase, stack⟩ (Value.render (.array (v :: items)) ++ rest)
        = read ⟨.firstItem, .array [] :: stack⟩ (v.render ++ (renderItems items ++ rest)) := by
      rw [← List.append_assoc]
      exact read_of_next? rfl (step_of_opens hphase (by simp))
    rw [hopen, hv (.inr rfl) (endsNumber_renderItems items rest), read_renderItems hitems]
    rfl

lemma reads_object {members : List (Bytes × Value)}
    (hnames : members.Pairwise fun a b => a.1 < b.1)
    (hvalid : ∀ entry ∈ members, Utf8.valid entry.1 = true) (h : ∀ entry ∈ members, Reads entry.2) :
    Reads (.object members) := by
  intro phase stack rest hphase hrest
  cases members with
  | nil =>
    have hopen : read ⟨phase, stack⟩ (Value.render (.object []) ++ rest)
        = read ⟨.firstName, .object [] :: stack⟩ (125 :: rest) :=
      read_of_next? rfl (step_of_opens hphase (by simp))
    rw [hopen]
    exact read_of_next? rfl rfl
  | cons member members =>
    obtain ⟨name, v⟩ := member
    obtain ⟨hname, hvalid⟩ := List.forall_mem_cons.1 hvalid
    obtain ⟨hv, hmembers⟩ := List.forall_mem_cons.1 h
    have hopen : read ⟨phase, stack⟩ (Value.render (.object ((name, v) :: members)) ++ rest)
        = read ⟨.firstName, .object [] :: stack⟩
          (quote name ++ 58 :: (v.render ++ (renderMembers members ++ rest))) := by
      rw [← List.append_assoc, ← List.cons_append, ← List.append_assoc]
      exact read_of_next? rfl (step_of_opens hphase (by simp))
    rw [hopen, read_name (.inr rfl) hname, hv (.inl rfl) (endsNumber_renderMembers members rest),
      read_renderMembers hvalid hmembers hnames]
    rfl

/-- **Reading a value**: whatever is open around it, the written form of a value is read as that
value. -/
lemma reads_of_writable (h : v.Writable) : Reads v := by
  induction h with
  | null => exact reads_of_token (fun _ => rfl) fun _ => rfl
  | bool b =>
    cases b with
    | true => exact reads_of_token (fun _ => rfl) fun _ => rfl
    | false => exact reads_of_token (fun _ => rfl) fun _ => rfl
  | integer hlow hhigh => exact reads_of_token (Token.next?_decimal hlow hhigh) fun _ => rfl
  | real hfinite =>
    refine reads_of_token (Token.next?_renderReal hfinite) fun stack => ?_
    rw [open?, if_pos hfinite]
  | string hvalid => exact reads_of_token (fun _ => Token.next?_quote hvalid _) fun _ => rfl
  | array _ ih => exact reads_array ih
  | object hnames hvalid _ ih => exact reads_object hnames hvalid ih

/-- A text that begins with a byte order mark begins with no token. -/
lemma withoutMark_of_read (h : read ⟨.value, []⟩ text = .ok state) : withoutMark text = text := by
  have hstart : text.dropStart? [0xEF, 0xBB, 0xBF] = none := by
    rw [Bytes.dropStart?_eq_none]
    rintro ⟨rest, rfl⟩
    have hnext : next? (0xEF :: 0xBB :: 0xBF :: rest) = some (.junk, []) := rfl
    have hread : read ⟨.value, []⟩ (0xEF :: 0xBB :: 0xBF :: rest) = .error .malformed := by
      rw [read, Token.sequence_of_next? hnext]
      rfl
    cases hread.symm.trans h
  rw [withoutMark, hstart, Option.getD_none]

end Parser

/-- **Reading back what was written**: a document is read as the value it was written from. -/
theorem Value.parse_render {v : Value} (h : v.Writable) : Value.parse v.render = .ok v := by
  have hread := @Parser.reads_of_writable v h .value [] [] (.inl rfl) (by simp [Token.EndsNumber])
  have hend : Parser.read ⟨.complete v, []⟩ [] = .ok ⟨.complete v, []⟩ := by
    rw [Parser.read, Token.sequence_nil]
    rfl
  rw [List.append_nil, hend] at hread
  rw [Value.parse, Parser.withoutMark_of_read hread]
  show (Parser.read ⟨.value, []⟩ v.render >>= _) = _
  rw [hread]
  rfl

/-! ## Lines -/

namespace Token

lemma newline_not_mem_escapeByte : ∀ b : UInt8, 10 ∉ escapeByte b :=
  Bytes.forall_byte (by decide +kernel)

lemma newline_not_mem_quote (s : Bytes) : 10 ∉ quote s := by
  simp [quote, newline_not_mem_escapeByte]

lemma newline_not_mem_digits {text : Bytes} {n : Nat} (h : Numeral.Writes 10 text n) :
    10 ∉ text := by
  intro hmem
  have hdigit := h.digits 10 hmem
  revert hdigit
  decide

/-- The digits, points and signs of a number are on one line. -/
lemma Number.WellFormed.newline_not_mem {number : Number} (h : number.WellFormed) :
    10 ∉ number.text := by
  obtain ⟨n, hwhole⟩ := h.whole
  have hfraction : 10 ∉ number.fraction.elim [] (46 :: ·) := by
    cases hcase : number.fraction with
    | none => simp
    | some digits =>
      obtain ⟨m, hdigits⟩ := h.fraction digits hcase
      simpa using newline_not_mem_digits hdigits
  have hexponent : 10 ∉ number.exponent.elim [] (101 :: renderExponent ·) := by
    cases number.exponent with
    | none => simp
    | some e =>
      have hdigits := newline_not_mem_digits (Numeral.writes_padded 2 e.natAbs)
      simp only [Option.elim_some, renderExponent, List.mem_cons, not_or]
      refine ⟨by decide, ?_, hdigits⟩
      split <;> decide
  simp only [Number.text, Number.body, List.mem_append, not_or]
  refine ⟨?_, newline_not_mem_digits hwhole, hfraction, hexponent⟩
  split <;> decide

end Token

lemma newline_not_mem_renderItems {items : List Value} (h : ∀ v ∈ items, 10 ∉ v.render) :
    10 ∉ renderItems items := by
  induction items with
  | nil => decide
  | cons v items ih =>
    obtain ⟨hv, hitems⟩ := List.forall_mem_cons.1 h
    simp [renderItems, hv, ih hitems]

lemma newline_not_mem_renderMembers {members : List (Bytes × Value)}
    (h : ∀ entry ∈ members, 10 ∉ entry.2.render) : 10 ∉ renderMembers members := by
  induction members with
  | nil => decide
  | cons member members ih =>
    obtain ⟨hv, hmembers⟩ := List.forall_mem_cons.1 h
    simp [renderMembers, hv, ih hmembers, Token.newline_not_mem_quote]

/-- **The written form of a document is on one line.** -/
theorem Value.newline_not_mem_render {v : Value} (h : v.Writable) : 10 ∉ v.render := by
  induction h with
  | null => decide
  | bool b => cases b <;> decide
  | integer =>
    intro hmem
    rcases Numeral.isDigitOf_of_mem_decimal hmem with hdigit | hminus
    · revert hdigit
      decide
    · revert hminus
      decide
  | real hfinite =>
    obtain ⟨number, hwellFormed, htext, -⟩ := Token.exists_number hfinite
    show 10 ∉ renderReal _
    rw [htext]
    exact hwellFormed.newline_not_mem
  | string => exact Token.newline_not_mem_quote _
  | @array items _ ih =>
    cases items with
    | nil => decide
    | cons v items =>
      obtain ⟨hv, hitems⟩ := List.forall_mem_cons.1 ih
      simp [Value.render, hv, newline_not_mem_renderItems hitems]
  | @object members _ _ _ ih =>
    cases members with
    | nil => decide
    | cons member members =>
      obtain ⟨hv, hmembers⟩ := List.forall_mem_cons.1 ih
      simp [Value.render, hv, newline_not_mem_renderMembers hmembers, Token.newline_not_mem_quote]

end MeteredHttp.Json
