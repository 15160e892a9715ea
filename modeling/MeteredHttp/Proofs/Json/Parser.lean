import MeteredHttp.Json.Field
import MeteredHttp.Json.Parser
import MeteredHttp.Proofs.Except

/-!
# Documents that were read

Whatever the order of the members in a text, in the document they are listed by the bytes of their
names, each name once, and so are those of every object inside.

* `Json.Value.Ordered` is this form of documents.
* `Json.Parser.step_ordered` says that one token of progress keeps it in all that is still open.
* **`Json.Value.ordered_of_parse`** concludes that every document has it.
-/

namespace MeteredHttp.Json

/-- In every object the names of the members increase, so that they are different. -/
inductive Value.Ordered : Value → Prop
  | null : Ordered .null
  | bool (b : Bool) : Ordered (.bool b)
  | integer (i : Int) : Ordered (.integer i)
  | real (x : Binary64) : Ordered (.real x)
  | string (s : Bytes) : Ordered (.string s)
  | array {items : List Value} (h : ∀ v ∈ items, Ordered v) : Ordered (.array items)
  | object {members : List (Bytes × Value)} (hnames : members.Pairwise fun a b => a.1 < b.1)
    (h : ∀ entry ∈ members, Ordered entry.2) : Ordered (.object members)

lemma Value.Ordered.names {members : List (Bytes × Value)} (h : (Value.object members).Ordered) :
    members.Pairwise fun a b => a.1 < b.1 := by
  cases h with
  | object hnames => exact hnames

/-- What is a member of such an object has the form too. -/
lemma Value.Ordered.of_member? {members : List (Bytes × Value)} {name : Bytes} {v : Value}
    (h : (Value.object members).Ordered)
    (hmember : (Value.object members).member? name = some v) : v.Ordered := by
  cases h with
  | object hnames hmembers =>
    obtain ⟨entry, hfind, rfl⟩ := Option.map_eq_some_iff.1 hmember
    exact hmembers entry (List.mem_of_find?_eq_some hfind)

namespace Parser

/-- What has been read of a container has the form of documents. -/
def Frame.Ordered : Frame → Prop
  | .array items => Value.Ordered (.array items)
  | .object members | .member members _ => Value.Ordered (.object members)

/-- All that has been read has the form of documents. -/
structure State.Ordered (state : State) : Prop where
  complete : ∀ v, state.phase = .complete v → v.Ordered
  stack : ∀ frame ∈ state.stack, frame.Ordered

variable {state state' : State} {stack : List Frame} {token : Token} {v : Value}

lemma ordered_insertEntry {members : List (Bytes × Value)} (h : Value.Ordered (.object members))
    (name : Bytes) (hv : v.Ordered) :
    Value.Ordered (.object (Dictionary.insertEntry name v members)) := by
  cases h with
  | object hnames hmembers =>
    refine .object (Dictionary.pairwise_insertEntry name v hnames) ?_
    intro entry hentry
    rcases Dictionary.mem_insertEntry hentry with rfl | hold
    · exact hv
    · exact hmembers entry hold

lemma ordered_cons {items : List Value} (h : Value.Ordered (.array items)) (hv : v.Ordered) :
    Value.Ordered (.array (v :: items)) := by
  cases h with
  | array hitems => exact .array (List.forall_mem_cons.2 ⟨hv, hitems⟩)

lemma ordered_reverse {items : List Value} (h : Value.Ordered (.array items)) :
    Value.Ordered (.array items.reverse) := by
  cases h with
  | array hitems => exact .array fun v hv => hitems v (List.mem_reverse.1 hv)

/-- A value that is complete stands on containers that are still open. -/
lemma State.Ordered.of_complete (hv : v.Ordered) (hstack : ∀ frame ∈ stack, frame.Ordered) :
    State.Ordered ⟨.complete v, stack⟩ where
  complete := fun _ hphase => Phase.complete.inj hphase ▸ hv
  stack := hstack

/-- Where no value is complete only the containers count. -/
lemma State.Ordered.of_stack {phase : Phase} (hphase : ∀ v, phase ≠ .complete v)
    (hstack : ∀ frame ∈ stack, frame.Ordered) : State.Ordered ⟨phase, stack⟩ where
  complete := fun v h => absurd h (hphase v)
  stack := hstack

/-- A value that starts keeps the form. -/
lemma open?_ordered (hstack : ∀ frame ∈ stack, frame.Ordered)
    (h : open? stack token = .ok state') : state'.Ordered := by
  cases token with
  | arrayOpen =>
    obtain rfl := Except.ok.inj h
    exact .of_stack (by simp) (List.forall_mem_cons.2 ⟨.array (by simp), hstack⟩)
  | objectOpen =>
    obtain rfl := Except.ok.inj h
    exact .of_stack (by simp) (List.forall_mem_cons.2 ⟨.object (by simp) (by simp), hstack⟩)
  | null =>
    obtain rfl := Except.ok.inj h
    exact .of_complete .null hstack
  | bool b =>
    obtain rfl := Except.ok.inj h
    exact .of_complete (.bool b) hstack
  | string s =>
    obtain rfl := Except.ok.inj h
    exact .of_complete (.string s) hstack
  | integer i =>
    obtain rfl := Except.ok.inj h
    exact .of_complete (.integer i) hstack
  | real x =>
    simp only [open?] at h
    split at h
    · obtain rfl := Except.ok.inj h
      exact .of_complete (.real x) hstack
    · cases h
  | _ => cases h

/-- What follows a complete value keeps the form. -/
lemma close?_ordered (hv : v.Ordered) (hstack : ∀ frame ∈ stack, frame.Ordered)
    (h : close? v stack token = .ok state') : state'.Ordered := by
  fun_cases close? v stack token
  case case1 items stack =>
    obtain ⟨hitems, hrest⟩ := List.forall_mem_cons.1 hstack
    obtain rfl := Except.ok.inj h
    exact .of_stack (by simp) (List.forall_mem_cons.2 ⟨ordered_cons hitems hv, hrest⟩)
  case case2 items stack =>
    obtain ⟨hitems, hrest⟩ := List.forall_mem_cons.1 hstack
    obtain rfl := Except.ok.inj h
    exact .of_complete (ordered_reverse (ordered_cons hitems hv)) hrest
  case case3 members name stack =>
    obtain ⟨hmembers, hrest⟩ := List.forall_mem_cons.1 hstack
    obtain rfl := Except.ok.inj h
    exact .of_stack (by simp)
      (List.forall_mem_cons.2 ⟨ordered_insertEntry hmembers name hv, hrest⟩)
  case case4 members name stack =>
    obtain ⟨hmembers, hrest⟩ := List.forall_mem_cons.1 hstack
    obtain rfl := Except.ok.inj h
    exact .of_complete (ordered_insertEntry hmembers name hv) hrest
  case case5 hcommaArray hcloseArray hcommaMember hcloseMember =>
    rw [close?] at h
    · cases h
    all_goals assumption

/-- **One token of progress** keeps the form. -/
lemma step_ordered (hstate : state.Ordered) (h : step state token = .ok state') :
    state'.Ordered := by
  rcases state with ⟨phase, stack⟩
  obtain ⟨hcomplete, hstack⟩ := hstate
  simp only [step] at h
  split at h
  case h_1 =>
    obtain rfl := Except.ok.inj h
    exact .of_complete (.array (by simp)) (List.forall_mem_cons.1 hstack).2
  case h_2 => exact open?_ordered hstack h
  case h_3 => exact open?_ordered hstack h
  case h_4 =>
    obtain rfl := Except.ok.inj h
    exact .of_complete (.object (by simp) (by simp)) (List.forall_mem_cons.1 hstack).2
  case h_5 =>
    obtain rfl := Except.ok.inj h
    exact .of_stack (by simp) hstack
  case h_6 =>
    obtain rfl := Except.ok.inj h
    exact .of_stack (by simp) hstack
  case h_7 =>
    -- The object whose member comes next is what it was.
    obtain ⟨hmembers, hrest⟩ := List.forall_mem_cons.1 hstack
    obtain rfl := Except.ok.inj h
    exact .of_stack (by simp) (List.forall_mem_cons.2 ⟨hmembers, hrest⟩)
  case h_8 => exact close?_ordered (hcomplete _ rfl) hstack h
  case h_9 => cases h

/-- Any number of tokens keeps the form. -/
lemma foldlM_step_ordered {tokens : List Token} (hstate : state.Ordered)
    (h : tokens.foldlM step state = .ok state') : state'.Ordered := by
  induction tokens generalizing state with
  | nil =>
    obtain rfl := Except.ok.inj h
    exact hstate
  | cons token rest ih =>
    rw [List.foldlM_cons, bind_eq_ok] at h
    obtain ⟨next, hstep, hrest⟩ := h
    exact ih (step_ordered hstate hstep) hrest

lemma ordered_of_run {tokens : List Token} (h : run tokens = .ok v) : v.Ordered := by
  obtain ⟨state, hfold, hend⟩ := bind_eq_ok.1 h
  have hstate := foldlM_step_ordered (.of_stack (by simp) (by simp)) hfold
  -- The last value is complete, and no container is open any more.
  rcases state with ⟨_ | _ | _ | _ | _ | complete, _ | _⟩ <;> cases hend
  exact hstate.complete v rfl

end Parser

/-- Every document that is read has its members in order, each name once. -/
theorem Value.ordered_of_parse {text : Bytes} {v : Value} (h : Value.parse text = .ok v) :
    v.Ordered :=
  Parser.ordered_of_run h

end MeteredHttp.Json
