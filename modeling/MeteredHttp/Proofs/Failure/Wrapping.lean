import MeteredHttp.Proofs.Failure.Codes
import Mathlib.Tactic.ByContra
import Mathlib.Tactic.SplitIfs

/-!
# Failures under wrappers

Few of those who report a failure know what went wrong.  The others wrap it: a request failed
because dialing failed because of what the resolver said.

* `Failure.Node.Passes` and `Failure.Node.Dials` are the links that only wrap, and `Failure.wrap` is
  a failure under a stack of links.
* `Failure.classify_passing`, `Failure.classify_dial` and `Failure.code_dial_systemCall` say what a
  single link makes of its cause.
* **`Failure.classify_wrap_eq_iff`** says when a classification survives a whole stack.
-/

namespace MeteredHttp.Failure

/-- A link that leaves the decision to its cause. -/
inductive Node.Passes : Node → Prop
  | generic (message : Bytes) : Passes (.generic message)
  | url (operation target : Bytes) : Passes (.url operation target)
  | systemError (errno : Int32) : Passes (.systemError errno)

/-- A link that says that a TCP connection could not be opened. -/
inductive Node.Dials : Node → Prop
  | dial {net : Bytes} (hnet : net = utf8 "tcp" ∨ net = utf8 "tcp6") (address : Bytes) :
    Dials (.network (utf8 "dial") net address)

/-- A failure under a stack of links, the outermost first. -/
def wrap (stack : List Node) (failure : Failure) : Failure := stack.foldr .because failure

@[simp] lemma wrap_nil (failure : Failure) : wrap [] failure = failure := rfl

@[simp] lemma wrap_cons (node : Node) (stack : List Node) (failure : Failure) :
    wrap (node :: stack) failure = .because node (wrap stack failure) := rfl

variable {node : Node} {cause : Failure} {name : Bytes} {errno : Int32}

/-! ## One link -/

lemma classify_passing (h : node.Passes) (cause : Failure) :
    (because node cause).classify = cause.classify := by
  cases h with
  | generic message => rfl
  | url operation target => rfl
  | systemError errno => rfl

/-- A system call that failed has no code of its own. -/
lemma code_of_systemCall (h : cause.node = .systemCall name errno) :
    cause.classify.code = .unspecific := by
  obtain ⟨inner?, hclassify⟩ := cause.exists_classify_eq
  rw [hclassify]
  simp only [classifyOuter, h]
  split <;> rfl

/-- An operation on a TCP network is not one on another network. -/
lemma classify_tcp {net : Bytes} (hnet : net = utf8 "tcp" ∨ net = utf8 "tcp6")
    (operation address : Bytes) (cause : Failure) :
    (because (.network operation net address) cause).classify
      = match some cause.node with
        | some (.systemCall _ 104) =>
          ⟨.connectionReset, operation ++ utf8 ": connection reset by peer"⟩
        | some (.systemCall _ 32) => ⟨.brokenPipe, operation ++ utf8 ": broken pipe"⟩
        | _ =>
          if operation = utf8 "dial" then
            classifyDial (because (.network operation net address) cause) (some cause)
              (some cause.classify)
          else
            classifyConnected (because (.network operation net address) cause) operation
              (some cause) := by
  have htcp : ¬(net ≠ utf8 "tcp" ∧ net ≠ utf8 "tcp6") := by
    rintro ⟨hne, hne6⟩
    exact hnet.elim hne hne6
  exact if_neg htcp

/-- Unless it was a system call that failed, dialing adds something only to causes of which nothing
specific is known. -/
lemma classify_dial {net : Bytes} (hnet : net = utf8 "tcp" ∨ net = utf8 "tcp6") (address : Bytes)
    (hcause : ∀ name errno, cause.node ≠ .systemCall name errno) :
    (because (.network (utf8 "dial") net address) cause).classify
      = if cause.classify.code = .unspecific then
          ⟨.dial, (because (.network (utf8 "dial") net address) cause).text⟩
        else cause.classify := by
  rw [classify_tcp hnet, if_pos rfl]
  split
  next name hnode => exact absurd (Option.some.inj hnode) (hcause name 104)
  next name hnode => exact absurd (Option.some.inj hnode) (hcause name 32)
  next =>
    simp only [classifyDial, Option.map_some]
    split
    next name errno hnode => exact absurd (Option.some.inj hnode) (hcause name errno)
    next => rfl

/-- The errno of a system call tells why it was impossible to dial. -/
lemma code_dial_systemCall {net : Bytes} (hnet : net = utf8 "tcp" ∨ net = utf8 "tcp6")
    (address : Bytes) (h : cause.node = .systemCall name errno) :
    (because (.network (utf8 "dial") net address) cause).classify.code
      = if errno = 104 then .connectionReset
        else if errno = 32 then .brokenPipe
        else if errno = 111 then .dialRefused
        else if errno = 0 then .dial
        else .dialSystemError := by
  rw [classify_tcp hnet, h, if_pos rfl]
  by_cases hreset : errno = 104
  · subst hreset
    rfl
  by_cases hpipe : errno = 32
  · subst hpipe
    rfl
  rw [if_neg hreset, if_neg hpipe]
  split
  next name' hnode => exact absurd (Node.systemCall.inj (Option.some.inj hnode)).2 hreset
  next name' hnode => exact absurd (Node.systemCall.inj (Option.some.inj hnode)).2 hpipe
  next =>
    simp only [classifyDial, Option.map_some, h, SystemError.connectionRefused]
    by_cases hrefused : errno = 111
    · simp [hrefused]
    · by_cases hzero : errno = 0 <;> simp [hrefused, hzero]

/-! ## Links that dial -/

lemma Node.Dials.classify_of_specific (h : node.Dials)
    (hcause : cause.classify.code ≠ .unspecific) :
    (because node cause).classify = cause.classify := by
  obtain ⟨hnet, address⟩ := h
  have hnode : ∀ name errno, cause.node ≠ .systemCall name errno := by
    intro name errno hnode
    exact hcause (code_of_systemCall hnode)
  rw [classify_dial hnet address hnode, if_neg hcause]

/-- Failing to dial always has a code of its own. -/
lemma Node.Dials.specific (h : node.Dials) (cause : Failure) :
    (because node cause).classify.code ≠ .unspecific := by
  obtain ⟨hnet, address⟩ := h
  by_cases hcause : ∃ name errno, cause.node = .systemCall name errno
  · obtain ⟨name, errno, hnode⟩ := hcause
    rw [code_dial_systemCall hnet address hnode]
    split_ifs <;> decide
  · rw [classify_dial hnet address (by simpa using hcause)]
    split
    next =>
      show ErrorCode.dial ≠ .unspecific
      decide
    next hspecific => exact hspecific

/-! ## Stacks -/

variable {stack : List Node} {failure : Failure}

lemma classify_wrap_of_passes (h : ∀ node ∈ stack, node.Passes) (failure : Failure) :
    (wrap stack failure).classify = failure.classify := by
  induction stack with
  | nil => rw [wrap_nil]
  | cons node rest ih =>
    obtain ⟨hnode, hrest⟩ := List.forall_mem_cons.1 h
    rw [wrap_cons, classify_passing hnode, ih hrest]

lemma classify_wrap_of_specific (h : ∀ node ∈ stack, node.Passes ∨ node.Dials)
    (hspecific : failure.classify.code ≠ .unspecific) :
    (wrap stack failure).classify = failure.classify := by
  induction stack with
  | nil => rw [wrap_nil]
  | cons node rest ih =>
    obtain ⟨hnode, hrest⟩ := List.forall_mem_cons.1 h
    -- below this link the classification is still that of the failure, so it is still specific
    have hinner := ih hrest
    rw [wrap_cons]
    rcases hnode with hpasses | hdials
    · rw [classify_passing hpasses, hinner]
    · rw [hdials.classify_of_specific (by rwa [hinner]), hinner]

/-- Whatever is known of the failure, a stack in which a link dials has a code of its own. -/
lemma specific_wrap (h : ∀ node ∈ stack, node.Passes ∨ node.Dials)
    (hdials : ∃ node ∈ stack, node.Dials) (failure : Failure) :
    (wrap stack failure).classify.code ≠ .unspecific := by
  induction stack with
  | nil => simp at hdials
  | cons node rest ih =>
    obtain ⟨hnode, hrest⟩ := List.forall_mem_cons.1 h
    rw [wrap_cons]
    rcases hnode with hpasses | hnode
    · rw [classify_passing hpasses]
      refine ih hrest ?_
      obtain ⟨other, hother, hdials⟩ := hdials
      rcases List.mem_cons.1 hother with rfl | hmem
      · cases hpasses <;> cases hdials
      · exact ⟨other, hmem, hdials⟩
    · exact hnode.specific _

/-- **The most specific classification survives.**  A failure under links that only wrap, in any
number and order, is classified as the failure itself, code and message, exactly if its code is not
1000 or none of the links dials. -/
theorem classify_wrap_eq_iff (h : ∀ node ∈ stack, node.Passes ∨ node.Dials) (failure : Failure) :
    (wrap stack failure).classify = failure.classify
      ↔ failure.classify.code ≠ ⟨1000⟩ ∨ ∀ node ∈ stack, ¬node.Dials := by
  constructor
  · intro heq
    by_contra hnot
    push Not at hnot
    obtain ⟨hcode, hdials⟩ := hnot
    refine specific_wrap h hdials failure ?_
    rw [heq, hcode]
    rfl
  · rintro (hspecific | hfree)
    · exact classify_wrap_of_specific h hspecific
    · refine classify_wrap_of_passes ?_ failure
      intro node hnode
      exact (h node hnode).resolve_right (hfree node hnode)

/-- A request whose connection could not be opened, as errno 104 is said to be the reason. -/
def requestStack : List Node :=
  [.url (utf8 "Get") (utf8 "http://a/"), .network (utf8 "dial") (utf8 "tcp6") [],
    .systemError 104, .generic (utf8 "resolver")]

theorem classify_wrap_eq_iff_lookup :
    (∀ node ∈ requestStack, node.Passes ∨ node.Dials)
      ∧ (wrap requestStack (.leaf (.lookup (utf8 "a") (utf8 "no such host")))).classify
        = ⟨⟨1101⟩, utf8 "lookup: no such host"⟩
      ∧ (wrap requestStack (.leaf (.generic (utf8 "oops")))).classify
        ≠ classify (.leaf (.generic (utf8 "oops"))) := by
  have hwrappers : ∀ node ∈ requestStack, node.Passes ∨ node.Dials := by
    simp only [requestStack, List.forall_mem_cons, List.not_mem_nil, false_implies, implies_true,
      and_true]
    exact ⟨.inl (.url _ _), .inr (.dial (.inr rfl) _), .inl (.systemError _), .inl (.generic _)⟩
  refine ⟨hwrappers, ?_, ?_⟩
  · rw [(classify_wrap_eq_iff hwrappers _).2 (.inl (by decide))]
    rfl
  · intro heq
    rcases (classify_wrap_eq_iff hwrappers _).1 heq with hcode | hfree
    · exact hcode rfl
    · exact hfree _ (List.mem_cons_of_mem _ List.mem_cons_self) (.dial (.inr rfl) _)

end MeteredHttp.Failure
