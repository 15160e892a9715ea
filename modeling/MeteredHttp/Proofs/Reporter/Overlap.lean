import MeteredHttp.Proofs.Reporter.Sending
import Mathlib.Data.List.Chain
import Mathlib.Data.List.Infix
import Mathlib.Data.Fin.VecNotation

/-!
# Sends that overlap

Sends may share a reporter and run at the same time.  Their calls then come in any order that keeps
the order of each of them.  A body that failed is reported by a call of its own, which offers its
failure to whatever is in the slot by then.

* `Interleaves` are the orders that are possible, complete or broken off.
* `released_follow_stagings` says whose round trips are released, and in which order.
* **`attributed_iff_settled_at_once`** says when each of them is released with the failure of its
  own send: exactly if no other call comes between the staging of a round trip whose body failed
  and the call that settles it.
* `crossed_misattributes` is an order of the calls of two sends in which both are released with the
  failure of the other.
-/

namespace MeteredHttp

namespace Reporter

variable {ι : Type}

/-! ## Schedules -/

/-- One call of one of several sends. -/
structure Move (ι : Type) where
  sender : ι
  phase : Phase
  /-- Whether the run is over by then. -/
  ended : Bool := false

def Move.call (sends : ι → Sending) (m : Move ι) : Call := (sends m.sender).call m.ended m.phase

/-- A schedule in which every send makes its calls in their order.  Some may not have been made
yet. -/
def Interleaves [DecidableEq ι] (sends : ι → Sending) (schedule : List (Move ι)) : Prop :=
  ∀ i, (schedule.filter (·.sender = i)).map (·.phase) <+: (sends i).phases

/-- Who stages a round trip, in the order in which it is done. -/
def stagers (schedule : List (Move ι)) : List ι :=
  schedule.filterMap fun m => if m.phase = .stage then some m.sender else none

/-- What is released while a schedule is carried out. -/
def releasedBy (r : Reporter) (outlets : Outlets) (sends : ι → Sending)
    (schedule : List (Move ι)) : List Release :=
  (r.calls outlets (schedule.map (Move.call sends))).released

/-- A move settles a body right after it was staged: if `m` stages a round trip whose body failed,
then `next` is the call of the same send that reports it. -/
def SettledBy (sends : ι → Sending) (m next : Move ι) : Prop :=
  m.phase = .stage → (sends m.sender).cut = true → next.phase = .settle ∧ next.sender = m.sender

/-- A call that leaves a round trip of the send with the failure of that send. -/
def Completing (sends : ι → Sending) (i : ι) (next : Move ι) : Prop :=
  ((sends i).trip.failure <|> (next.call sends).offered) = (sends i).failure?

/-! ## What the calls release -/

lemma stagers_cons (m : Move ι) (rest : List (Move ι)) :
    stagers (m :: rest) = (if m.phase = .stage then [m.sender] else []) ++ stagers rest := by
  by_cases h : m.phase = .stage <;> simp [stagers, h]

lemma staged?_call (sends : ι → Sending) (m : Move ι) :
    (m.call sends).staged? = if m.phase = .stage then some (sends m.sender).trip else none := by
  cases h : m.phase <;> simp [Move.call, Sending.call, h, Call.staged?]

lemma filterMap_staged? (sends : ι → Sending) (schedule : List (Move ι)) :
    (schedule.map (Move.call sends)).filterMap Call.staged?
      = (stagers schedule).map fun i => (sends i).trip := by
  induction schedule with
  | nil => rfl
  | cons m rest ih =>
    rw [List.map_cons, List.filterMap_cons, staged?_call, stagers_cons, List.map_append, ← ih]
    by_cases h : m.phase = .stage <;> simp [h]

lemma call_staged (r : Reporter) (outlets : Outlets) (sends : ι → Sending) (m : Move ι) :
    (r.call outlets (m.call sends)).reporter.staged
      = if m.phase = .stage then some (sends m.sender).trip else none := by
  cases h : m.phase <;> simp [Move.call, Sending.call, h, Reporter.call]

lemma call_ne_setJudge (sends : ι → Sending) (m : Move ι) (judge : Option Judge) :
    m.call sends ≠ .setJudge judge := by
  cases h : m.phase <;> simp [Move.call, Sending.call, h]

/-- The send whose round trip is in the slot, if there is one, is the first whose round trip is
released. -/
def Holds (sends : ι → Sending) (r : Reporter) (holder : Option ι) : Prop :=
  r.staged = holder.map fun i => (sends i).trip

/-- Each of the released round trips has the failure of the send that staged it. -/
def Attributed (sends : ι → Sending) (senders : List ι) (released : List Release) : Prop :=
  ∀ p ∈ senders.zip released, p.2.finished.source.failure = (sends p.1).failure?

/-- The slot between two moves: every release is attributed exactly if each round trip in the slot
meets a call that completes it. -/
lemma attributed_iff_completing (sends : ι → Sending) (schedule : List (Move ι)) :
    ∀ (r : Reporter) (outlets : Outlets) (holder : Option ι), Holds sends r holder →
      (Attributed sends (holder.toList ++ stagers schedule) (releasedBy r outlets sends schedule)
        ↔ (∀ i ∈ holder, ∀ m ∈ schedule.head?, Completing sends i m)
          ∧ schedule.IsChain fun m next => m.phase = .stage → Completing sends m.sender next) := by
  induction schedule with
  | nil =>
    intro r outlets holder _
    simp [Attributed, releasedBy, calls]
  | cons m rest ih =>
    intro r outlets holder hslot
    have hnext : Holds sends (r.call outlets (m.call sends)).reporter
        (if m.phase = .stage then some m.sender else none) := by
      rw [Holds, call_staged]
      split <;> rfl
    have hrest := ih _ (r.call outlets (m.call sends)).outlets _ hnext
    have hfinished := r.call_finished outlets (call_ne_setJudge sends m)
    have hsenders : stagers (m :: rest)
        = (if m.phase = .stage then some m.sender else none).toList ++ stagers rest := by
      rw [stagers_cons]
      split <;> rfl
    have hreleased : releasedBy r outlets sends (m :: rest)
        = (r.call outlets (m.call sends)).finished.toList.map (Release.mk (m.call sends).offered)
          ++ releasedBy (r.call outlets (m.call sends)).reporter
            (r.call outlets (m.call sends)).outlets sends rest := rfl
    have hchain : (m :: rest).IsChain
          (fun m next => m.phase = .stage → Completing sends m.sender next)
        ↔ (∀ i ∈ (if m.phase = .stage then some m.sender else none),
            ∀ next ∈ rest.head?, Completing sends i next)
          ∧ rest.IsChain fun m next => m.phase = .stage → Completing sends m.sender next := by
      rw [List.isChain_cons]
      by_cases h : m.phase = .stage <;> simp [h]
    rw [hchain, ← hrest, hreleased, hsenders]
    cases holder with
    | none =>
      rw [hslot, Option.map_none, Option.map_none, Option.map_eq_none_iff] at hfinished
      simp [hfinished]
    | some i =>
      rw [hslot, Option.map_some, Option.map_some, Option.map_eq_some_iff] at hfinished
      obtain ⟨f, hf, hfailure⟩ := hfinished
      simp [hf, Attributed, Completing, hfailure]

/-! ## What interleaving forbids -/

/-- A call that settles a body comes last: the body of the send did fail, its round trip has been
staged, and the send has not settled anything before. -/
lemma settle_comes_last [DecidableEq ι] {sends : ι → Sending} {schedule : List (Move ι)}
    (h : Interleaves sends schedule) {k : ℕ} (hk : k < schedule.length)
    (hsettle : schedule[k].phase = .settle) :
    (sends schedule[k].sender).cut = true
      ∧ (∃ j, ∃ hj : j < k, schedule[j].phase = .stage ∧ schedule[j].sender = schedule[k].sender)
      ∧ ∀ j, (hj : j < k) → schedule[j].phase = .settle →
          schedule[j].sender ≠ schedule[k].sender := by
  set i := schedule[k].sender with hi
  set before := ((schedule.take k).filter (·.sender = i)).map (·.phase) with hbefore
  have hsplit : (schedule.take (k + 1)).filter (·.sender = i)
      = (schedule.take k).filter (·.sender = i) ++ [schedule[k]] := by
    rw [List.take_succ_eq_append_getElem hk, List.filter_append]
    simp [hi]
  have hstart : before ++ [.settle] <+: (sends i).phases := by
    refine List.IsPrefix.trans ?_ (h i)
    have htake := ((List.take_prefix (k + 1) schedule).filter (·.sender = i)).map (·.phase)
    rw [hsplit, List.map_append, List.map_cons, hsettle] at htake
    exact htake
  have hcut : (sends i).cut = true := by
    by_contra hcut
    rw [Sending.phases, if_neg hcut] at hstart
    have hmem := hstart.subset (List.mem_append_right before List.mem_cons_self)
    simp at hmem
  have hphases : before = [.clear, .stage] := by
    rw [Sending.phases, if_pos hcut, ← List.mem_inits] at hstart
    have hlast : before ++ [.settle] = [.clear, .stage] ++ [.settle] := by
      simp only [List.inits, List.map_cons, List.map_nil, List.mem_cons, List.not_mem_nil,
        or_false] at hstart
      rcases hstart with h | h | h | h
      · simp at h
      · exact absurd (congrArg List.getLast? h) (by simp)
      · exact absurd (congrArg List.getLast? h) (by simp)
      · exact h
    exact (List.append_inj' hlast rfl).1
  have hmem : ∀ {j}, (hj : j < k) → schedule[j].sender = i → schedule[j].phase ∈ before := by
    intro j hj hsender
    refine List.mem_map_of_mem (List.mem_filter.2 ⟨?_, by simpa using hsender⟩)
    exact List.mem_take_iff_getElem.2 ⟨j, by omega, rfl⟩
  refine ⟨hcut, ?_, ?_⟩
  · have hstage : Phase.stage ∈ before := by simp [hphases]
    obtain ⟨m, hm, hphase⟩ := List.mem_map.1 hstage
    obtain ⟨hm, hsender⟩ := List.mem_filter.1 hm
    obtain ⟨j, hj, rfl⟩ := List.mem_take_iff_getElem.1 hm
    exact ⟨j, by omega, hphase, by simpa using hsender⟩
  · intro j hj hphase hsender
    have hsettle := hmem hj hsender
    rw [hphase, hphases] at hsettle
    simp at hsettle

lemma settle_of_offered (sends : ι → Sending) {m : Move ι}
    (h : (m.call sends).offered ≠ none) : m.phase = .settle := by
  cases hphase : m.phase with
  | settle => rfl
  | clear => simp [Move.call, Sending.call, hphase, Call.offered] at h
  | stage => simp [Move.call, Sending.call, hphase, Call.offered] at h

/-- A round trip whose body failed is only completed by a call that settles a body. -/
lemma settle_of_completing {sends : ι → Sending} {i : ι} {m : Move ι}
    (hcut : (sends i).cut = true) (h : Completing sends i m) : m.phase = .settle := by
  refine settle_of_offered sends ?_
  obtain ⟨failure, hfailure⟩ := Sending.exists_failure_of_cut hcut
  rw [Completing, Sending.trip_failure_of_cut hcut, hfailure] at h
  intro hnone
  rw [hnone] at h
  simp at h

/-- If every staged round trip meets a call that completes it, then none whose body failed has to
wait for its own call.  The induction is on its place in the schedule: a foreign call that settles
it belongs to a round trip that was staged earlier and should have been settled at once. -/
lemma settled_of_completing [DecidableEq ι] {sends : ι → Sending} {schedule : List (Move ι)}
    (h : Interleaves sends schedule)
    (hcompleting : ∀ k, (hk : k + 1 < schedule.length) → schedule[k].phase = .stage →
      Completing sends schedule[k].sender schedule[k + 1]) :
    ∀ k, (hk : k + 1 < schedule.length) → SettledBy sends schedule[k] schedule[k + 1] := by
  intro k
  induction k using Nat.strong_induction_on with
  | _ k ih =>
    intro hk hstage hcut
    have hsettle := settle_of_completing hcut (hcompleting k hk hstage)
    obtain ⟨hcut', ⟨j, hj, hstage', hsender⟩, hfirst⟩ := settle_comes_last h hk hsettle
    rcases Nat.lt_succ_iff_lt_or_eq.1 hj with hlt | heq
    · obtain ⟨hphase, hsender'⟩ := ih j hlt (by omega) hstage' (by rw [hsender]; exact hcut')
      exact absurd (hsender'.trans hsender) (hfirst (j + 1) (by omega) hphase)
    · subst heq
      exact ⟨hsettle, hsender.symm⟩

lemma completing_of_settled [DecidableEq ι] {sends : ι → Sending} {schedule : List (Move ι)}
    (h : Interleaves sends schedule)
    (hsettled : ∀ k, (hk : k + 1 < schedule.length) → SettledBy sends schedule[k] schedule[k + 1]) :
    ∀ k, (hk : k + 1 < schedule.length) → schedule[k].phase = .stage →
      Completing sends schedule[k].sender schedule[k + 1] := by
  intro k hk hstage
  cases hcut : (sends schedule[k].sender).cut with
  | true =>
    obtain ⟨hphase, hsender⟩ := hsettled k hk hstage hcut
    rw [Completing, Sending.trip_failure_of_cut hcut, Move.call, hphase, hsender]
    rfl
  | false =>
    rw [Completing, Sending.trip_failure_of_not_cut hcut]
    have hoffered : (schedule[k + 1].call sends).offered = none := by
      by_contra hoffered
      obtain ⟨hcut', ⟨j, hj, hstage', hsender⟩, hfirst⟩ :=
        settle_comes_last h hk (settle_of_offered sends hoffered)
      rcases Nat.lt_succ_iff_lt_or_eq.1 hj with hlt | heq
      · obtain ⟨hphase, hsender'⟩ := hsettled j (by omega) hstage' (by rw [hsender]; exact hcut')
        exact hfirst (j + 1) (by omega) hphase (hsender'.trans hsender)
      · subst heq
        rw [hsender, hcut'] at hcut
        exact absurd hcut (by decide)
    cases hfailure : (sends schedule[k].sender).failure? <;> simp [hoffered]

/-! ## Attribution -/

/-- Round trips are released in the order in which they were staged, each as its send staged it but
for its failure. -/
lemma released_follow_stagings (sends : ι → Sending) (schedule : List (Move ι)) {r : Reporter}
    (hempty : r.staged = none) (outlets : Outlets) :
    (releasedBy r outlets sends schedule).length ≤ (stagers schedule).length
      ∧ ∀ p ∈ (stagers schedule).zip (releasedBy r outlets sends schedule),
          Releases (sends p.1).trip p.2 := by
  obtain ⟨done, hdone, hreleased⟩ := r.calls_slot outlets (schedule.map (Move.call sends))
  rw [hempty, Option.toList_none, List.nil_append, filterMap_staged?] at hdone
  have hlength : (releasedBy r outlets sends schedule).length = done.length :=
    hreleased.length_eq.symm
  refine ⟨?_, ?_⟩
  · have := congrArg List.length hdone
    rw [List.length_map, List.length_append] at this
    omega
  · rintro ⟨i, release⟩ hp
    obtain ⟨k, hk, hp⟩ := List.mem_iff_getElem.1 hp
    rw [List.getElem_zip, Prod.mk.injEq] at hp
    obtain ⟨rfl, rfl⟩ := hp
    rw [List.length_zip, Nat.lt_min] at hk
    have hdonek : k < done.length := by omega
    have htrip : done[k] = (sends (stagers schedule)[k]).trip := by
      have := List.getElem_of_eq hdone (i := k) (by rw [List.length_map]; exact hk.1)
      rw [List.getElem_map, List.getElem_append_left hdonek] at this
      exact this.symm
    rw [← htrip]
    exact hreleased.get hdonek hk.2

/-- **Whose failure a released round trip has.**  Let any number of sends share a reporter, their
calls coming in any order that keeps the order of each send.  The round trips are released in the
order in which they were staged.  Each is released with the failure of its own send, or without one
if the send succeeded, if and only if every round trip whose body failed is settled by the very next
call. -/
theorem attributed_iff_settled_at_once [DecidableEq ι] {sends : ι → Sending}
    {schedule : List (Move ι)} (h : Interleaves sends schedule) {r : Reporter}
    (hempty : r.staged = none) (outlets : Outlets) :
    ((releasedBy r outlets sends schedule).length ≤ (stagers schedule).length
      ∧ ∀ p ∈ (stagers schedule).zip (releasedBy r outlets sends schedule),
          Releases (sends p.1).trip p.2)
    ∧ (Attributed sends (stagers schedule) (releasedBy r outlets sends schedule)
        ↔ schedule.IsChain (SettledBy sends)) := by
  refine ⟨released_follow_stagings sends schedule hempty outlets, ?_⟩
  have hslot := attributed_iff_completing sends schedule r outlets none hempty
  rw [Option.toList_none, List.nil_append] at hslot
  rw [hslot, List.isChain_iff_getElem, List.isChain_iff_getElem]
  constructor
  · rintro ⟨_, hcompleting⟩
    exact settled_of_completing h hcompleting
  · intro hsettled
    exact ⟨by simp, completing_of_settled h hsettled⟩

/-! ### Two sends

The body of the first breaks off, the second succeeds.
-/

/-- A send whose body broke off. -/
def broken : Sending where
  definition := { url := utf8 "http://a/" }
  method := .get
  result := { code := .receiveFailed, status := 200 }

/-- A send that succeeded. -/
def served : Sending where
  definition := { url := utf8 "http://b/" }
  method := .get
  result := { status := 200 }

/-- The second send begins when the first has ended. -/
def serial : List (Move (Fin 2)) :=
  [⟨0, .clear, false⟩, ⟨0, .stage, false⟩, ⟨0, .settle, false⟩, ⟨1, .clear, false⟩,
    ⟨1, .stage, false⟩]

/-- Both transfers end before either of them is reported. -/
def crossed : List (Move (Fin 2)) :=
  [⟨0, .clear, false⟩, ⟨1, .clear, false⟩, ⟨0, .stage, false⟩, ⟨1, .stage, false⟩,
    ⟨0, .settle, false⟩]

/-- A reporter that has nothing to report. -/
def idle : Reporter := { base := {}, enabled := .default }

theorem attributed_iff_settled_at_once_serial :
    Interleaves ![broken, served] serial ∧ idle.staged = none
      ∧ (Attributed ![broken, served] (stagers serial)
          (releasedBy idle {} ![broken, served] serial)
        ↔ serial.IsChain (SettledBy ![broken, served])) := by
  have h : Interleaves ![broken, served] serial := by
    unfold Interleaves
    decide
  exact ⟨h, rfl, (attributed_iff_settled_at_once h rfl {}).2⟩

/-- In the crossed schedule the round trip that failed is released without its failure, and the one
that succeeded is released with the failure of the other. -/
theorem crossed_misattributes :
    Interleaves ![broken, served] crossed
      ∧ broken.failure? ≠ none ∧ served.failure? = none
      ∧ stagers crossed = [0, 1]
      ∧ (releasedBy idle {} ![broken, served] crossed).map (·.finished.source.failure)
        = [none, broken.failure?]
      ∧ ¬ Attributed ![broken, served] (stagers crossed)
          (releasedBy idle {} ![broken, served] crossed) := by
  have hreleased : (releasedBy idle {} ![broken, served] crossed).map (·.finished.source.failure)
      = [none, broken.failure?] := rfl
  have hbroken : broken.failure? ≠ none := by
    obtain ⟨failure, hfailure⟩ := Sending.exists_failure_of_cut (show broken.cut = true by decide)
    simp [hfailure]
  refine ⟨by unfold Interleaves; decide, hbroken, rfl, rfl, hreleased, ?_⟩
  intro hattributed
  obtain ⟨first, rest, hlist, hfirst, -⟩ := List.map_eq_cons_iff.1 hreleased
  have hown : first.finished.source.failure = broken.failure? :=
    hattributed (0, first) (by rw [hlist]; exact List.mem_cons_self)
  exact hbroken (hown.symm.trans hfirst)

end Reporter

end MeteredHttp
