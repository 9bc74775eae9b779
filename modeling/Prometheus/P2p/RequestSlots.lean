import Prometheus.P2p.Accounting

/-!
# Slots of requests over whole runs

Runs of a node under what libp2p documents: an identifier is given once, and `ResponseSent` follows a
response. The limits are kept, a protocol is not touched by the events of another, and a request whose
channel fails while its ingress task runs keeps its slot until that task completes.
-/

namespace Prometheus.P2p.GuardianP2p

open Prometheus.Codec Prometheus.Machine

variable {p q : Protocol} {t : List Action} {node node' : GuardianP2p} {r id : InboundRequestId}
  {max : Nat}

/-! ## Limits -/

/-- The limits are the configured ones, and the node is within them. -/
structure WithinLimits (max : Nat) (node : GuardianP2p) : Prop where
  maxInbound : node.maxInboundRequests = max
  maxOutbound : node.maxOutboundRequests = max
  inbound : node.inboundRequestCount ≤ max
  outbound : node.outboundRequestCount ≤ max

/-- No slot is taken. -/
structure Shrinks (node' node : GuardianP2p) : Prop where
  work : ∀ p, (node'.exchange p).work ⊆ (node.exchange p).work
  outbound : ∀ p, (node'.exchange p).outboundRequests ⊆ (node.exchange p).outboundRequests
  maxInbound : node'.maxInboundRequests = node.maxInboundRequests
  maxOutbound : node'.maxOutboundRequests = node.maxOutboundRequests

theorem Shrinks.refl (node : GuardianP2p) : node.Shrinks node :=
  ⟨fun _ => Finset.Subset.refl _, fun _ => Finset.Subset.refl _, rfl, rfl⟩

theorem Shrinks.trans {node'' : GuardianP2p} (first : node'.Shrinks node)
    (second : node''.Shrinks node') : node''.Shrinks node :=
  ⟨fun p => (second.work p).trans (first.work p), fun p => (second.outbound p).trans (first.outbound p),
    second.maxInbound.trans first.maxInbound, second.maxOutbound.trans first.maxOutbound⟩

theorem Shrinks.setExchange {x : Exchange} (work : x.work ⊆ (node.exchange p).work)
    (outbound : x.outboundRequests ⊆ (node.exchange p).outboundRequests) :
    (node.setExchange p x).Shrinks node where
  work q := by
    rw [exchange_setExchange]
    split
    · rename_i same
      exact same ▸ work
    · exact Finset.Subset.refl _
  outbound q := by
    rw [exchange_setExchange]
    split
    · rename_i same
      exact same ▸ outbound
    · exact Finset.Subset.refl _
  maxInbound := rfl
  maxOutbound := rfl

theorem WithinLimits.shrinks (within : node.WithinLimits max) (shrinks : node'.Shrinks node) :
    node'.WithinLimits max where
  maxInbound := shrinks.maxInbound.trans within.maxInbound
  maxOutbound := shrinks.maxOutbound.trans within.maxOutbound
  inbound := by
    have work p := Finset.card_le_card (shrinks.work p)
    exact (Nat.add_le_add (Nat.add_le_add (work _) (work _)) (work _)).trans within.inbound
  outbound := by
    have outbound p := Finset.card_le_card (shrinks.outbound p)
    exact (Nat.add_le_add (Nat.add_le_add (outbound _) (outbound _)) (outbound _)).trans
      within.outbound

theorem inboundRequestCount_setExchange (node : GuardianP2p) (p : Protocol) (x : Exchange) :
    (node.setExchange p x).inboundRequestCount + (node.exchange p).work.card =
      node.inboundRequestCount + x.work.card := by
  cases p <;> simp [inboundRequestCount, exchange_setExchange] <;> omega

theorem outboundRequestCount_setExchange (node : GuardianP2p) (p : Protocol) (x : Exchange) :
    (node.setExchange p x).outboundRequestCount + (node.exchange p).outboundRequests.card =
      node.outboundRequestCount + x.outboundRequests.card := by
  cases p <;> simp [outboundRequestCount, exchange_setExchange] <;> omega

theorem shrinks_respondTo {status : p.Status} {isOpen : Bool} :
    (node.respondTo p r status isOpen).2.2.Shrinks node := by
  unfold respondTo
  split
  · exact .setExchange (Finset.erase_subset _ _) (Finset.Subset.refl _)
  · exact .refl node

theorem shrinks_complete {peer : PeerId} {status : p.Status} {isOpen : Bool} :
    (node.complete p peer r status isOpen).2.2.Shrinks node := by
  have finished : (node.setExchange p ((node.exchange p).finishIngress r peer)).Shrinks node :=
    .setExchange (Finset.Subset.refl _) (Finset.Subset.refl _)
  unfold complete
  dsimp only
  split
  · exact finished.trans (.setExchange (Finset.erase_subset _ _) (Finset.Subset.refl _))
  · exact finished.trans shrinks_respondTo

theorem shrinks_dispatch {driver : Driver} {isOpen : Bool}
    {handled : Option TransportEvent × List Action × GuardianP2p} :
    (dispatch driver isOpen handled).2.2.Shrinks handled.2.2 := by
  unfold dispatch
  split
  · split
    · exact .refl _
    · split
      · exact .setExchange (Finset.Subset.refl _) (Finset.Subset.refl _)
      · exact shrinks_respondTo
  · exact .refl _

theorem WithinLimits.handleEvent {event : RequestResponseEvent p} (within : node.WithinLimits max) :
    (node.handleEvent p event).2.2.WithinLimits max := by
  cases event with
  | request peer requestId payload =>
    rw [handleEvent_request]
    split
    · exact within
    · rename_i room
      have count := inboundRequestCount_setExchange node p
        ((node.exchange p).take requestId)
      have one := Finset.card_insert_le requestId (node.exchange p).work
      have same := outboundRequestCount_setExchange node p
        ((node.exchange p).take requestId)
      have limit := within.maxInbound
      have outbound := within.outbound
      simp only [Exchange.take] at count same
      refine ⟨within.maxInbound, within.maxOutbound, ?_, ?_⟩
      · simp only [Exchange.take]
        omega
      · simp only [Exchange.take]
        omega
  | response peer requestId status =>
    exact within.shrinks (.setExchange (Finset.Subset.refl _) (Finset.erase_subset _ _))
  | outboundFailure peer requestId error =>
    exact within.shrinks (.setExchange (Finset.Subset.refl _) (Finset.erase_subset _ _))
  | inboundFailure requestId =>
    refine within.shrinks (.setExchange ?_ ?_)
    · unfold Exchange.failInbound
      split
      · exact Finset.Subset.refl _
      · exact Finset.erase_subset _ _
    · unfold Exchange.failInbound
      split <;> exact Finset.Subset.refl _
  | responseSent requestId =>
    exact within.shrinks (.setExchange (Finset.erase_subset _ _) (Finset.Subset.refl _))

theorem WithinLimits.handleSwarmEvent {event : SwarmEvent} (within : node.WithinLimits max) :
    (node.handleSwarmEvent event).2.2.WithinLimits max := by
  by_cases isExchange : ∃ p e, event = .exchange p e
  · obtain ⟨p, e, rfl⟩ := isExchange
    rw [handleSwarmEvent_exchange]
    exact within.handleEvent
  · obtain ⟨-, same, maxInbound, maxOutbound, -⟩ :=
      handleSwarmEvent_other node fun p e isEvent => isExchange ⟨p, e, isEvent⟩
    exact within.shrinks
      ⟨fun p => by rw [same], fun p => by rw [same], maxInbound, maxOutbound⟩

/-- A call keeps a node within its limits. -/
theorem WithinLimits.step {call : Call} (within : node.WithinLimits max) :
    (step call node).2.WithinLimits max := by
  cases call with
  | wake wake =>
    cases wake with
    | swarm driver event isOpen => exact within.handleSwarmEvent.shrinks shrinks_dispatch
    | ingress p peer requestId forwarded isOpen =>
      refine within.shrinks ?_
      simp only [GuardianP2p.step, GuardianP2p.wake]
      split
      · exact shrinks_complete
      · exact .refl node
  | respond p requestId status isOpen => exact within.shrinks shrinks_respondTo
  | send p requestId =>
    simp only [GuardianP2p.step, GuardianP2p.send]
    split
    · exact within
    · rename_i room
      have count := outboundRequestCount_setExchange node p
        ((node.exchange p).startOutbound requestId)
      have one := Finset.card_insert_le requestId (node.exchange p).outboundRequests
      have same := inboundRequestCount_setExchange node p
        ((node.exchange p).startOutbound requestId)
      have limit := within.maxOutbound
      have inbound := within.inbound
      simp only [Exchange.startOutbound] at count same
      refine ⟨within.maxInbound, within.maxOutbound, ?_, ?_⟩
      · simp only [Exchange.startOutbound]
        omega
      · simp only [Exchange.startOutbound]
        omega

/-! ## Protocols are independent -/

/-- The protocol whose requests a call is about. -/
def Call.protocol : Call → Option Protocol
  | .wake (.swarm _ (.exchange p _) _) => some p
  | .wake (.swarm ..) => none
  | .wake (.ingress p ..) => some p
  | .respond p .. => some p
  | .send p _ => some p

theorem respondTo_frame {status : p.Status} {isOpen : Bool} (other : q ≠ p) :
    (node.respondTo p r status isOpen).2.2.exchange q = node.exchange q := by
  unfold respondTo
  split
  · exact exchange_setExchange_of_ne _ _ other
  · rfl

theorem complete_frame {peer : PeerId} {status : p.Status} {isOpen : Bool} (other : q ≠ p) :
    (node.complete p peer r status isOpen).2.2.exchange q = node.exchange q := by
  unfold complete
  dsimp only
  split
  · rw [exchange_setExchange_of_ne _ _ other, exchange_setExchange_of_ne _ _ other]
  · rw [respondTo_frame other, exchange_setExchange_of_ne _ _ other]

theorem handleEvent_frame {event : RequestResponseEvent p} (other : q ≠ p) :
    (node.handleEvent p event).2.2.exchange q = node.exchange q := by
  cases event with
  | request peer requestId payload =>
    rw [handleEvent_request]
    split
    · rfl
    · exact exchange_setExchange_of_ne _ _ other
  | _ => exact exchange_setExchange_of_ne _ _ other

theorem inbound_of_handleEvent {event : RequestResponseEvent p} {peer : PeerId} {payload : Bytes}
    (h : (node.handleEvent p event).1 = some (.inbound q peer id payload)) :
    q = p ∧ ∃ peer' payload', event = .request peer' id payload' := by
  cases event with
  | request peer' requestId payload' =>
    rw [handleEvent_request] at h
    split at h
    · cases h
    · cases h
      exact ⟨rfl, peer, payload, rfl⟩
  | _ => cases h

theorem dispatch_frame {driver : Driver} {isOpen : Bool}
    {handled : Option TransportEvent × List Action × GuardianP2p}
    (other : ∀ peer id payload, handled.1 ≠ some (.inbound q peer id payload)) :
    (dispatch driver isOpen handled).2.2.exchange q = handled.2.2.exchange q := by
  obtain ⟨event, acts, node⟩ := handled
  unfold dispatch
  split
  · rename_i p peer id payload acts' node' isHandled
    obtain ⟨rfl, rfl, rfl⟩ : event = _ ∧ acts = acts' ∧ node = node' := by simpa using isHandled
    have differs : q ≠ p := fun same => other peer id payload (same ▸ rfl)
    split
    · rfl
    · split
      · exact exchange_setExchange_of_ne _ _ differs
      · exact respondTo_frame differs
  · rename_i isHandled
    obtain ⟨-, -, rfl⟩ : event = _ ∧ acts = _ ∧ node = _ := by simpa using isHandled
    rfl

/-- A call on the requests of one protocol leaves those of the others as they are. -/
theorem step_frame {call : Call} (other : call.protocol ≠ some q) :
    (step call node).2.exchange q = node.exchange q := by
  cases call with
  | wake wake =>
    cases wake with
    | swarm driver event isOpen =>
      change (dispatch driver isOpen (node.handleSwarmEvent event)).2.2.exchange q = _
      by_cases isExchange : ∃ p e, event = .exchange p e
      · obtain ⟨p, e, rfl⟩ := isExchange
        have differs : q ≠ p := fun same => other (congrArg some same.symm)
        rw [handleSwarmEvent_exchange, dispatch_frame, handleEvent_frame differs]
        exact fun peer id payload isInbound => differs (inbound_of_handleEvent isInbound).1
      · obtain ⟨-, same, -, -, notInbound⟩ :=
          handleSwarmEvent_other node fun p e isEvent => isExchange ⟨p, e, isEvent⟩
        rw [dispatch_frame fun peer id payload => notInbound q peer id payload, same]
    | ingress p peer requestId forwarded isOpen =>
      have differs : q ≠ p := fun same => other (congrArg some same.symm)
      simp only [GuardianP2p.step, GuardianP2p.wake]
      split
      · exact complete_frame differs
      · rfl
  | respond p requestId status isOpen =>
    exact respondTo_frame fun same => other (congrArg some same.symm)
  | send p requestId =>
    have differs : q ≠ p := fun same => other (congrArg some same.symm)
    simp only [GuardianP2p.step, GuardianP2p.send]
    split
    · rfl
    · exact exchange_setExchange_of_ne _ _ differs

/-! ## A slot whose channel has failed -/

/-- The channel is gone, and the ingress task keeps the slot. -/
structure Kept (p : Protocol) (id : InboundRequestId) (node : GuardianP2p) : Prop where
  slot : id ∈ (node.exchange p).work
  running : id ∈ (node.exchange p).ingressRequestIds
  lost : id ∉ (node.exchange p).responses

/-- A task completes: the loop of a driver takes its status. -/
def Call.completes (p : Protocol) (id : InboundRequestId) : Call → Prop
  | .wake (.ingress q _ requestId _ _) => q = p ∧ requestId = id
  | _ => False

/-- `InboundFailure` of a request. -/
def Call.fails (p : Protocol) (id : InboundRequestId) : Call → Prop
  | .wake (.swarm _ (.exchange q (.inboundFailure requestId)) _) => q = p ∧ requestId = id
  | _ => False

/-- `ResponseSent` of a request. -/
def Call.reportsSent (p : Protocol) (id : InboundRequestId) : Call → Prop
  | .wake (.swarm _ (.exchange q (.responseSent requestId)) _) => q = p ∧ requestId = id
  | _ => False

theorem Kept.setExchange {x : Exchange} (kept : node.Kept p id)
    (changed : q = p → id ∈ x.work ∧ id ∈ x.ingressRequestIds ∧ id ∉ x.responses) :
    (node.setExchange q x).Kept p id := by
  by_cases same : q = p
  · subst same
    obtain ⟨slot, running, lost⟩ := changed rfl
    exact ⟨by rwa [exchange_setExchange_self], by rwa [exchange_setExchange_self],
      by rwa [exchange_setExchange_self]⟩
  · have frame := node.exchange_setExchange_of_ne x (Ne.symm same)
    exact ⟨by rw [frame]; exact kept.slot, by rw [frame]; exact kept.running,
      by rw [frame]; exact kept.lost⟩

/-- A slot and a channel that go away are of another request. -/
theorem Kept.erase {x : Exchange} (kept : node.Kept p id) (differs : q = p → r ≠ id)
    (work : x.work = (node.exchange q).work.erase r)
    (running : x.ingressRequestIds = (node.exchange q).ingressRequestIds)
    (responses : x.responses = (node.exchange q).responses.erase r) :
    (node.setExchange q x).Kept p id := by
  refine kept.setExchange fun same => ?_
  subst same
  rw [work, running, responses]
  exact ⟨Finset.mem_erase.mpr ⟨Ne.symm (differs rfl), kept.slot⟩, kept.running,
    fun isOpen => kept.lost (Finset.mem_of_mem_erase isOpen)⟩

theorem Kept.respondTo {status : q.Status} {isOpen : Bool} (kept : node.Kept p id) :
    (node.respondTo q r status isOpen).2.2.Kept p id := by
  unfold GuardianP2p.respondTo
  split
  · rename_i pending
    exact kept.erase (fun same isSame => kept.lost (isSame ▸ same ▸ pending)) rfl rfl rfl
  · exact kept

theorem Kept.complete {peer : PeerId} {status : q.Status} {isOpen : Bool} (kept : node.Kept p id)
    (other : ¬ (q = p ∧ r = id)) :
    (node.complete q peer r status isOpen).2.2.Kept p id := by
  have finished : (node.setExchange q ((node.exchange q).finishIngress r peer)).Kept p id := by
    refine kept.setExchange fun same => ?_
    subst same
    exact ⟨kept.slot, Finset.mem_erase.mpr ⟨fun isSame => other ⟨rfl, isSame.symm⟩, kept.running⟩,
      kept.lost⟩
  unfold GuardianP2p.complete
  dsimp only
  split
  · rename_i lost
    refine finished.setExchange fun same => ?_
    subst same
    exact ⟨Finset.mem_erase.mpr ⟨fun isSame => other ⟨rfl, isSame.symm⟩, finished.slot⟩,
      finished.running, finished.lost⟩
  · exact finished.respondTo

theorem Kept.handleEvent {event : RequestResponseEvent q} (kept : node.Kept p id)
    (sound : node.Sound t) (fresh : Fresh (t ++ (node.handleEvent q event).2.1))
    (notSent : ¬ (q = p ∧ event = .responseSent id)) :
    (node.handleEvent q event).2.2.Kept p id := by
  cases event with
  | request peer requestId payload =>
    rw [handleEvent_request] at fresh ⊢
    split
    · exact kept
    · rename_i room
      rw [if_neg room] at fresh
      refine kept.setExchange fun same => ?_
      subst same
      have differs : id ≠ requestId := by
        rintro rfl
        have := (sound q).forwarded id kept.running
        rw [fresh.unasked] at this
        exact Nat.lt_irrefl 0 this
      exact ⟨Finset.mem_insert_of_mem kept.slot, kept.running, fun isOpen =>
        (Finset.mem_insert.mp isOpen).elim differs kept.lost⟩
  | response peer requestId status =>
    exact kept.setExchange fun same => by subst same; exact ⟨kept.slot, kept.running, kept.lost⟩
  | outboundFailure peer requestId error =>
    exact kept.setExchange fun same => by subst same; exact ⟨kept.slot, kept.running, kept.lost⟩
  | inboundFailure requestId =>
    refine kept.setExchange fun same => ?_
    subst same
    unfold Exchange.failInbound
    split
    · exact ⟨kept.slot, kept.running, fun isOpen => kept.lost (Finset.mem_of_mem_erase isOpen)⟩
    · rename_i idle
      exact ⟨Finset.mem_erase.mpr ⟨fun isSame => idle (isSame ▸ kept.running), kept.slot⟩,
        kept.running, fun isOpen => kept.lost (Finset.mem_of_mem_erase isOpen)⟩
  | responseSent requestId =>
    exact kept.erase (fun same isSame => notSent ⟨same, isSame ▸ rfl⟩) rfl rfl rfl

theorem Kept.dispatch {driver : Driver} {isOpen : Bool}
    {handled : Option TransportEvent × List Action × GuardianP2p} (kept : handled.2.2.Kept p id) :
    (dispatch driver isOpen handled).2.2.Kept p id := by
  obtain ⟨event, acts, node⟩ := handled
  unfold GuardianP2p.dispatch
  split
  · rename_i q peer requestId payload acts' node' isHandled
    obtain ⟨rfl, rfl, rfl⟩ : event = _ ∧ acts = acts' ∧ node = node' := by simpa using isHandled
    split
    · exact kept
    · split
      · refine kept.setExchange fun same => ?_
        subst same
        exact ⟨kept.slot, Finset.mem_insert_of_mem kept.running, kept.lost⟩
      · exact kept.respondTo
  · rename_i isHandled
    obtain ⟨-, -, rfl⟩ : event = _ ∧ acts = _ ∧ node = _ := by simpa using isHandled
    exact kept

/-- Until its task completes, a request without a channel keeps its slot. -/
theorem Kept.step {call : Call} (kept : node.Kept p id) (sound : node.Sound t)
    (fresh : Fresh (t ++ (step call node).1.2)) (incomplete : ¬ call.completes p id)
    (notSent : ¬ call.reportsSent p id) : (step call node).2.Kept p id := by
  cases call with
  | wake wake =>
    cases wake with
    | swarm driver event isOpen =>
      refine Kept.dispatch ?_
      obtain ⟨rest, same⟩ := dispatch_actions driver isOpen (node.handleSwarmEvent event)
      change Fresh (t ++ (GuardianP2p.dispatch driver isOpen (node.handleSwarmEvent event)).2.1)
        at fresh
      rw [← same, ← List.append_assoc] at fresh
      have freshHandled := fresh.of_append
      by_cases isExchange : ∃ q e, event = .exchange q e
      · obtain ⟨q, e, rfl⟩ := isExchange
        rw [handleSwarmEvent_exchange] at freshHandled ⊢
        refine kept.handleEvent sound freshHandled ?_
        rintro ⟨rfl, rfl⟩
        exact notSent ⟨rfl, rfl⟩
      · obtain ⟨-, same, -, -, -⟩ :=
          handleSwarmEvent_other node fun p e isEvent => isExchange ⟨p, e, isEvent⟩
        exact ⟨by rw [same]; exact kept.slot, by rw [same]; exact kept.running,
          by rw [same]; exact kept.lost⟩
    | ingress q peer requestId forwarded isOpen =>
      simp only [GuardianP2p.step, GuardianP2p.wake]
      split
      · exact kept.complete incomplete
      · exact kept
  | respond q requestId status isOpen => exact kept.respondTo
  | send q requestId =>
    simp only [GuardianP2p.step, GuardianP2p.send]
    split
    · exact kept
    · exact kept.setExchange fun same => by subst same; exact ⟨kept.slot, kept.running, kept.lost⟩

/-! ## Runs -/

abbrev History : Type := List (Event GuardianP2p Call (Except TransportError Returned × List Action))

/-- What was done to requests. -/
def trace (h : History) : List Action := h.flatMap fun e => e.output.2

/-- What libp2p documents: an identifier is given once, and a response is reported as sent after it
was handed over. -/
structure Documented (h : History) : Prop where
  fresh : Fresh (trace h)
  sent : ∀ h₁ e h₂, h = h₁ ++ e :: h₂ → ∀ p id, e.input.reportsSent p id →
    0 < tally .answered p id (trace h₁)

def Started (max : Nat) (node : GuardianP2p) : Prop := ∃ listeners, node = new max listeners

variable {h h' : History}

theorem trace_append : trace (h ++ h') = trace h ++ trace h' := List.flatMap_append

theorem Documented.of_append (documented : Documented (h ++ h')) : Documented h where
  fresh := by
    have fresh := documented.fresh
    rw [trace_append] at fresh
    exact fresh.of_append
  sent h₁ e h₂ same := documented.sent h₁ e (h₂ ++ h') (by rw [same, List.append_assoc]; rfl)

theorem sound_of_run (run : Run step (Started max) h node) (fresh : Fresh (trace h)) :
    node.Sound (trace h) := by
  induction run with
  | start s started =>
    obtain ⟨listeners, rfl⟩ := started
    exact fun p => Exchange.sound_empty
  | @call h s call run ih =>
    rw [trace_append] at fresh ⊢
    have actions : trace [callEvent step s call] = (step call s).1.2 := by
      simp [trace, callEvent]
    rw [actions] at fresh ⊢
    exact (ih fresh.of_append).step fresh

theorem withinLimits_of_run (run : Run step (Started max) h node) : node.WithinLimits max := by
  refine run.invariant (WithinLimits max) (fun s started => ?_) fun s call within => within.step
  obtain ⟨listeners, rfl⟩ := started
  exact ⟨rfl, rfl, Nat.zero_le _, Nat.zero_le _⟩

/-- From the failure of its channel to the end of its task, a request keeps its slot. -/
theorem kept_of_run (run : Run step (Started max) h node) (documented : Documented h)
    {h₁ h₂ : History}
    {e : Event GuardianP2p Call (Except TransportError Returned × List Action)}
    (same : h = h₁ ++ e :: h₂) (kept : e.post.Kept p id)
    (incomplete : ∀ e' ∈ h₂, ¬ e'.input.completes p id) : node.Kept p id := by
  induction run generalizing h₂ with
  | start s started => simp at same
  | @call h s call run ih =>
    rcases List.eq_nil_or_concat h₂ with rfl | ⟨h₂', last, rfl⟩
    · obtain ⟨-, isLast⟩ := List.append_inj' same rfl
      rw [← List.head_eq_of_cons_eq isLast] at kept
      exact kept
    · rw [List.concat_eq_append] at same incomplete
      have same' : h = h₁ ++ e :: h₂' ∧ [callEvent step s call] = [last] := by
        rw [← List.cons_append, ← List.append_assoc] at same
        exact List.append_inj' same rfl
      obtain ⟨isInit, isLast⟩ := same'
      obtain rfl := List.head_eq_of_cons_eq isLast
      have before := ih documented.of_append isInit fun e' isEvent =>
        incomplete e' (List.mem_append_left _ isEvent)
      have sound := sound_of_run run documented.of_append.fresh
      have fresh := documented.fresh
      rw [trace_append] at fresh
      refine before.step sound (by simpa [trace, callEvent] using fresh)
        (incomplete _ (List.mem_append_right _ (List.mem_singleton_self _))) fun isSent => ?_
      have answered := documented.sent h _ [] rfl p id isSent
      rw [(sound p).unanswered id before.slot] at answered
      exact Nat.lt_irrefl 0 answered

/-! ## The account of a run -/

/-- What holds at each moment of a run, and of each of its events. -/
structure Accounted (max : Nat) (h : History) (node : GuardianP2p) : Prop where
  inbound : node.inboundRequestCount ≤ max
  outbound : node.outboundRequestCount ≤ max
  answeredOnce : ∀ p id, tally .answered p id (trace h) ≤ 1
  admittedOnce : ∀ p id, tally .admitted p id (trace h) ≤ 1
  /-- A slot is held until it is given back, once. -/
  slots : ∀ p id, tally .admitted p id (trace h) =
    (if id ∈ (node.exchange p).work then 1 else 0) + tally .released p id (trace h)
  /-- A slot that is held will be given back: by who answers its request, or by its task. -/
  owned : ∀ p, ∀ id ∈ (node.exchange p).work,
    id ∈ (node.exchange p).responses ∨ ∃ peer, (peer, id) ∈ (node.exchange p).ingressTasks
  /-- The events of a protocol are about its own requests. -/
  independent : ∀ e ∈ h, ∀ p, e.input.protocol ≠ some p → e.post.exchange p = e.pre.exchange p
  /-- Over the limit, a request is answered and takes no slot. -/
  full : ∀ e ∈ h, ∀ driver p peer id payload isOpen,
    e.input = .wake (.swarm driver (.exchange p (.request peer id payload)) isOpen) →
    e.pre.maxInboundRequests ≤ e.pre.inboundRequestCount →
    e.output = (.ok (.event none), [.requested p id, .answered p id p.busy]) ∧ e.post = e.pre
  /-- A request whose channel fails while its task runs keeps its slot until the task completes. -/
  kept : ∀ h₁ e h₂, h = h₁ ++ e :: h₂ → ∀ p id, e.input.fails p id →
    id ∈ (e.pre.exchange p).work → id ∈ (e.pre.exchange p).ingressRequestIds →
    (∀ e' ∈ h₂, ¬ e'.input.completes p id) → node.Kept p id
  /-- Its task then gives the slot back, and nothing is answered. -/
  completed : ∀ e ∈ h, ∀ p peer id forwarded isOpen,
    e.input = .wake (.ingress p peer id forwarded isOpen) →
    (peer, id) ∈ (e.pre.exchange p).ingressTasks → e.pre.Kept p id →
    e.output = (.ok (.event none), [.released p id]) ∧ id ∉ (e.post.exchange p).work

theorem step_full {driver : Driver} {peer : PeerId} {payload : Bytes} {isOpen : Bool}
    (full : node.maxInboundRequests ≤ node.inboundRequestCount) :
    step (.wake (.swarm driver (.exchange p (.request peer id payload)) isOpen)) node =
      ((.ok (.event none), [.requested p id, .answered p id p.busy]), node) := by
  simp only [step, wake, handleSwarmEvent_exchange, handleEvent_request, if_pos full]
  rfl

theorem kept_of_fails {call : Call} (fails : call.fails p id)
    (slot : id ∈ (node.exchange p).work) (running : id ∈ (node.exchange p).ingressRequestIds) :
    (step call node).2.Kept p id := by
  unfold Call.fails at fails
  split at fails
  · obtain ⟨rfl, rfl⟩ := fails
    simp only [step, wake, handleSwarmEvent_exchange, handleEvent]
    refine Kept.dispatch ?_
    simp only [Exchange.failInbound, if_pos running]
    exact ⟨by simpa using slot, by simpa using running, by simp⟩
  · cases fails

theorem step_completes {peer : PeerId} {forwarded : Except IngressError p.Status} {isOpen : Bool}
    (isTask : (peer, id) ∈ (node.exchange p).ingressTasks) (kept : node.Kept p id) :
    (step (.wake (.ingress p peer id forwarded isOpen)) node).1 =
        (.ok (.event none), [.released p id]) ∧
      id ∉ ((step (.wake (.ingress p peer id forwarded isOpen)) node).2.exchange p).work := by
  have lost : id ∉ ((node.exchange p).finishIngress id peer).responses := kept.lost
  have slot : id ∈ ((node.exchange p).finishIngress id peer).work := kept.slot
  simp only [step, wake, if_pos isTask, complete, exchange_setExchange_self, if_pos lost]
  refine ⟨?_, by simp [Exchange.dropWork]⟩
  simp only [Exchange.dropWork, Exchange.releaseActions, if_pos slot]
  rfl

/-- Every run of a node accounts for its requests. -/
theorem requests_accounted (run : Run step (Started max) h node) (documented : Documented h) :
    Accounted max h node := by
  have sound := sound_of_run run documented.fresh
  have within := withinLimits_of_run run
  refine
    { inbound := within.inbound
      outbound := within.outbound
      answeredOnce := fun p id => ?_
      admittedOnce := fun p id => ((sound p).asked id).trans (documented.fresh p id)
      slots := fun p id => (sound p).held id
      owned := fun p id isHeld => ?_
      independent := fun e isEvent p other => ?_
      full := ?_
      kept := ?_
      completed := ?_ }
  · have answerable := (sound p).answerable id
    have fresh := documented.fresh p id
    omega
  · refine (Finset.mem_union.mp ((sound p).owned isHeld)).imp_right fun isRunning => ?_
    obtain ⟨⟨peer, _⟩, isTask, rfl⟩ := List.mem_map.mp (((sound p).running id).mp isRunning)
    exact ⟨peer, isTask⟩
  · rw [run.steps e isEvent]
    exact step_frame other
  · rintro e isEvent driver p peer id payload isOpen isInput full
    rw [run.steps e isEvent, isInput]
    exact ⟨congrArg Prod.fst (step_full full), congrArg Prod.snd (step_full full)⟩
  · intro h₁ e h₂ same p id fails slot running incomplete
    have isStep := (Run.before (same ▸ run)).2
    refine kept_of_run run documented same ?_ incomplete
    rw [isStep]
    exact kept_of_fails fails slot running
  · rintro e isEvent p peer id forwarded isOpen isInput isTask kept
    rw [run.steps e isEvent, isInput]
    exact step_completes isTask kept

/-- A node with room for one request: a second one finds it full, and the first loses its channel
before its task completes. -/
def crowdedCalls : List Call :=
  [.wake (.swarm .verifiedSidecar (.exchange .ballots (.request [1] 0 [7])) true),
    .wake (.swarm .verifiedSidecar (.exchange .threatHints (.request [2] 0 [8])) true),
    .wake (.swarm .verifiedSidecar (.exchange .ballots (.inboundFailure 0)) true),
    .wake (.ingress .ballots [1] 0 (.ok AckStatus.accepted) true)]

theorem trace_crowded : trace (execute step crowdedCalls (new 1 [])).1 =
    [.requested .ballots 0, .admitted .ballots 0, .requested .threatHints 0,
      .answered .threatHints 0 ThreatHintAckStatus.busy, .released .ballots 0] := rfl

theorem documented_crowded : Documented (execute step crowdedCalls (new 1 [])).1 where
  fresh p id := by
    rw [trace_crowded]
    cases p <;> simp [Action.tag] <;> split <;> simp
  sent h₁ e h₂ same p id isSent := by
    have isEvent : e ∈ (execute step crowdedCalls (new 1 [])).1 := by simp [same]
    simp only [crowdedCalls, execute, List.mem_cons, List.not_mem_nil, or_false] at isEvent
    rcases isEvent with rfl | rfl | rfl | rfl <;> cases isSent

theorem requests_accounted_crowded : Accounted 1 (execute step crowdedCalls (new 1 [])).1
    (execute step crowdedCalls (new 1 [])).2 :=
  requests_accounted (Run.of_execute ⟨[], rfl⟩ crowdedCalls) documented_crowded

end Prometheus.P2p.GuardianP2p
