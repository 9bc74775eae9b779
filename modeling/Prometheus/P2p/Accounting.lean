import Prometheus.P2p.GuardianP2p

/-!
# The account of a node

In every run of a node, the requests that it has admitted and not answered stay within its limits,
each slot that is taken is given back exactly once, and no request is answered twice. A slot that is
still held belongs to an open response channel or to an ingress task.
-/

namespace Prometheus.P2p

open Prometheus.Codec Prometheus.Machine

/-! ## Counting actions -/

inductive Action.Kind
  | requested
  | admitted
  | released
  | answered
  deriving DecidableEq, Repr

def Action.tag : Action → Action.Kind × Protocol × InboundRequestId
  | .requested p requestId => (.requested, p, requestId)
  | .admitted p requestId => (.admitted, p, requestId)
  | .released p requestId => (.released, p, requestId)
  | .answered p requestId _ => (.answered, p, requestId)

/-- How often an action of a kind is done to a request. -/
def tally (kind : Action.Kind) (p : Protocol) (requestId : InboundRequestId) (t : List Action) : Nat :=
  (t.map Action.tag).count (kind, p, requestId)

section

variable {kind : Action.Kind} {p q : Protocol} {requestId r : InboundRequestId} {t t' : List Action}

@[simp] theorem tally_nil : tally kind p requestId [] = 0 := rfl

@[simp] theorem tally_append :
    tally kind p requestId (t ++ t') = tally kind p requestId t + tally kind p requestId t' := by
  simp [tally]

@[simp] theorem tally_cons (a : Action) :
    tally kind p requestId (a :: t) =
      tally kind p requestId t + if a.tag = (kind, p, requestId) then 1 else 0 := by
  simp [tally, List.count_cons]

/-- Actions on one protocol do not count for another. -/
theorem tally_other (other : q ≠ p) (own : ∀ a ∈ t, a.tag.2.1 = p) : tally kind q requestId t = 0 := by
  refine List.count_eq_zero.mpr fun mem => ?_
  obtain ⟨a, isAction, tagged⟩ := List.mem_map.mp mem
  have isOwn := own a isAction
  rw [tagged] at isOwn
  exact other isOwn

theorem tally_le_of_append {n : Nat} (h : tally kind p requestId (t ++ t') ≤ n) :
    tally kind p requestId t ≤ n := by
  rw [tally_append] at h
  omega

@[simp] theorem tally_releaseActions {x : Exchange} :
    tally kind p requestId (x.releaseActions q r) =
      if kind = .released ∧ q = p ∧ r = requestId ∧ r ∈ x.work then 1 else 0 := by
  unfold Exchange.releaseActions
  by_cases held : r ∈ x.work
  · simp [held, Action.tag, eq_comm]
  · simp [held]

end

/-! ## The account of one protocol -/

/-- The slots of a protocol match what was done to its requests. -/
structure Exchange.Sound (p : Protocol) (t : List Action) (x : Exchange) : Prop where
  /-- A slot that was taken is held, or was given back once. -/
  held : ∀ id, tally .admitted p id t =
    (if id ∈ x.work then 1 else 0) + tally .released p id t
  /-- A request that still has its channel has not been answered. -/
  answerable : ∀ id, tally .answered p id t + (if id ∈ x.responses then 1 else 0) ≤
    tally .requested p id t
  asked : ∀ id, tally .admitted p id t ≤ tally .requested p id t
  forwarded : ∀ id ∈ x.ingressRequestIds, 0 < tally .requested p id t
  /-- A request that has been answered does not hold its slot. -/
  unanswered : ∀ id ∈ x.work, tally .answered p id t = 0
  /-- Each identifier of an ingress has one task. -/
  distinct : (x.ingressTasks.map Prod.snd).Nodup
  running : ∀ id, id ∈ x.ingressRequestIds ↔ id ∈ x.ingressTasks.map Prod.snd
  working : x.responses ⊆ x.work
  /-- A slot that is held is held by someone. -/
  owned : x.work ⊆ x.responses ∪ x.ingressRequestIds

namespace Exchange

variable {p q : Protocol} {t : List Action} {x : Exchange} {r : InboundRequestId} {peer : PeerId}

theorem sound_empty : Exchange.empty.Sound p [] where
  held id := by simp [Exchange.empty]
  answerable id := by simp [Exchange.empty]
  asked id := by simp
  forwarded id isId := by cases isId
  unanswered id isHeld := by cases isHeld
  distinct := List.nodup_nil
  running id := by simp [Exchange.empty]
  working := by simp [Exchange.empty]
  owned := by simp [Exchange.empty]

namespace Sound

/-- What is done to the requests of another protocol does not matter. -/
theorem other {t' : List Action} (sound : x.Sound q t) (other : q ≠ p)
    (own : ∀ a ∈ t', a.tag.2.1 = p) : x.Sound q (t ++ t') where
  held id := by simpa [tally_other other own] using sound.held id
  answerable id := by simpa [tally_other other own] using sound.answerable id
  asked id := by simpa [tally_other other own] using sound.asked id
  forwarded id isId := by simpa [tally_other other own] using sound.forwarded id isId
  unanswered id isHeld := by simpa [tally_other other own] using sound.unanswered id isHeld
  distinct := sound.distinct
  running := sound.running
  working := sound.working
  owned := sound.owned

/-- A request over the limit is answered and takes no slot. -/
theorem refuse (sound : x.Sound p t) (fresh : tally .requested p r t = 0) :
    x.Sound p (t ++ [.requested p r, .answered p r p.busy]) where
  held id := by simpa [Action.tag] using sound.held id
  answerable id := by
    have := sound.answerable id
    simp only [tally_append, tally_cons, tally_nil, Action.tag, Prod.mk.injEq, true_and, reduceCtorEq,
      false_and, if_false]
    omega
  asked id := by
    have := sound.asked id
    simp only [tally_append, tally_cons, tally_nil, Action.tag, Prod.mk.injEq, true_and, reduceCtorEq,
      false_and, if_false]
    omega
  forwarded id isId := by
    have := sound.forwarded id isId
    rw [tally_append]
    omega
  unanswered id isHeld := by
    have differs : r ≠ id := by
      rintro rfl
      have held := sound.held r
      have asked := sound.asked r
      rw [if_pos isHeld] at held
      omega
    simpa [Action.tag, differs] using sound.unanswered id isHeld
  distinct := sound.distinct
  running := sound.running
  working := sound.working
  owned := sound.owned

/-- A request that has not been asked before takes a slot. -/
theorem take (sound : x.Sound p t) (fresh : tally .requested p r t = 0) :
    (x.take r).Sound p (t ++ [.requested p r, .admitted p r]) where
  held id := by
    have held := sound.held id
    have asked := sound.asked r
    have isNew : r ∉ x.work := fun isHeld => by
      have := sound.held r
      rw [if_pos isHeld] at this
      omega
    by_cases same : r = id
    · subst same
      simp [Exchange.take, Action.tag, isNew] at held ⊢
      omega
    · simpa [Exchange.take, Action.tag, same, Ne.symm same] using held
  answerable id := by
    have answerable := sound.answerable id
    by_cases same : r = id
    · subst same
      simp [Exchange.take, Action.tag]
      omega
    · simpa [Exchange.take, Action.tag, same, Ne.symm same] using answerable
  asked id := by
    have := sound.asked id
    simp only [tally_append, tally_cons, tally_nil, Action.tag, Prod.mk.injEq, true_and, reduceCtorEq,
      false_and, if_false]
    omega
  forwarded id isId := by
    have := sound.forwarded id isId
    rw [tally_append]
    omega
  unanswered id isHeld := by
    rcases Finset.mem_insert.mp isHeld with rfl | isHeld
    · have := sound.answerable id
      simp [Action.tag]
      omega
    · simpa [Action.tag] using sound.unanswered id isHeld
  distinct := sound.distinct
  running := sound.running
  working := Finset.insert_subset_insert r sound.working
  owned id isHeld := by
    have := sound.owned
    simp only [Exchange.take, Finset.mem_insert, Finset.mem_union] at isHeld ⊢
    rcases isHeld with rfl | isHeld
    · exact .inl (.inl rfl)
    · exact (Finset.mem_union.mp (sound.owned isHeld)).imp_left .inr

/-- A slot that is given back, with the channel of its request. -/
theorem release (sound : x.Sound p t) :
    ({ x with responses := x.responses.erase r, work := x.work.erase r } : Exchange).Sound p
      (t ++ x.releaseActions p r) where
  held id := by
    have held := sound.held id
    by_cases same : r = id
    · subst same
      simp at held ⊢
      omega
    · simpa [same, Ne.symm same] using held
  answerable id := by
    have answerable := sound.answerable id
    by_cases same : r = id
    · subst same
      simp
      omega
    · simpa [same, Ne.symm same] using answerable
  asked id := by simpa using sound.asked id
  forwarded id isId := by simpa using sound.forwarded id isId
  unanswered id isHeld := by simpa using sound.unanswered id (Finset.mem_of_mem_erase isHeld)
  distinct := sound.distinct
  running := sound.running
  working := Finset.erase_subset_erase r sound.working
  owned id isHeld := by
    obtain ⟨differs, isHeld⟩ := Finset.mem_erase.mp isHeld
    exact Finset.mem_union.mpr ((Finset.mem_union.mp (sound.owned isHeld)).imp_left fun isOpen =>
      Finset.mem_erase.mpr ⟨differs, isOpen⟩)

/-- A request whose channel was open is answered. -/
theorem answer {status : p.Status} (sound : x.Sound p t) (isOpen : r ∈ x.responses) :
    (x.answer p r status).2.Sound p (t ++ (x.answer p r status).1) := by
  have released := sound.release (r := r)
  exact
    { held := fun id => by simpa [Exchange.answer, Action.tag] using released.held id
      answerable := fun id => by
        have answerable := sound.answerable id
        by_cases same : r = id
        · subst same
          simp [Exchange.answer, Action.tag, isOpen] at answerable ⊢
          omega
        · simpa [Exchange.answer, Action.tag, same, Ne.symm same] using answerable
      asked := fun id => by simpa [Exchange.answer, Action.tag] using released.asked id
      forwarded := fun id isId => by
        simpa [Exchange.answer, Action.tag] using released.forwarded id isId
      unanswered := fun id isHeld => by
        have differs := (Finset.mem_erase.mp isHeld).1
        simpa [Exchange.answer, Action.tag, Ne.symm differs] using released.unanswered id isHeld
      distinct := released.distinct
      running := released.running
      working := released.working
      owned := released.owned }

/-- The channel of a request is lost while its ingress task runs, which keeps the slot. -/
theorem loseChannel (sound : x.Sound p t) (isRunning : r ∈ x.ingressRequestIds) :
    ({ x with responses := x.responses.erase r } : Exchange).Sound p t where
  held := sound.held
  answerable id := by
    have := sound.answerable id
    by_cases isOpen : id ∈ x.responses.erase r
    · rw [if_pos (Finset.mem_of_mem_erase isOpen)] at this
      rwa [if_pos isOpen]
    · rw [if_neg isOpen]
      omega
  asked := sound.asked
  forwarded := sound.forwarded
  unanswered := sound.unanswered
  distinct := sound.distinct
  running := sound.running
  working := (Finset.erase_subset _ _).trans sound.working
  owned id isHeld := by
    by_cases same : id = r
    · exact Finset.mem_union_right _ (same ▸ isRunning)
    · exact Finset.mem_union.mpr ((Finset.mem_union.mp (sound.owned isHeld)).imp_left fun isOpen =>
        Finset.mem_erase.mpr ⟨same, isOpen⟩)

theorem failInbound (sound : x.Sound p t) :
    (x.failInbound p r).2.Sound p (t ++ (x.failInbound p r).1) := by
  unfold Exchange.failInbound
  by_cases running : r ∈ x.ingressRequestIds
  · rw [if_pos running, List.append_nil]
    exact sound.loseChannel running
  · rw [if_neg running]
    exact sound.release

theorem startIngress (sound : x.Sound p t) (peer : PeerId) (asked : 0 < tally .requested p r t)
    (isNew : r ∉ x.ingressRequestIds) : (x.startIngress r peer).Sound p t where
  held := sound.held
  answerable := sound.answerable
  asked := sound.asked
  forwarded id isId := by
    rcases Finset.mem_insert.mp isId with rfl | isId
    · exact asked
    · exact sound.forwarded id isId
  unanswered := sound.unanswered
  distinct := by
    rw [Exchange.startIngress, List.map_append, List.map_singleton, List.nodup_append]
    refine ⟨sound.distinct, List.nodup_singleton _, fun id isTask id' isLast same => ?_⟩
    obtain rfl : id' = r := List.mem_singleton.mp isLast
    exact isNew ((sound.running id').mpr (same ▸ isTask))
  running id := by
    rw [Exchange.startIngress, Finset.mem_insert, List.map_append, List.map_singleton,
      List.mem_append, List.mem_singleton, sound.running, or_comm]
  working := sound.working
  owned id isHeld := Finset.mem_union.mpr ((Finset.mem_union.mp (sound.owned isHeld)).imp_right
    fun isRunning => Finset.mem_insert_of_mem isRunning)

/-- A task that completes was the only one of its identifier. -/
theorem finished (sound : x.Sound p t) (isTask : (peer, r) ∈ x.ingressTasks) :
    ((x.finishIngress r peer).ingressTasks.map Prod.snd).Nodup ∧
      ∀ id, id ∈ (x.finishIngress r peer).ingressRequestIds ↔
        id ∈ (x.finishIngress r peer).ingressTasks.map Prod.snd := by
  have perm := (List.perm_cons_erase isTask).map Prod.snd
  have distinct := perm.nodup_iff.mp sound.distinct
  rw [List.map_cons, List.nodup_cons] at distinct
  refine ⟨distinct.2, fun id => ?_⟩
  rw [Exchange.finishIngress, Finset.mem_erase, sound.running, perm.mem_iff, List.map_cons,
    List.mem_cons]
  constructor
  · rintro ⟨differs, rfl | isRest⟩
    · exact absurd rfl differs
    · exact isRest
  · intro isRest
    exact ⟨fun same => distinct.1 (same ▸ isRest), .inr isRest⟩

/-- The ingress task of a request that still has its channel completes. -/
theorem finishIngress (sound : x.Sound p t) (isTask : (peer, r) ∈ x.ingressTasks)
    (isOpen : r ∈ x.responses) : (x.finishIngress r peer).Sound p t where
  held := sound.held
  answerable := sound.answerable
  asked := sound.asked
  forwarded id isId := sound.forwarded id (Finset.mem_of_mem_erase isId)
  unanswered := sound.unanswered
  distinct := (sound.finished isTask).1
  running := (sound.finished isTask).2
  working := sound.working
  owned id isHeld := by
    by_cases same : id = r
    · exact Finset.mem_union_left _ (same ▸ isOpen)
    · exact Finset.mem_union.mpr ((Finset.mem_union.mp (sound.owned isHeld)).imp_right
        fun isRunning => Finset.mem_erase.mpr ⟨same, isRunning⟩)

/-- The ingress task of a request that has lost its channel gives the slot back. -/
theorem finishLost (sound : x.Sound p t) (isTask : (peer, r) ∈ x.ingressTasks)
    (lost : r ∉ x.responses) :
    ((x.finishIngress r peer).dropWork p r).2.Sound p
      (t ++ ((x.finishIngress r peer).dropWork p r).1) := by
  have released := sound.release (r := r)
  rw [Finset.erase_eq_of_notMem lost] at released
  exact
    { held := released.held
      answerable := released.answerable
      asked := released.asked
      forwarded := fun id isId => released.forwarded id (Finset.mem_of_mem_erase isId)
      unanswered := released.unanswered
      distinct := (sound.finished isTask).1
      running := (sound.finished isTask).2
      working := released.working
      owned := fun id isHeld => by
        have differs := (Finset.mem_erase.mp isHeld).1
        exact Finset.mem_union.mpr ((Finset.mem_union.mp (released.owned isHeld)).imp_right
          fun isRunning => Finset.mem_erase.mpr ⟨differs, isRunning⟩) }

theorem startOutbound (sound : x.Sound p t) : (x.startOutbound r).Sound p t :=
  ⟨sound.held, sound.answerable, sound.asked, sound.forwarded, sound.unanswered, sound.distinct,
    sound.running, sound.working, sound.owned⟩

theorem finishOutbound (sound : x.Sound p t) : (x.finishOutbound r).Sound p t :=
  ⟨sound.held, sound.answerable, sound.asked, sound.forwarded, sound.unanswered, sound.distinct,
    sound.running, sound.working, sound.owned⟩

end Sound

end Exchange

/-! ## The account of a node -/

namespace GuardianP2p

variable {p q : Protocol} {t acts : List Action} {node : GuardianP2p} {r : InboundRequestId}

/-- No request has been asked twice: libp2p gives each its own identifier. -/
def Fresh (t : List Action) : Prop := ∀ p id, tally .requested p id t ≤ 1

theorem Fresh.of_append (fresh : Fresh (t ++ acts)) : Fresh t :=
  fun p id => tally_le_of_append (fresh p id)

def Sound (t : List Action) (node : GuardianP2p) : Prop := ∀ p, (node.exchange p).Sound p t

theorem exchange_setExchange (x : Exchange) :
    (node.setExchange p x).exchange q = if q = p then x else node.exchange q := by
  by_cases same : q = p
  · subst same
    simp [setExchange]
  · simp [setExchange, same]

@[simp] theorem exchange_setExchange_self (x : Exchange) :
    (node.setExchange p x).exchange p = x := by
  rw [exchange_setExchange, if_pos rfl]

theorem exchange_setExchange_of_ne (node : GuardianP2p) (x : Exchange) (other : q ≠ p) :
    (node.setExchange p x).exchange q = node.exchange q := by
  rw [exchange_setExchange, if_neg other]

theorem Sound.setExchange {x : Exchange} (sound : node.Sound t) (own : ∀ a ∈ acts, a.tag.2.1 = p)
    (changed : x.Sound p (t ++ acts)) : (node.setExchange p x).Sound (t ++ acts) := by
  intro q
  by_cases same : q = p
  · subst same
    rwa [exchange_setExchange_self]
  · rw [exchange_setExchange_of_ne _ x same]
    exact (sound q).other same own

theorem Sound.setExchange_same {x : Exchange} (sound : node.Sound t) (changed : x.Sound p t) :
    (node.setExchange p x).Sound t := by
  have changed' : x.Sound p (t ++ []) := by rwa [List.append_nil]
  have kept := sound.setExchange (by simp) changed'
  rwa [List.append_nil] at kept

theorem mem_releaseActions {x : Exchange} {a : Action} (isAction : a ∈ x.releaseActions p r) :
    a = .released p r := by
  unfold Exchange.releaseActions at isAction
  split at isAction
  · exact List.mem_singleton.mp isAction
  · cases isAction

/-- Asking once more makes a request that was asked before asked twice. -/
theorem Fresh.unasked {a : Action} (fresh : Fresh (t ++ [.requested p r, a])) :
    tally .requested p r t = 0 := by
  have := fresh p r
  rw [tally_append, tally_cons,
    if_pos (show (Action.requested p r).tag = (Action.Kind.requested, p, r) from rfl)] at this
  omega

theorem Sound.respondTo {status : p.Status} {isOpen : Bool} (sound : node.Sound t) :
    (node.respondTo p r status isOpen).2.2.Sound (t ++ (node.respondTo p r status isOpen).2.1) := by
  unfold GuardianP2p.respondTo
  by_cases pending : r ∈ (node.exchange p).responses
  · rw [if_pos pending]
    refine sound.setExchange (fun a isAction => ?_) ((sound p).answer pending)
    rcases List.mem_append.mp isAction with isAction | isAction
    · rw [mem_releaseActions isAction]
      rfl
    · rw [List.mem_singleton.mp isAction]
      rfl
  · rw [if_neg pending, List.append_nil]
    exact sound

theorem Sound.complete {peer : PeerId} {status : p.Status} {isOpen : Bool} (sound : node.Sound t)
    (isTask : (peer, r) ∈ (node.exchange p).ingressTasks) :
    (node.complete p peer r status isOpen).2.2.Sound
      (t ++ (node.complete p peer r status isOpen).2.1) := by
  unfold GuardianP2p.complete
  by_cases pending : r ∈ (node.exchange p).responses
  · have finished := ((sound p).finishIngress isTask pending)
    have sound' : (node.setExchange p ((node.exchange p).finishIngress r peer)).Sound t := by
      exact sound.setExchange_same finished
    rw [if_neg (by rw [exchange_setExchange_self]; exact not_not.mpr pending)]
    exact sound'.respondTo
  · rw [if_pos (by rw [exchange_setExchange_self]; exact pending), exchange_setExchange_self]
    have lost := (sound p).finishLost isTask pending
    intro q
    rw [exchange_setExchange]
    by_cases same : q = p
    · subst same
      rwa [if_pos rfl]
    · rw [if_neg same, exchange_setExchange_of_ne _ _ same]
      refine (sound q).other same fun a isAction => ?_
      rw [mem_releaseActions isAction]
      rfl

/-- An event that is forwarded to an ingress is of a request that was just admitted. -/
def Forwardable (t : List Action) (event : Option TransportEvent) (node : GuardianP2p) : Prop :=
  ∀ p peer id payload, event = some (.inbound p peer id payload) →
    id ∉ (node.exchange p).ingressRequestIds ∧ 0 < tally .requested p id t

theorem handleEvent_request {peer : PeerId} {payload : Bytes} :
    node.handleEvent p (.request peer r payload) =
      if node.maxInboundRequests ≤ node.inboundRequestCount then
        (none, [.requested p r, .answered p r p.busy], node)
      else (some (.inbound p peer r payload), [.requested p r, .admitted p r],
        node.setExchange p ((node.exchange p).take r)) := rfl

theorem Sound.handleEvent {event : RequestResponseEvent p} (sound : node.Sound t)
    (fresh : Fresh (t ++ (node.handleEvent p event).2.1)) :
    (node.handleEvent p event).2.2.Sound (t ++ (node.handleEvent p event).2.1) ∧
      Forwardable (t ++ (node.handleEvent p event).2.1) (node.handleEvent p event).1
        (node.handleEvent p event).2.2 := by
  have unchanged {x : Exchange} (changed : x.Sound p t) :
      (node.setExchange p x).Sound (t ++ []) :=
    sound.setExchange (by simp) (by rwa [List.append_nil])
  have released (id : InboundRequestId) {acts : List Action} {x : Exchange}
      (changed : x.Sound p (t ++ acts)) (own : ∀ a ∈ acts, a = .released p id) :
      (node.setExchange p x).Sound (t ++ acts) :=
    sound.setExchange (fun a isAction => by rw [own a isAction]; rfl) changed
  cases event with
  | request peer id payload =>
    rw [handleEvent_request] at fresh ⊢
    by_cases full : node.maxInboundRequests ≤ node.inboundRequestCount
    · rw [if_pos full] at fresh ⊢
      refine ⟨fun q => ?_, fun _ _ _ _ isEvent => by cases isEvent⟩
      by_cases same : q = p
      · subst same
        exact (sound q).refuse fresh.unasked
      · exact (sound q).other same (by simp [Action.tag])
    · rw [if_neg full] at fresh ⊢
      refine ⟨sound.setExchange (by simp [Action.tag]) ((sound p).take fresh.unasked), ?_⟩
      rintro _ _ _ _ ⟨⟩
      rw [exchange_setExchange_self]
      refine ⟨fun isId => ?_, by simp [Action.tag]⟩
      have := (sound p).forwarded id isId
      rw [fresh.unasked] at this
      exact Nat.lt_irrefl 0 this
  | response peer id status =>
    exact ⟨unchanged (sound p).finishOutbound, fun _ _ _ _ isEvent => by cases isEvent⟩
  | outboundFailure peer id error =>
    exact ⟨unchanged (sound p).finishOutbound, fun _ _ _ _ isEvent => by cases isEvent⟩
  | inboundFailure id =>
    refine ⟨released id (sound p).failInbound fun a isAction => ?_,
      fun _ _ _ _ isEvent => by cases isEvent⟩
    change a ∈ ((node.exchange p).failInbound p id).1 at isAction
    unfold Exchange.failInbound at isAction
    split at isAction
    · cases isAction
    · exact mem_releaseActions isAction
  | responseSent id =>
    exact ⟨released id (sound p).release fun a isAction => mem_releaseActions isAction,
      fun _ _ _ _ isEvent => by cases isEvent⟩

theorem handleSwarmEvent_exchange (event : RequestResponseEvent p) :
    node.handleSwarmEvent (.exchange p event) = node.handleEvent p event := by
  cases p <;> rfl

/-- The other events leave the requests as they are. -/
theorem handleSwarmEvent_other (node : GuardianP2p) {event : SwarmEvent} (other : ∀ p e, event ≠ .exchange p e) :
    (node.handleSwarmEvent event).2.1 = [] ∧
      (node.handleSwarmEvent event).2.2.exchange = node.exchange ∧
      (node.handleSwarmEvent event).2.2.maxInboundRequests = node.maxInboundRequests ∧
      (node.handleSwarmEvent event).2.2.maxOutboundRequests = node.maxOutboundRequests ∧
      ∀ p peer id payload, (node.handleSwarmEvent event).1 ≠ some (.inbound p peer id payload) := by
  cases event with
  | exchange p e => exact absurd rfl (other p e)
  | listenerClosed listenerId addresses failed =>
    refine ⟨rfl, rfl, rfl, rfl, fun p peer id payload isEvent => ?_⟩
    obtain ⟨address, -, same⟩ := Option.map_eq_some_iff.mp isEvent
    cases same
  | listenerError listenerId =>
    refine ⟨rfl, rfl, rfl, rfl, fun p peer id payload isEvent => ?_⟩
    obtain ⟨address, -, same⟩ := Option.map_eq_some_iff.mp isEvent
    cases same
  | autonat change => cases change <;> exact ⟨rfl, rfl, rfl, rfl, fun _ _ _ _ => nofun⟩
  | _ => exact ⟨rfl, rfl, rfl, rfl, fun _ _ _ _ => nofun⟩

theorem Sound.dispatch {driver : Driver} {isOpen : Bool}
    {handled : Option TransportEvent × List Action × GuardianP2p}
    (sound : handled.2.2.Sound (t ++ handled.2.1))
    (forwardable : Forwardable (t ++ handled.2.1) handled.1 handled.2.2) :
    (dispatch driver isOpen handled).2.2.Sound (t ++ (dispatch driver isOpen handled).2.1) := by
  obtain ⟨event, acts, node⟩ := handled
  unfold GuardianP2p.dispatch
  split
  · rename_i p peer id payload acts' node' isHandled
    obtain ⟨rfl, rfl, rfl⟩ : event = _ ∧ acts = acts' ∧ node = node' := by
      simpa using isHandled
    obtain ⟨isNew, asked⟩ := forwardable p peer id payload rfl
    split
    · exact sound
    · split
      · have started := (sound p).startIngress peer asked isNew
        exact sound.setExchange_same started
      · rw [← List.append_assoc]
        exact sound.respondTo
  · rename_i isHandled
    obtain ⟨-, rfl, rfl⟩ : event = _ ∧ acts = _ ∧ node = _ := by
      simpa using isHandled
    exact sound

/-- What is handled of an event of the swarm. -/
theorem Sound.handleSwarmEvent {event : SwarmEvent} (sound : node.Sound t)
    (fresh : Fresh (t ++ (node.handleSwarmEvent event).2.1)) :
    (node.handleSwarmEvent event).2.2.Sound (t ++ (node.handleSwarmEvent event).2.1) ∧
      Forwardable (t ++ (node.handleSwarmEvent event).2.1) (node.handleSwarmEvent event).1
        (node.handleSwarmEvent event).2.2 := by
  by_cases isExchange : ∃ p e, event = .exchange p e
  · obtain ⟨p, e, rfl⟩ := isExchange
    rw [handleSwarmEvent_exchange] at fresh ⊢
    exact sound.handleEvent fresh
  · obtain ⟨noActions, same, -, -, notInbound⟩ :=
      handleSwarmEvent_other node fun p e isEvent => isExchange ⟨p, e, isEvent⟩
    rw [noActions, List.append_nil]
    refine ⟨fun p => ?_, fun p peer id payload isEvent =>
      absurd isEvent (notInbound p peer id payload)⟩
    rw [same]
    exact sound p

/-- What is dispatched has the actions of what was handled. -/
theorem dispatch_actions (driver : Driver) (isOpen : Bool)
    (handled : Option TransportEvent × List Action × GuardianP2p) :
    handled.2.1 <+: (dispatch driver isOpen handled).2.1 := by
  unfold GuardianP2p.dispatch
  split
  · split
    · exact List.prefix_rfl
    · split
      · exact List.prefix_rfl
      · exact List.prefix_append _ _
  · exact List.prefix_rfl

/-- A call keeps the account of a node. -/
theorem Sound.step {call : Call} (sound : node.Sound t)
    (fresh : Fresh (t ++ (step call node).1.2)) :
    (step call node).2.Sound (t ++ (step call node).1.2) := by
  cases call with
  | wake wake =>
    cases wake with
    | swarm driver event isOpen =>
      have freshHandled : Fresh (t ++ (node.handleSwarmEvent event).2.1) := by
        obtain ⟨rest, same⟩ := dispatch_actions driver isOpen (node.handleSwarmEvent event)
        change Fresh (t ++ (GuardianP2p.dispatch driver isOpen (node.handleSwarmEvent event)).2.1)
          at fresh
        rw [← same, ← List.append_assoc] at fresh
        exact fresh.of_append
      obtain ⟨handled, forwardable⟩ := sound.handleSwarmEvent freshHandled
      exact Sound.dispatch handled forwardable
    | ingress p peer id forwarded isOpen =>
      by_cases isTask : (peer, id) ∈ (node.exchange p).ingressTasks
      · simp only [GuardianP2p.step, GuardianP2p.wake, if_pos isTask]
        exact sound.complete isTask
      · simp only [GuardianP2p.step, GuardianP2p.wake, if_neg isTask, List.append_nil]
        exact sound
  | respond p id status isOpen => exact sound.respondTo
  | send p id =>
    simp only [GuardianP2p.step, GuardianP2p.send]
    split
    · rwa [List.append_nil]
    · exact sound.setExchange (by simp) (by rw [List.append_nil]; exact (sound p).startOutbound)

end GuardianP2p

end Prometheus.P2p
