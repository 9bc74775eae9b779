import Prometheus.Codec.Bytes
import Prometheus.Machine.Trace

/-!
# The node of a Guardian

`GuardianP2p` of `modules/guardian-p2p/src/lib.rs`: the requests of three protocols that it has
admitted and sent, and its listeners. The swarm of libp2p is the environment: which event it yields,
which identifier it gives a request, and whether a response channel is still open are part of a call.
An operation returns what it did to requests as a list of actions beside the node that it leaves.
-/

namespace Prometheus.P2p

open Prometheus.Codec Prometheus.Machine

/-- `PeerId`, `Multiaddr` as their bytes. -/
abbrev PeerId : Type := Bytes
abbrev Multiaddr : Type := Bytes

/-- `InboundRequestId` and `OutboundRequestId`, unique for one protocol, and `ListenerId`. -/
abbrev InboundRequestId : Type := Nat
abbrev OutboundRequestId : Type := Nat
abbrev ListenerId : Type := Nat

/-- The behaviours `ballots`, `threat_hints` and `threat_hints_v2`. -/
inductive Protocol
  | ballots
  | threatHints
  | threatHintsV2
  deriving DecidableEq, Repr

inductive AckStatus
  | accepted
  | duplicate
  | rejected
  | busy
  deriving DecidableEq, Repr

inductive ThreatHintAckStatus
  | accepted
  | duplicate
  | rejected
  | busy
  deriving DecidableEq, Repr

inductive ThreatHintV2AckStatus
  | accepted
  | rejected
  | busy
  deriving DecidableEq, Repr

/-- The response of a protocol. -/
abbrev Protocol.Status : Protocol → Type
  | .ballots => AckStatus
  | .threatHints => ThreatHintAckStatus
  | .threatHintsV2 => ThreatHintV2AckStatus

def Protocol.busy : (p : Protocol) → p.Status
  | .ballots => AckStatus.busy
  | .threatHints => ThreatHintAckStatus.busy
  | .threatHintsV2 => ThreatHintV2AckStatus.busy

def Protocol.rejected : (p : Protocol) → p.Status
  | .ballots => AckStatus.rejected
  | .threatHints => ThreatHintAckStatus.rejected
  | .threatHintsV2 => ThreatHintV2AckStatus.rejected

inductive RequestFailure
  | dial
  | timeout
  | connectionClosed
  | unsupportedProtocol
  | io
  deriving DecidableEq, Repr

inductive ConnectionPath
  | direct
  | relayed
  deriving DecidableEq, Repr

inductive NatReachability
  | unknown
  | isPrivate
  | isPublic
  deriving DecidableEq, Repr

inductive HolePunchOutcome
  | directEstablished
  | relayFallback
  deriving DecidableEq, Repr

/-- The errors of the operations below. -/
inductive TransportError
  | outboundBusy (max : Nat)
  | unknownInboundRequest
  | unknownInboundThreatHint
  | unknownInboundThreatHintV2
  | responseChannelClosed
  deriving DecidableEq, Repr

/-- `InvalidTimeout`, `UnsafeSocket` and `InvalidAcknowledgement` are `refused`. -/
inductive IngressError
  | io
  | timeout
  | unavailable
  | refused
  deriving DecidableEq, Repr

/-! ## Events -/

/-- `request_response::Event` -/
inductive RequestResponseEvent (p : Protocol)
  | request (peer : PeerId) (requestId : InboundRequestId) (payload : Bytes)
  | response (peer : PeerId) (requestId : OutboundRequestId) (status : p.Status)
  | outboundFailure (peer : PeerId) (requestId : OutboundRequestId) (error : RequestFailure)
  | inboundFailure (requestId : InboundRequestId)
  | responseSent (requestId : InboundRequestId)

/-- `SwarmEvent<BehaviourEvent>` -/
inductive SwarmEvent
  | newListenAddr (listenerId : ListenerId) (address : Multiaddr)
  | expiredListenAddr (listenerId : ListenerId) (address : Multiaddr)
  | listenerClosed (listenerId : ListenerId) (addresses : List Multiaddr) (failed : Bool)
  | listenerError (listenerId : ListenerId)
  | exchange (p : Protocol) (event : RequestResponseEvent p)
  | identify
  | ping
  | autonat (change : Option (NatReachability × NatReachability))
  | reservationReqAccepted (relayPeer : PeerId) (renewal : Bool)
  | outboundCircuitEstablished (relayPeer : PeerId)
  | inboundCircuitEstablished (srcPeer : PeerId)
  | dcutr (remotePeer : PeerId) (succeeded : Bool)
  | connectionEstablished (peer : PeerId) (isRelayed : Bool)
  | connectionClosed (peer : PeerId) (isRelayed : Bool) (numEstablished : Nat) (failed : Bool)
  | externalAddrConfirmed (throughCircuit : Bool)
  | other

/-- `TransportEvent`; its variants for the three protocols have the protocol as an argument. -/
inductive TransportEvent
  | listening (address : Multiaddr)
  | listenerClosed (address : Multiaddr) (failed : Bool)
  | listenerFailed (address : Multiaddr)
  | inbound (p : Protocol) (peer : PeerId) (requestId : InboundRequestId) (payload : Bytes)
  | inboundProcessed (p : Protocol) (peer : PeerId) (status : p.Status)
  | outboundAck (p : Protocol) (peer : PeerId) (requestId : OutboundRequestId) (status : p.Status)
  | outboundFailure (p : Protocol) (peer : PeerId) (requestId : OutboundRequestId)
      (failure : RequestFailure)
  | connectionEstablished (peer : PeerId) (path : ConnectionPath)
  | connectionClosed (peer : PeerId) (path : ConnectionPath) (remaining : Nat) (failed : Bool)
  | relayReservationAccepted (relayPeer : PeerId) (renewal : Bool)
  | relayOutboundCircuit (relayPeer : PeerId)
  | relayInboundCircuit (sourcePeer : PeerId)
  | natStatusChanged (old new : NatReachability)
  | holePunchFinished (peer : PeerId) (outcome : HolePunchOutcome)
  | externalAddressConfirmed (path : ConnectionPath)

/-- What becomes of the request of a peer: it arrives, takes a slot, gives the slot back, and a
response is handed to its channel. -/
inductive Action
  | requested (p : Protocol) (requestId : InboundRequestId)
  | admitted (p : Protocol) (requestId : InboundRequestId)
  | released (p : Protocol) (requestId : InboundRequestId)
  | answered (p : Protocol) (requestId : InboundRequestId) (status : p.Status)

/-! ## The requests of one protocol -/

/-- The sets of a `GuardianP2p` that belong to one protocol. A response channel is known by the
identifier of its request. -/
structure Exchange where
  /-- `inbound_responses` -/
  responses : Finset InboundRequestId
  /-- `inbound_work` -/
  work : Finset InboundRequestId
  /-- `ingress_request_ids` -/
  ingressRequestIds : Finset InboundRequestId
  /-- `ingress_tasks` -/
  ingressTasks : List (PeerId × InboundRequestId)
  /-- `outbound_requests` -/
  outboundRequests : Finset OutboundRequestId

def Exchange.empty : Exchange := ⟨∅, ∅, ∅, [], ∅⟩

namespace Exchange

variable (p : Protocol) (requestId : InboundRequestId) (x : Exchange)

/-- What `inbound_work.remove` does. -/
def releaseActions : List Action := if requestId ∈ x.work then [.released p requestId] else []

/-- Admission of a request. -/
def take : Exchange :=
  { x with
    responses := insert requestId x.responses
    work := insert requestId x.work }

/-- The arm of `InboundFailure`. -/
def failInbound : List Action × Exchange :=
  if requestId ∈ x.ingressRequestIds then ([], { x with responses := x.responses.erase requestId })
  else (releaseActions p requestId x,
    { x with
      responses := x.responses.erase requestId
      work := x.work.erase requestId })

/-- The arm of `ResponseSent`. -/
def sentResponse : List Action × Exchange :=
  (releaseActions p requestId x,
    { x with
      responses := x.responses.erase requestId
      work := x.work.erase requestId })

/-- What `respond` does once it has the channel. -/
def answer (status : p.Status) : List Action × Exchange :=
  (releaseActions p requestId x ++ [.answered p requestId status],
    { x with
      responses := x.responses.erase requestId
      work := x.work.erase requestId })

/-- The arms that push an ingress task. -/
def startIngress (peer : PeerId) : Exchange :=
  { x with
    ingressRequestIds := insert requestId x.ingressRequestIds
    ingressTasks := x.ingressTasks ++ [(peer, requestId)] }

/-- `ingress_tasks` yields a completion, whose identifier is forgotten. -/
def finishIngress (peer : PeerId) : Exchange :=
  { x with
    ingressRequestIds := x.ingressRequestIds.erase requestId
    ingressTasks := x.ingressTasks.erase (peer, requestId) }

/-- What a completion does where the channel is gone. -/
def dropWork : List Action × Exchange :=
  (releaseActions p requestId x, { x with work := x.work.erase requestId })

def startOutbound (requestId : OutboundRequestId) : Exchange :=
  { x with outboundRequests := insert requestId x.outboundRequests }

def finishOutbound (requestId : OutboundRequestId) : Exchange :=
  { x with outboundRequests := x.outboundRequests.erase requestId }

end Exchange

/-! ## The node -/

structure GuardianP2p where
  exchange : Protocol → Exchange
  maxOutboundRequests : Nat
  maxInboundRequests : Nat
  listenerAddresses : List (ListenerId × Multiaddr)
  activeListenerAddresses : ListenerId → Option (Finset Multiaddr)

namespace GuardianP2p

variable (node : GuardianP2p)

/-- `GuardianP2p::new`, with the listeners of the configured addresses. -/
def new (maxConcurrentRequests : Nat) (listenerAddresses : List (ListenerId × Multiaddr)) :
    GuardianP2p where
  exchange _ := .empty
  maxOutboundRequests := maxConcurrentRequests
  maxInboundRequests := maxConcurrentRequests
  listenerAddresses := listenerAddresses
  activeListenerAddresses _ := none

def setExchange (p : Protocol) (x : Exchange) : GuardianP2p :=
  { node with exchange := Function.update node.exchange p x }

def setActive (listenerId : ListenerId) (addresses : Option (Finset Multiaddr)) : GuardianP2p :=
  { node with
    activeListenerAddresses := Function.update node.activeListenerAddresses listenerId addresses }

/-- `listener_addresses.get` -/
def listenerAddress (listenerId : ListenerId) : Option Multiaddr :=
  (node.listenerAddresses.find? fun entry => decide (entry.1 = listenerId)).map Prod.snd

def isReady : Bool :=
  !node.listenerAddresses.isEmpty &&
    node.listenerAddresses.all fun entry =>
      (node.activeListenerAddresses entry.1).any fun addresses => decide (addresses ≠ ∅)

def inboundRequestCount : Nat :=
  (node.exchange .ballots).work.card + (node.exchange .threatHints).work.card +
    (node.exchange .threatHintsV2).work.card

def outboundRequestCount : Nat :=
  (node.exchange .ballots).outboundRequests.card +
    (node.exchange .threatHints).outboundRequests.card +
      (node.exchange .threatHintsV2).outboundRequests.card

def pendingWork : Nat × Nat := (node.inboundRequestCount, node.outboundRequestCount)

/-! ### Outbound requests -/

/-- `send_ballot` and its two siblings; libp2p gives the identifier. -/
def send (p : Protocol) (requestId : OutboundRequestId) :
    Except TransportError OutboundRequestId × GuardianP2p :=
  if node.maxOutboundRequests ≤ node.outboundRequestCount then
    (.error (.outboundBusy node.maxOutboundRequests), node)
  else (.ok requestId, node.setExchange p ((node.exchange p).startOutbound requestId))

def sendBallot := node.send .ballots
def sendThreatHint := node.send .threatHints
def sendThreatHintV2 := node.send .threatHintsV2

/-! ### Responses -/

/-- The error of a request that has no channel. -/
def unknownRequest : Protocol → TransportError
  | .ballots => .unknownInboundRequest
  | .threatHints => .unknownInboundThreatHint
  | .threatHintsV2 => .unknownInboundThreatHintV2

/-- `respond` and its two siblings; `isOpen` is whether `send_response` succeeds. -/
def respondTo (p : Protocol) (requestId : InboundRequestId) (status : p.Status) (isOpen : Bool) :
    Except TransportError Unit × List Action × GuardianP2p :=
  if requestId ∈ (node.exchange p).responses then
    let answered := (node.exchange p).answer p requestId status
    (if isOpen then .ok () else .error .responseChannelClosed, answered.1,
      node.setExchange p answered.2)
  else (.error (unknownRequest p), [], node)

def respond := node.respondTo .ballots
def respondThreatHint := node.respondTo .threatHints
def respondThreatHintV2 := node.respondTo .threatHintsV2

/-- The event of a response, or `None` where its channel was closed. -/
def processedEvent (p : Protocol) (peer : PeerId) (status : p.Status) :
    Except TransportError Unit → Except TransportError (Option TransportEvent)
  | .ok () => .ok (some (.inboundProcessed p peer status))
  | .error .responseChannelClosed => .ok none
  | .error error => .error error

/-- `complete_ingress` and its two siblings. -/
def complete (p : Protocol) (peer : PeerId) (requestId : InboundRequestId) (status : p.Status)
    (isOpen : Bool) : Except TransportError (Option TransportEvent) × List Action × GuardianP2p :=
  let finished := node.setExchange p ((node.exchange p).finishIngress requestId peer)
  if requestId ∉ (finished.exchange p).responses then
    let dropped := (finished.exchange p).dropWork p requestId
    (.ok none, dropped.1, finished.setExchange p dropped.2)
  else
    let responded := finished.respondTo p requestId status isOpen
    (processedEvent p peer status responded.1, responded.2)

def completeIngress := node.complete .ballots
def completeThreatHintIngress := node.complete .threatHints
def completeThreatHintV2Ingress := node.complete .threatHintsV2

/-! ### Events of the swarm -/

/-- `handle_ballot_event` and its two siblings. -/
def handleEvent (p : Protocol) :
    RequestResponseEvent p → Option TransportEvent × List Action × GuardianP2p
  | .request peer requestId payload =>
    if node.maxInboundRequests ≤ node.inboundRequestCount then
      (none, [.requested p requestId, .answered p requestId p.busy], node)
    else (some (.inbound p peer requestId payload), [.requested p requestId, .admitted p requestId],
      node.setExchange p ((node.exchange p).take requestId))
  | .response peer requestId status =>
    (some (.outboundAck p peer requestId status), [],
      node.setExchange p ((node.exchange p).finishOutbound requestId))
  | .outboundFailure peer requestId error =>
    (some (.outboundFailure p peer requestId error), [],
      node.setExchange p ((node.exchange p).finishOutbound requestId))
  | .inboundFailure requestId =>
    let failed := (node.exchange p).failInbound p requestId
    (none, failed.1, node.setExchange p failed.2)
  | .responseSent requestId =>
    let sent := (node.exchange p).sentResponse p requestId
    (none, sent.1, node.setExchange p sent.2)

def handleBallotEvent := node.handleEvent .ballots
def handleThreatHintEvent := node.handleEvent .threatHints
def handleThreatHintV2Event := node.handleEvent .threatHintsV2

def connectionPath (relayed : Bool) : ConnectionPath := if relayed then .relayed else .direct

/-- `handle_swarm_event` for the events that are not of a protocol. -/
def handleListenerEvent : SwarmEvent → Option TransportEvent × GuardianP2p
  | .newListenAddr listenerId address =>
    (some (.listening address),
      node.setActive listenerId
        (some (insert address ((node.activeListenerAddresses listenerId).getD ∅))))
  | .expiredListenAddr listenerId address =>
    (some (.listenerClosed address false),
      node.setActive listenerId
        ((node.activeListenerAddresses listenerId).map fun addresses => addresses.erase address))
  | .listenerClosed listenerId addresses failed =>
    ((addresses.head?.or (node.listenerAddress listenerId)).map fun address =>
        .listenerClosed address failed,
      node.setActive listenerId none)
  | .listenerError listenerId => ((node.listenerAddress listenerId).map .listenerFailed, node)
  | .autonat (some (old, new)) => (some (.natStatusChanged old new), node)
  | .reservationReqAccepted relayPeer renewal =>
    (some (.relayReservationAccepted relayPeer renewal), node)
  | .outboundCircuitEstablished relayPeer => (some (.relayOutboundCircuit relayPeer), node)
  | .inboundCircuitEstablished srcPeer => (some (.relayInboundCircuit srcPeer), node)
  | .dcutr remotePeer succeeded =>
    (some (.holePunchFinished remotePeer
      (if succeeded then .directEstablished else .relayFallback)), node)
  | .connectionEstablished peer isRelayed =>
    (some (.connectionEstablished peer (connectionPath isRelayed)), node)
  | .connectionClosed peer isRelayed numEstablished failed =>
    (some (.connectionClosed peer (connectionPath isRelayed) numEstablished failed), node)
  | .externalAddrConfirmed throughCircuit =>
    (some (.externalAddressConfirmed (connectionPath throughCircuit)), node)
  | _ => (none, node)

def handleSwarmEvent : SwarmEvent → Option TransportEvent × List Action × GuardianP2p
  | .exchange .ballots event => node.handleBallotEvent event
  | .exchange .threatHints event => node.handleThreatHintEvent event
  | .exchange .threatHintsV2 event => node.handleThreatHintV2Event event
  | event =>
    let handled := node.handleListenerEvent event
    (handled.1, [], handled.2)

/-! ### The loops that drive a node -/

/-- Who drives the node: `next_event`, `next_sidecar_event` without the boundaries of ThreatHints, or
`next_verified_sidecar_event`. -/
inductive Driver
  | nextEvent
  | sidecar
  | verifiedSidecar
  deriving DecidableEq, Repr

/-- Whether a driver has an ingress for the requests of a protocol. -/
def Driver.forwards : Driver → Protocol → Bool
  | .nextEvent, _ => false
  | .sidecar, p => decide (p = .ballots)
  | .verifiedSidecar, _ => true

/-- What an iteration of a loop returns; `None` goes on with the next iteration. -/
abbrev Progress : Type := Except TransportError (Option TransportEvent) × List Action × GuardianP2p

/-- What a loop does with an event that was handled. -/
def dispatch (driver : Driver) (isOpen : Bool) :
    Option TransportEvent × List Action × GuardianP2p → Progress
  | (some (.inbound p peer requestId payload), actions, node) =>
    if driver = .nextEvent then (.ok (some (.inbound p peer requestId payload)), actions, node)
    else if driver.forwards p then
      (.ok none, actions,
        node.setExchange p ((node.exchange p).startIngress requestId peer))
    else
      let responded := node.respondTo p requestId p.rejected isOpen
      (processedEvent p peer p.rejected responded.1, actions ++ responded.2.1, responded.2.2)
  | (event, actions, node) => (.ok event, actions, node)

/-- The status of a completion. -/
def ingressStatus {p : Protocol} : Except IngressError p.Status → p.Status
  | .ok status => status
  | .error .refused => p.rejected
  | .error _ => p.busy

/-- An iteration of a loop: the swarm yields an event, or an ingress task completes. -/
inductive Wake
  | swarm (driver : Driver) (event : SwarmEvent) (isOpen : Bool)
  | ingress (p : Protocol) (peer : PeerId) (requestId : InboundRequestId)
      (forwarded : Except IngressError p.Status) (isOpen : Bool)

/-- Only a task that runs can complete. -/
def wake : Wake → Progress
  | .swarm driver event isOpen => dispatch driver isOpen (node.handleSwarmEvent event)
  | .ingress p peer requestId forwarded isOpen =>
    if (peer, requestId) ∈ (node.exchange p).ingressTasks then
      node.complete p peer requestId (ingressStatus forwarded) isOpen
    else (.ok none, [], node)

/-! ### Calls -/

inductive Call
  | wake (wake : Wake)
  | respond (p : Protocol) (requestId : InboundRequestId) (status : p.Status) (isOpen : Bool)
  | send (p : Protocol) (requestId : OutboundRequestId)

inductive Returned
  | event (event : Option TransportEvent)
  | responded
  | sent (requestId : OutboundRequestId)

def step (call : Call) (node : GuardianP2p) :
    (Except TransportError Returned × List Action) × GuardianP2p :=
  match call with
  | .wake wake =>
    let woken := node.wake wake
    ((woken.1.map .event, woken.2.1), woken.2.2)
  | .respond p requestId status isOpen =>
    let responded := node.respondTo p requestId status isOpen
    ((responded.1.map fun _ => .responded, responded.2.1), responded.2.2)
  | .send p requestId =>
    let sent := node.send p requestId
    ((sent.1.map .sent, []), sent.2)

end GuardianP2p

end Prometheus.P2p
