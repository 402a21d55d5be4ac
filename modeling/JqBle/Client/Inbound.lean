import JqBle.Client.Client
import JqBle.Client.Node

/-!
# From the radio to a subscriber (`publish_incoming` and `incoming` of `client.rs`)

The payloads of a round that has succeeded are unframed and broadcast. A subscriber of `incoming` keeps
the last of them until it is polled, and a receiver that lags goes on with what is left. The rounds of
the node are those that the client drives, whether a command or the loop waits for them, until a payload
that is too short to slice panics its thread.
-/

namespace JqBle.Client
open Host Library JqBle.LinkProfile

def incomingCapacity : Nat := 64

def clientPayload (event : TransportIngressEvent) : Option (NodeId × List UInt8) :=
  match event with
  | .payloadReceived fromNodeId _ payload =>
      match decodeClientPayload payload with
      | .ok (some payload) => some (fromNodeId, payload)
      | .ok none | .error _ => none
  | .linkObserved .. => none

namespace BleNode
variable {δ : Type}

def drainedAnswers (node : BleNode δ) (answers : BridgeAnswers BleRuntimeEffects) :
    BridgeAnswers BleRuntimeEffects :=
  { answers with drainRawIngress := .ok (node.ingress.mailbox.items.map QueuedIngress.raw) }

/-- The answer of `advance_round` to the client. -/
def roundResult (shape : CastShaping) (node : BleNode δ) (answers : BridgeAnswers BleRuntimeEffects) :
    Except BleBridgeError BleBridgeProgress :=
  (node.bridge.advanceRound shape (node.drainedAnswers answers)).2

def published (shape : CastShaping) (node : BleNode δ) (answers : BridgeAnswers BleRuntimeEffects) :
    List (NodeId × List UInt8) × Bool :=
  match node.roundResult shape answers with
  | .ok (.advanced report) =>
      incomingPayloads (report.ingestedTransportObservations.map StagedObservation.observation)
  | .ok (.waiting _) | .error _ => ([], false)

end BleNode

structure InboundPath (δ : Type) where
  node : BleNode δ
  -- What the receiver of the subscriber holds, once there is one.
  subscriber : Option (List (NodeId × List UInt8))
  -- The thread of the client has panicked.
  panicked : Bool

inductive InboundStep
  | node (step : NodeStep)
  | subscribe
  | poll

namespace InboundPath
variable {δ : Type}

def newWithConfig (task : BleRuntimeTask δ) : InboundPath δ := ⟨.newWithConfig task, none, false⟩

def receive (received published : List (NodeId × List UInt8)) : List (NodeId × List UInt8) :=
  let received := received ++ published
  received.drop (received.length - incomingCapacity)

variable [PeerDirectory δ BlePeerKey DiscoveredPeerHint]

def step (shape : CastShaping) (path : InboundPath δ) : InboundStep → InboundPath δ
  | .node (.round answers) =>
      if path.panicked then path
      else
        let published := path.node.published shape answers
        { node := path.node.step shape (.round answers)
          subscriber := path.subscriber.map fun received => receive received published.1
          panicked := published.2 }
  | .node next => { path with node := path.node.step shape next }
  | .subscribe => { path with subscriber := some (path.subscriber.getD []) }
  | .poll => { path with subscriber := path.subscriber.map List.tail }

/-! ## What a step moves -/

def emittedPayload : Effect → Option (NodeId × List UInt8)
  | .emitPayload event => clientPayload event
  | _ => none

/-- The application payloads that the runtime emits in the step. -/
def heard (path : InboundPath δ) : InboundStep → List (NodeId × List UInt8)
  | .node (.turn turn _) =>
      if path.node.work = [] then (path.node.task.step turn).outbox.filterMap emittedPayload else []
  | _ => []

def yielded (path : InboundPath δ) : InboundStep → List (NodeId × List UInt8)
  | .poll => (path.subscriber.getD []).take 1
  | _ => []

def workPayload : IngressWork → Option (NodeId × List UInt8)
  | .emitPayload event => clientPayload event
  | .emitControlEvent _ | .flushDeferredControlIngress => none

/-- What is between the runtime and the subscriber, the oldest first. -/
def held (path : InboundPath δ) : List (NodeId × List UInt8) :=
  path.subscriber.getD [] ++
    (path.node.ingress.mailbox.items.filterMap fun item => clientPayload item.raw) ++
    path.node.work.filterMap workPayload

end InboundPath

end JqBle.Client
