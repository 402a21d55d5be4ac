import JqBle.Client.Bridge
import JqBle.LinkProfile.Ingress

/-!
# The runtime and the bridge over one mailbox

The runtime emits in its own task, event by event, and the client drains the mailbox whenever it drives
a round of its bridge. A round stands where it drains: what is emitted while the router and the flush
are awaited comes after it. `discarded` holds what the back-pressure of the bridge has refused; it is
history and no decision reads it.
-/

namespace JqBle.Client
open Host Library JqBle.LinkProfile

inductive IngressWork
  | flushDeferredControlIngress
  | emitControlEvent (event : TransportIngressEvent)
  | emitPayload (event : TransportIngressEvent)
deriving DecidableEq, Repr

def ingressWork : Effect → Option IngressWork
  | .emitControl event => some (.emitControlEvent event)
  | .emitPayload event => some (.emitPayload event)
  | _ => none

namespace BleHostBridge
variable {κ : Type} [BleBridgeClock κ]

def stageDiscards (shape : CastShaping) (observedAtTick : Tick) :
    BleHostBridge κ → List TransportIngressEvent → List TransportIngressEvent
  | _, [] => []
  | bridge, event :: rest =>
      let later := stageDiscards shape observedAtTick (bridge.stageEvent shape observedAtTick event) rest
      if bridge.inboundCapacity ≤ bridge.pendingTransportObservations.length then event :: later
      else later

end BleHostBridge

structure BleNode (δ : Type) where
  task : BleRuntimeTask δ
  ingress : RuntimeIngress
  work : List IngressWork
  bridge : BleHostBridge BleRuntimeEffects
  discarded : List TransportIngressEvent

inductive NodeStep
  -- A turn of the runtime, in the select loop after a flush at its top.
  | turn (turn : Turn) (looped : Bool)
  | ingress
  | round (answers : BridgeAnswers BleRuntimeEffects)

namespace BleNode
variable {δ : Type} [PeerDirectory δ BlePeerKey DiscoveredPeerHint]

/-- What `new_with_config` starts with the runtime task that it has built from the configuration. -/
def newWithConfig (task : BleRuntimeTask δ) : BleNode δ where
  task := task
  ingress := .new task.config.queue.ingressCapacity
  work := []
  bridge := .withClock task.localNodeId (.new 1) {}
  discarded := []

def ingressStep (node : BleNode δ) : BleNode δ :=
  match node.work with
  | [] => node
  | .flushDeferredControlIngress :: rest =>
      let flushed := node.ingress.flushIteration
      { node with ingress := flushed.1, work := if flushed.2 then node.work else rest }
  | .emitControlEvent event :: rest =>
      { node with ingress := node.ingress.emitControlEvent event, work := rest }
  | .emitPayload event :: rest =>
      { node with ingress := node.ingress.emitPayload event, work := rest }

def turnStep (node : BleNode δ) (turn : Turn) (looped : Bool) : BleNode δ :=
  let task := node.task.step turn
  { node with
    task := task
    work := (if looped then [.flushDeferredControlIngress] else []) ++
      task.outbox.filterMap ingressWork }

/-- The mailbox is drained whole and the round is driven with what was in it. -/
def roundStep (shape : CastShaping) (node : BleNode δ) (answers : BridgeAnswers BleRuntimeEffects) :
    BleNode δ :=
  let rawEvents := node.ingress.mailbox.items.map QueuedIngress.raw
  let (observedAtTick, clock) := BleBridgeClock.advanceTick (answers.sharedClock node.bridge.clock)
  { node with
    ingress := node.ingress.drain node.ingress.mailbox.items.length
    bridge := (node.bridge.advanceRound shape { answers with drainRawIngress := .ok rawEvents }).1
    discarded := node.discarded ++
      BleHostBridge.stageDiscards shape observedAtTick { node.bridge with clock := clock } rawEvents }

-- The runtime takes its next event when it is done with the last one.
def step (shape : CastShaping) (node : BleNode δ) : NodeStep → BleNode δ
  | .turn turn looped => if node.work = [] then node.turnStep turn looped else node
  | .ingress => node.ingressStep
  | .round answers => node.roundStep shape answers

end BleNode

def NodeStep.turn? : NodeStep → Option Turn
  | .turn next _ => some next
  | .ingress | .round _ => none

end JqBle.Client
