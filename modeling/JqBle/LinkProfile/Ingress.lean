import JqBle.LinkProfile.Task
import JqBle.Library.BoundedQueue
import JqBle.Library.Execution

/-!
# The way of events into the ingress mailbox (`task.rs`)

The mailbox of `jacquard_host_support` is a bounded queue: `emit` is refused exactly when it is
full. Control events that are refused wait in `deferred_control_ingress`; payloads are dropped. The
bridge drains the mailbox from another task, so a drain may fall between any two calls of `emit`.

A control event carries the number of its emission. The numbers, `emitted` and `entered` are history
and no decision reads them.
-/

namespace JqBle.LinkProfile
open Host Library

structure ControlEvent where
  order : Nat
  event : TransportIngressEvent
deriving DecidableEq, Repr

inductive QueuedIngress
  | control (control : ControlEvent)
  | payload (event : TransportIngressEvent)
deriving DecidableEq, Repr

def QueuedIngress.raw : QueuedIngress → TransportIngressEvent
  | .control queued => queued.event
  | .payload event => event

structure RuntimeIngress where
  mailbox : BoundedQueue QueuedIngress
  deferredControlIngress : List ControlEvent
  emitted : Nat
  entered : List ControlEvent

namespace RuntimeIngress

def new (ingressCapacity : Nat) : RuntimeIngress := ⟨.empty ingressCapacity, [], 0, []⟩

/-- `ingress_tx.emit(TransportIngressClass::Control, ..)` -/
def emitControl (ingress : RuntimeIngress) (control : ControlEvent) : Option RuntimeIngress :=
  (ingress.mailbox.push (.control control)).map fun mailbox =>
    { ingress with mailbox := mailbox, entered := ingress.entered ++ [control] }

def emitControlEvent (ingress : RuntimeIngress) (event : TransportIngressEvent) : RuntimeIngress :=
  let control : ControlEvent := ⟨ingress.emitted, event⟩
  let ingress := { ingress with emitted := ingress.emitted + 1 }
  match ingress.emitControl control with
  | some ingress => ingress
  | none =>
      { ingress with deferredControlIngress := ingress.deferredControlIngress ++ [control] }

/-- `ingress_tx.emit(TransportIngressClass::Payload, ..)` -/
def emitPayload (ingress : RuntimeIngress) (event : TransportIngressEvent) : RuntimeIngress :=
  match ingress.mailbox.push (.payload event) with
  | some mailbox => { ingress with mailbox := mailbox }
  | none => ingress

def drain (ingress : RuntimeIngress) (count : Nat) : RuntimeIngress :=
  { ingress with mailbox := ingress.mailbox.drop count }

-- `drained k` events are drained before attempt `k`. The event that is refused goes back to the
-- front.
def flushLoop (drained : Nat → Nat) : Nat → List ControlEvent → RuntimeIngress → RuntimeIngress
  | _, [], ingress => { ingress with deferredControlIngress := [] }
  | attempt, control :: rest, ingress =>
      let ingress := ingress.drain (drained attempt)
      match ingress.emitControl control with
      | some ingress => flushLoop drained (attempt + 1) rest ingress
      | none => { ingress with deferredControlIngress := control :: rest }

/-- One iteration of the loop on its own, and whether another one follows. -/
def flushIteration (ingress : RuntimeIngress) : RuntimeIngress × Bool :=
  match ingress.deferredControlIngress with
  | [] => (ingress, false)
  | control :: rest =>
      match ingress.emitControl control with
      | some ingress => ({ ingress with deferredControlIngress := rest }, true)
      | none => (ingress, false)

def flushDeferredControlIngress (ingress : RuntimeIngress) (drained : Nat → Nat) : RuntimeIngress :=
  flushLoop drained 0 ingress.deferredControlIngress ingress

end RuntimeIngress

inductive IngressStep
  | emitControlEvent (event : TransportIngressEvent)
  | emitPayload (event : TransportIngressEvent)
  | flushDeferredControlIngress (drained : Nat → Nat)
  | drain (count : Nat)

namespace RuntimeIngress

def step (ingress : RuntimeIngress) : IngressStep → RuntimeIngress
  | .emitControlEvent event => ingress.emitControlEvent event
  | .emitPayload event => ingress.emitPayload event
  | .flushDeferredControlIngress drained => ingress.flushDeferredControlIngress drained
  | .drain count => ingress.drain count

end RuntimeIngress

/-! ## The runtime with its ingress -/

/-- What the effects of a turn do to the ingress, with `drained k` events drained before effect
`k`. -/
def ingressSteps (drained : Nat → Nat) : Nat → List Effect → List IngressStep
  | _, [] => []
  | position, effect :: rest =>
      let emission : List IngressStep :=
        match effect with
        | .emitControl event => [.emitControlEvent event]
        | .emitPayload event => [.emitPayload event]
        | _ => []
      .drain (drained position) :: emission ++ ingressSteps drained (position + 1) rest

/-- A turn of the task, after the flush at the top of the loop if the turn is one of the loop. -/
structure LoopTurn where
  turn : Turn
  flush : Option (Nat → Nat)
  drained : Nat → Nat

structure BleRuntime (δ : Type) where
  task : BleRuntimeTask δ
  ingress : RuntimeIngress

namespace BleRuntime
variable {δ : Type} [PeerDirectory δ BlePeerKey DiscoveredPeerHint]

def launch (targetOs : TargetOs) (localNodeId : NodeId) (config : BleConfig)
    (restoredState : BleRestoredState) : BleRuntime δ where
  task := .launch targetOs localNodeId config restoredState
  ingress := .new config.queue.ingressCapacity

def steps (runtime : BleRuntime δ) (next : LoopTurn) : List IngressStep :=
  next.flush.toList.map .flushDeferredControlIngress ++
    ingressSteps next.drained 0 (runtime.task.step next.turn).outbox

def step (runtime : BleRuntime δ) (next : LoopTurn) : BleRuntime δ where
  task := runtime.task.step next.turn
  ingress := Execution.exec RuntimeIngress.step runtime.ingress (runtime.steps next)

def runSteps : BleRuntime δ → List LoopTurn → List IngressStep
  | _, [] => []
  | runtime, next :: rest => runtime.steps next ++ runSteps (runtime.step next) rest

end BleRuntime

end JqBle.LinkProfile
