import JqBle.LinkProfile.Task

/-!
# The client's view of the notify fanout (`multicast.rs`)

`MulticastAdmission` learns of subscribers only through the link observations of the fanout
endpoint. `ObservedRuntime` is the runtime task together with the admission of a client that has
ingested all its control events, in the order they were emitted.
-/

namespace JqBle.Client
open Std Host JqBle.LinkProfile

structure MulticastAdmission where
  subscribers : ExtTreeMap NodeId Tick := ∅

namespace MulticastAdmission

def ingestTransportObservation (admission : MulticastAdmission) :
    TransportObservation → MulticastAdmission
  | .payloadReceived .. => admission
  | .linkObserved remoteNodeId observation =>
      if observation.value.endpoint ≠ gattNotifyFanoutEndpoint then admission
      else if observation.value.state = .faulted then
        { admission with subscribers := admission.subscribers.erase remoteNodeId }
      else
        { admission with
          subscribers := admission.subscribers.insert remoteNodeId observation.observedAtTick }

def latestObservedTick (subscribers : ExtTreeMap NodeId Tick) (receivers : List NodeId) : Tick :=
  (receivers.filterMap fun receiver => subscribers[receiver]?).foldl max 0

def supportFor (shape : MulticastShaping) (admission : MulticastAdmission) (localNodeId : NodeId)
    (groupId : MulticastGroupId) (receivers : List NodeId) :
    Except RouteAdmissionRejection TransportDeliverySupport :=
  if receivers.isEmpty || receivers.any fun receiver => receiver ∉ admission.subscribers then
    .error .deliveryAssumptionUnsupported
  else
    match gattNotifyMulticastSupport shape localNodeId groupId receivers
        (latestObservedTick admission.subscribers receivers) 0 with
    | none => .error .deliveryAssumptionUnsupported
    | some support => .ok support

end MulticastAdmission

def isMulticastFanoutObservation : TransportObservation → Bool
  | .payloadReceived .. => false
  | .linkObserved _ observation => observation.value.endpoint = gattNotifyFanoutEndpoint

/-! ## The runtime and its client -/

/-- A turn with the tick and the order stamp that the bridge gives to the effect at a position. -/
structure ObservedTurn where
  turn : Turn
  stamp : Nat → Tick × OrderStamp

def ingestEffect (shape : CastShaping) (localNodeId : NodeId) (stamp : Tick × OrderStamp)
    (admission : MulticastAdmission) : Effect → MulticastAdmission
  | .emitControl event => admission.ingestTransportObservation
      (linkObservationFromBleEvent shape localNodeId event stamp.1 stamp.2)
  | _ => admission

def ingestEffects (shape : CastShaping) (localNodeId : NodeId) (stamp : Nat → Tick × OrderStamp) :
    Nat → List Effect → MulticastAdmission → MulticastAdmission
  | _, [], admission => admission
  | position, effect :: rest, admission =>
      ingestEffects shape localNodeId stamp (position + 1) rest
        (ingestEffect shape localNodeId (stamp position) admission effect)

structure ObservedRuntime (δ : Type) where
  task : BleRuntimeTask δ
  multicastAdmission : MulticastAdmission

namespace ObservedRuntime
variable {δ : Type} [PeerDirectory δ BlePeerKey DiscoveredPeerHint]

def launch (targetOs : TargetOs) (localNodeId : NodeId) (config : BleConfig)
    (restoredState : BleRestoredState) : ObservedRuntime δ where
  task := .launch targetOs localNodeId config restoredState
  multicastAdmission := {}

def step (shape : CastShaping) (runtime : ObservedRuntime δ) (next : ObservedTurn) :
    ObservedRuntime δ where
  task := runtime.task.step next.turn
  multicastAdmission := ingestEffects shape runtime.task.localNodeId next.stamp 0
    (runtime.task.step next.turn).outbox runtime.multicastAdmission

end ObservedRuntime

end JqBle.Client
