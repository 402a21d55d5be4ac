import JqBle.LinkProfile.Gatt

/-!
# BLE link events and their delivery-support shaping (`cast.rs`)

The shaping functions of `jacquard_cast_support` are a parameter. The source calls them with the
default policy and `expect`s an answer for every resolved endpoint, so the parameter is total.
-/

namespace JqBle.LinkProfile
open Host

def bleLinkRttEstimateMs : Nat := 150
def bleLinkValidForMs : Nat := 30000
def bleGattConfidence : Nat := 700
def bleL2capConfidence : Nat := 900

structure CastEvidenceMeta where
  observedAtTick : Tick
  ageMs : Nat
  validForMs : Nat
  order : OrderStamp
deriving DecidableEq, Repr

structure UnicastObservation where
  sender : NodeId
  receiver : NodeId
  directionalConfidencePermille : Nat
  reverseConfirmationPermille : Option Nat
  payloadBytesMax : Nat
  evidence : CastEvidenceMeta
deriving DecidableEq, Repr

structure UnicastDeliverySupport where
  sender : NodeId
  receiver : NodeId
  payloadBytesMax : Nat
  confidencePermille : Nat
  bidirectionalConfidencePermille : Nat
deriving DecidableEq, Repr

abbrev CastShaping := UnicastObservation → UnicastDeliverySupport

def castEvidenceMeta (observedAtTick : Tick) (order : OrderStamp) : CastEvidenceMeta :=
  ⟨observedAtTick, 0, bleLinkValidForMs, order⟩

def unicastObservation (localNodeId remoteNodeId : NodeId) (endpoint : LinkEndpoint)
    (evidence : CastEvidenceMeta) : UnicastObservation :=
  let confidence : Nat × Option Nat :=
    match endpoint.transportKind with
    | .bleL2cap => (bleL2capConfidence, some bleL2capConfidence)
    | .bleGatt => (bleGattConfidence, none)
    | .other _ => (bleGattConfidence, none)
  ⟨localNodeId, remoteNodeId, confidence.1, confidence.2, endpoint.mtuBytes, evidence⟩

def linkCarrier (endpoint : LinkEndpoint) (runtimeState : LinkRuntimeState) : Link where
  endpoint := endpoint
  rttEstimateMs := bleLinkRttEstimateMs
  repair := .transportRetransmit
  recovery := .localReconnect
  state := runtimeState
  observation := none
  quality := none

def linkFromUnicastDeliverySupport (endpoint : LinkEndpoint) (support : UnicastDeliverySupport)
    (observedAtTick : Tick) : Link where
  endpoint := { endpoint with mtuBytes := support.payloadBytesMax }
  rttEstimateMs := bleLinkRttEstimateMs
  repair := .transportRetransmit
  recovery := .localReconnect
  state := .active
  observation := some ⟨bleLinkRttEstimateMs, 0, bleLinkValidForMs, observedAtTick⟩
  quality := some ⟨0, support.confidencePermille, support.bidirectionalConfidencePermille⟩

def rawBleLinkEvent (remoteNodeId : NodeId) (endpoint : LinkEndpoint)
    (runtimeState : LinkRuntimeState) : TransportIngressEvent :=
  .linkObserved remoteNodeId (linkCarrier endpoint runtimeState) .local .directObservation
    .unauthenticated

def rawBleLinkObservedEvent (remoteNodeId : NodeId) (endpoint : LinkEndpoint) :
    TransportIngressEvent :=
  rawBleLinkEvent remoteNodeId endpoint .active

def rawBleLinkFaultedEvent (remoteNodeId : NodeId) (endpoint : LinkEndpoint) :
    TransportIngressEvent :=
  rawBleLinkEvent remoteNodeId endpoint .faulted

def linkObservationFromBleEvent (shape : CastShaping) (localNodeId : NodeId)
    (event : TransportIngressEvent) (observedAtTick : Tick) (order : OrderStamp) :
    TransportObservation :=
  match event with
  | .payloadReceived .. => event.observeAt observedAtTick
  | .linkObserved remoteNodeId link sourceClass evidenceClass originAuthentication =>
      if link.state ≠ .active then
        .linkObserved remoteNodeId
          ⟨link, sourceClass, evidenceClass, originAuthentication, observedAtTick⟩
      else
        let support := shape (unicastObservation localNodeId remoteNodeId link.endpoint
          (castEvidenceMeta observedAtTick order))
        .linkObserved remoteNodeId
          ⟨linkFromUnicastDeliverySupport link.endpoint support observedAtTick, sourceClass,
            evidenceClass, originAuthentication, observedAtTick⟩

/-! ## Multicast support -/

def bleNotifyGroupPressure : Nat := 100
def bleNotifyFanoutLimit : Nat := 8

structure ReceiverCoverageObservation where
  receiver : NodeId
  confidencePermille : Nat
deriving DecidableEq, Repr

structure MulticastObservation where
  sender : NodeId
  groupId : MulticastGroupId
  receivers : List ReceiverCoverageObservation
  groupPressurePermille : Nat
  fanoutLimit : Nat
  payloadBytesMax : Nat
  evidence : CastEvidenceMeta
deriving DecidableEq, Repr

structure MulticastDeliverySupport where
  groupId : MulticastGroupId
  receivers : List NodeId
deriving DecidableEq, Repr

/-- The first support that the library shapes from the observation, for all of its receivers. -/
abbrev MulticastShaping := MulticastObservation → Option MulticastDeliverySupport

def shapeBleNotifyMulticastDeliverySupport (shape : MulticastShaping) (localNodeId : NodeId)
    (groupId : MulticastGroupId) (receivers : List NodeId) (evidence : CastEvidenceMeta) :
    Option MulticastDeliverySupport :=
  shape {
    sender := localNodeId
    groupId := groupId
    receivers := receivers.map fun receiver => ⟨receiver, bleGattConfidence⟩
    groupPressurePermille := bleNotifyGroupPressure
    fanoutLimit := bleNotifyFanoutLimit
    payloadBytesMax := gattNotifyFanoutEndpoint.mtuBytes
    evidence := evidence }

def gattNotifyMulticastSupport (shape : MulticastShaping) (localNodeId : NodeId)
    (groupId : MulticastGroupId) (receivers : List NodeId) (observedAtTick : Tick)
    (order : OrderStamp) : Option TransportDeliverySupport :=
  (shapeBleNotifyMulticastDeliverySupport shape localNodeId groupId receivers
    (castEvidenceMeta observedAtTick order)).map fun support =>
      .multicast gattNotifyFanoutEndpoint support.groupId support.receivers

theorem rawBleLinkEvent_inj {a b : NodeId} {e f : LinkEndpoint} {p q : LinkRuntimeState} :
    rawBleLinkEvent a e p = rawBleLinkEvent b f q ↔ a = b ∧ e = f ∧ p = q := by
  simp [rawBleLinkEvent, linkCarrier]

end JqBle.LinkProfile
