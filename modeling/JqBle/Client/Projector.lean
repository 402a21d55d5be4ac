import JqBle.NodeProfile.Topology

/-!
# The topology projector (`projector.rs`)

The BLE client keeps its own configuration, updated by transport observations, hands it to the
generic projector and shapes the generic snapshot into a `MeshTopology`.
-/

namespace JqBle.Client
open Std Host Library EntryMap NodeProfile

/-! ## Active routes -/

def routeShapeVisibility : ObservedRouteShape → RouteShapeVisibility
  | .explicitPath => .explicitPath
  | .corridorEnvelope => .corridorEnvelope
  | .nextHopOnly => .nextHopOnly
  | .opaqueShape => .opaqueShape

def deriveRouteDelivery (topology : MeshTopology) (ownerNodeId terminalNodeId : NodeId)
    (hopCountHint : Nat) : Option ActiveRouteDelivery :=
  if ownerNodeId = terminalNodeId then some .local
  else
    let directEdge := (topology.edge ownerNodeId terminalNodeId).filter fun edge =>
      edge.observation.value.state ≠ .faulted
    if directEdge.isSome ∧ hopCountHint ≤ 1 then some (.direct terminalNodeId)
    else some (.reachable (max hopCountHint 1))

-- The loop over the windows of two hops.
def mixTransports (topology : MeshTopology) :
    List NodeId → List TransportKind → Option (List TransportKind)
  | fromNodeId :: toNodeId :: rest, protocolMix => do
      let edge ← topology.edge fromNodeId toNodeId
      let transportKind := edge.observation.value.endpoint.transportKind
      mixTransports topology (toNodeId :: rest)
        (if transportKind ∈ protocolMix then protocolMix else protocolMix ++ [transportKind])
  | _, protocolMix => some protocolMix

def pathTransportMix (topology : MeshTopology) (delivery : ActiveRouteDelivery)
    (ownerNodeId terminalNodeId : NodeId) : Option (List TransportKind) :=
  match delivery with
  | .local => some []
  | .direct _ => mixTransports topology [ownerNodeId, terminalNodeId] []
  | .reachable _ => none

def activeRouteFor (topology : MeshTopology) (route : ObservedRoute) (terminalNodeId : NodeId)
    (delivery : ActiveRouteDelivery) : ActiveRoute where
  routeId := route.routeId
  ownerNodeId := route.ownerNodeId
  destination := route.destination
  terminalNodeId := terminalNodeId
  engine := route.engineId
  shapeVisibility := routeShapeVisibility route.routeShape
  protocolMix := (pathTransportMix topology delivery route.ownerNodeId terminalNodeId).getD
    route.protocolMix
  deliveryMode := route.deliveryMode
  multicastGroupId := none
  multicastReceivers := []
  delivery := delivery
  observedAtTick := max route.lastValidatedAtTick route.lifecycleUpdatedAtTick

def projectObservedRoute (topology : MeshTopology) (route : ObservedRoute) : Option ActiveRoute :=
  match route.destination with
  | .other _ => none
  | .node terminalNodeId =>
      if (topology.node terminalNodeId).isNone ∨ (topology.node route.ownerNodeId).isNone then none
      else
        (deriveRouteDelivery topology route.ownerNodeId terminalNodeId
          (route.hopCountHint.getD 1)).map (activeRouteFor topology route terminalNodeId)

/-! ## Snapshots -/

def meshNodeFromObserved (nodeId localNodeId : NodeId) (node : ObservedNode) : MeshNode where
  nodeId := nodeId
  role := if nodeId = localNodeId then .local else .remote
  node := ⟨node.controllerId, node.profile, node.state⟩

def edgeObservationFrom (edgeObservations : ExtTreeMap (NodeId × NodeId) (Observation Link))
    (key : NodeId × NodeId) (link : ObservedLink) : Observation Link :=
  match edgeObservations[key]? with
  | some observation => observation
  | none => ⟨link.toLink, .local, .directObservation, .unauthenticated, link.observedAtTick⟩

-- Nodes and edges are in place before the routes are projected onto them.
def meshWithoutRoutes (edgeObservations : ExtTreeMap (NodeId × NodeId) (Observation Link))
    (generic : TopologySnapshot) : MeshTopology where
  localNodeId := generic.localNodeId
  observedAtTick := generic.observedAtTick
  nodes := generic.nodes.map fun nodeId node =>
    meshNodeFromObserved nodeId generic.localNodeId node
  edges := generic.links.map fun key link =>
    ⟨key.1, key.2, edgeObservationFrom edgeObservations key link⟩
  activeRoutes := ∅

def projectRoutes (topology : MeshTopology) (routes : ExtTreeMap RouteId ObservedRoute) :
    List ActiveRoute :=
  (inOrder routes).filterMap (projectObservedRoute topology)

def meshSnapshotFrom (edgeObservations : ExtTreeMap (NodeId × NodeId) (Observation Link))
    (generic : TopologySnapshot) : MeshTopology :=
  let snapshot := meshWithoutRoutes edgeObservations generic
  { snapshot with
    activeRoutes := insertAll ActiveRoute.routeId ∅ (projectRoutes snapshot generic.activeRoutes) }

/-! ## The projector -/

structure TopologyProjector (π : Type) where
  topology : Observation Configuration
  edgeObservations : ExtTreeMap (NodeId × NodeId) (Observation Link)
  hostProjector : π
  snapshot : MeshTopology

namespace TopologyProjector
variable {π : Type} [HostTopologyProjector π]

def new (localNodeId : NodeId) (initialTopology : Observation Configuration) :
    TopologyProjector π :=
  let edgeObservations := initialTopology.value.links.map fun _ link =>
    ⟨link, initialTopology.sourceClass, initialTopology.evidenceClass,
      initialTopology.originAuthentication, initialTopology.observedAtTick⟩
  let hostProjector : π := HostTopologyProjector.new localNodeId initialTopology
  { topology := initialTopology
    edgeObservations := edgeObservations
    hostProjector := hostProjector
    snapshot := meshSnapshotFrom edgeObservations (HostTopologyProjector.snapshot hostProjector) }

def refreshSnapshot (projector : TopologyProjector π) : TopologyProjector π × Bool :=
  let nextSnapshot := meshSnapshotFrom projector.edgeObservations
    (HostTopologyProjector.snapshot projector.hostProjector)
  if nextSnapshot = projector.snapshot then (projector, false)
  else ({ projector with snapshot := nextSnapshot }, true)

def ingestEngineCapabilities (projector : TopologyProjector π) (capabilities : Nat) :
    TopologyProjector π × Bool :=
  refreshSnapshot { projector with
    hostProjector :=
      HostTopologyProjector.ingestEngineCapabilities projector.hostProjector capabilities }

def ingestMaterializedRoute (projector : TopologyProjector π) (route : MaterializedRoute) :
    TopologyProjector π × Bool :=
  refreshSnapshot { projector with
    hostProjector := HostTopologyProjector.ingestMaterializedRoute projector.hostProjector route }

def ingestRoundOutcome (projector : TopologyProjector π) (outcome : RouterRoundOutcome) :
    TopologyProjector π × Bool :=
  refreshSnapshot { projector with
    hostProjector := HostTopologyProjector.ingestRoundOutcome projector.hostProjector outcome }

def bumpTopologyTick (projector : TopologyProjector π) (observedAtTick : Tick) :
    TopologyProjector π × Bool :=
  if projector.topology.observedAtTick < observedAtTick then
    ({ projector with topology := { projector.topology with observedAtTick := observedAtTick } },
      true)
  else (projector, false)

def ensureRemoteNode (preset : NodePreset) (projector : TopologyProjector π)
    (remoteNodeId : NodeId) (endpoint : LinkEndpoint) (observedAtTick : Tick) :
    TopologyProjector π × Bool :=
  if remoteNodeId ∈ projector.topology.value.nodes then (projector, false)
  else
    let node := preset remoteNodeId ⟨remoteNodeId.bytes⟩ endpoint observedAtTick
    let configuration := projector.topology.value
    let configuration := { configuration with
      nodes := configuration.nodes.insert remoteNodeId node }
    ({ projector with topology := { projector.topology with value := configuration } }, true)

def recordLink (projector : TopologyProjector π) (remoteNodeId : NodeId)
    (observation : Observation Link) : TopologyProjector π × Bool :=
  let edgeKey := (projector.snapshot.localNodeId, remoteNodeId)
  let configuration := projector.topology.value
  let previousLink := configuration.links[edgeKey]?
  let previousObservation := projector.edgeObservations[edgeKey]?
  let configuration := { configuration with
    links := configuration.links.insert edgeKey observation.value }
  ({ projector with
      topology := { projector.topology with value := configuration }
      edgeObservations := projector.edgeObservations.insert edgeKey observation },
    previousLink ≠ some observation.value ∨ previousObservation ≠ some observation)

-- The configuration as the observation leaves it, and whether it has changed.
def observe (preset : NodePreset) (projector : TopologyProjector π) :
    TransportObservation → TopologyProjector π × Bool
  | .payloadReceived _ _ _ observedAtTick => projector.bumpTopologyTick observedAtTick
  | .linkObserved remoteNodeId observation =>
      let bumped := projector.bumpTopologyTick observation.observedAtTick
      let ensured := bumped.1.ensureRemoteNode preset remoteNodeId observation.value.endpoint
        observation.observedAtTick
      let recorded := ensured.1.recordLink remoteNodeId observation
      (recorded.1, bumped.2 || ensured.2 || recorded.2)

def ingestTransportObservation (preset : NodePreset) (projector : TopologyProjector π)
    (observation : TransportObservation) : TopologyProjector π × Bool :=
  let observed := projector.observe preset observation
  if observed.2 then
    refreshSnapshot { observed.1 with
      hostProjector := HostTopologyProjector.ingestTopology observed.1.hostProjector
        observed.1.topology }
  else (observed.1, false)

end TopologyProjector

/-! ## The topology of a new client (`routing.rs`) -/

-- `opaque_endpoint` comes from the host library.
def initialTopology (preset : NodePreset)
    (opaqueEndpoint : TransportKind → List UInt8 → Nat → LinkEndpoint) (localNodeId : NodeId)
    (observedAtTick : Tick) : Observation Configuration :=
  let endpoint := opaqueEndpoint .bleGatt localNodeId.bytes.toList 512
  let localNode := preset localNodeId ⟨localNodeId.bytes⟩ endpoint observedAtTick
  { value := {
      epoch := 1
      nodes := (∅ : ExtTreeMap NodeId Node).insert localNodeId localNode
      links := ∅
      environment := ⟨0, 0, 0⟩ }
    sourceClass := .local
    evidenceClass := .directObservation
    originAuthentication := .controlled
    observedAtTick := observedAtTick }

/-! ## Inputs -/

inductive ProjectorInput
  | transportObservation (observation : TransportObservation)
  | materializedRoute (route : MaterializedRoute)
  | roundOutcome (outcome : RouterRoundOutcome)
  | engineCapabilities (capabilities : Nat)

def TopologyProjector.step {π : Type} [HostTopologyProjector π] (preset : NodePreset)
    (projector : TopologyProjector π) : ProjectorInput → TopologyProjector π
  | .transportObservation observation =>
      (projector.ingestTransportObservation preset observation).1
  | .materializedRoute route => (projector.ingestMaterializedRoute route).1
  | .roundOutcome outcome => (projector.ingestRoundOutcome outcome).1
  | .engineCapabilities capabilities => (projector.ingestEngineCapabilities capabilities).1

end JqBle.Client
