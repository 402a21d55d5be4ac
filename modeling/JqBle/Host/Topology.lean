import JqBle.Host.Core

/-!
# Configurations, routes and the topology projector of `jacquard_host_support`

What the repository hands on without reading it is kept as a code. The generic projector is a
parameter: it copies the nodes and links of the configuration it has ingested last, and which routes
it reports as active is left open.
-/

namespace JqBle.Host
open Std

/-! ## Identifiers -/

instance : Ord (NodeId × NodeId) := lexOrd
instance : TransOrd (NodeId × NodeId) := inferInstanceAs (@TransOrd (NodeId × NodeId) lexOrd)
instance : LawfulEqOrd (NodeId × NodeId) :=
  inferInstanceAs (@LawfulEqOrd (NodeId × NodeId) lexOrd)

structure RouteId where
  bytes : Vector UInt8 16
deriving DecidableEq, Repr

instance : Ord RouteId := ⟨compareOn RouteId.bytes⟩
instance : TransOrd RouteId := inferInstanceAs (TransCmp (compareOn RouteId.bytes))
instance : LawfulEqOrd RouteId where
  eq_of_compare {a b} equal := by
    cases a
    cases b
    simpa [compare, compareOn] using LawfulEqOrd.eq_of_compare (α := Vector UInt8 16) equal

structure BackendRouteId where
  bytes : List UInt8
deriving DecidableEq, Repr

structure ControllerId where
  bytes : Vector UInt8 32
deriving DecidableEq, Repr

structure RoutingEngineId where
  code : Nat
deriving DecidableEq, Repr

/-! ## Configurations -/

structure Node where
  controllerId : ControllerId
  profile : Nat
  state : Nat
deriving DecidableEq, Repr

structure Environment where
  reachableNeighborCount : Nat
  churnPermille : Nat
  contentionPermille : Nat
deriving DecidableEq, Repr

structure Configuration where
  epoch : Nat
  nodes : ExtTreeMap NodeId Node
  links : ExtTreeMap (NodeId × NodeId) Link
  environment : Environment
deriving DecidableEq

-- `NodePreset::route_capable_for_engines(.., &[MERCATOR_ENGINE_ID]).build()`
abbrev NodePreset := NodeId → ControllerId → LinkEndpoint → Tick → Node

/-! ## Routes -/

inductive DestinationId
  | node (nodeId : NodeId)
  | other (code : Nat)
deriving DecidableEq, Repr

inductive RouteShapeVisibility
  | explicitPath
  | corridorEnvelope
  | nextHopOnly
  | opaqueShape
deriving DecidableEq, Repr

inductive ObservedRouteShape
  | explicitPath
  | corridorEnvelope
  | nextHopOnly
  | opaqueShape
deriving DecidableEq, Repr

structure ObservedRoute where
  routeId : RouteId
  ownerNodeId : NodeId
  destination : DestinationId
  engineId : RoutingEngineId
  routeShape : ObservedRouteShape
  hopCountHint : Option Nat
  protocolMix : List TransportKind
  deliveryMode : TransportDeliveryMode
  lastValidatedAtTick : Tick
  lifecycleUpdatedAtTick : Tick
deriving DecidableEq, Repr

/-- `observed` is what the generic projector makes of the parts the repository does not read. -/
structure MaterializedRoute where
  routeId : RouteId
  backendRouteId : BackendRouteId
  observed : ObservedRoute
deriving DecidableEq, Repr

/-! ## The generic projector -/

structure ObservedNode where
  controllerId : ControllerId
  profile : Nat
  state : Nat
deriving DecidableEq, Repr

structure ObservedLink extends Link where
  observedAtTick : Tick
deriving DecidableEq, Repr

structure TopologySnapshot where
  localNodeId : NodeId
  observedAtTick : Tick
  nodes : ExtTreeMap NodeId ObservedNode
  links : ExtTreeMap (NodeId × NodeId) ObservedLink
  activeRoutes : ExtTreeMap RouteId ObservedRoute
deriving DecidableEq

/-- The snapshot shows the nodes, the links and the tick of the configuration. -/
structure TopologySnapshot.Copies (snapshot : TopologySnapshot)
    (topology : Observation Configuration) : Prop where
  observedAtTick : snapshot.observedAtTick = topology.observedAtTick
  nodes : ∀ nodeId : NodeId,
    snapshot.nodes[nodeId]?.map (fun node => Node.mk node.controllerId node.profile node.state) =
      topology.value.nodes[nodeId]?
  links : ∀ key : NodeId × NodeId,
    snapshot.links[key]?.map ObservedLink.toLink = topology.value.links[key]?

class HostTopologyProjector (π : Type) where
  new : NodeId → Observation Configuration → π
  snapshot : π → TopologySnapshot
  ingestTopology : π → Observation Configuration → π
  ingestEngineCapabilities : π → Nat → π
  ingestMaterializedRoute : π → MaterializedRoute → π
  ingestRoundOutcome : π → RouterRoundOutcome → π
  localNodeId_new : ∀ localNodeId topology,
    (snapshot (new localNodeId topology)).localNodeId = localNodeId
  localNodeId_ingestTopology : ∀ projector topology,
    (snapshot (ingestTopology projector topology)).localNodeId = (snapshot projector).localNodeId
  copies_new : ∀ localNodeId topology, (snapshot (new localNodeId topology)).Copies topology
  copies_ingestTopology : ∀ projector topology,
    (snapshot (ingestTopology projector topology)).Copies topology
  -- The other inputs bear on the active routes only.
  kept_ingestEngineCapabilities : ∀ projector capabilities,
    { snapshot (ingestEngineCapabilities projector capabilities) with
      activeRoutes := (snapshot projector).activeRoutes } = snapshot projector
  kept_ingestMaterializedRoute : ∀ projector route,
    { snapshot (ingestMaterializedRoute projector route) with
      activeRoutes := (snapshot projector).activeRoutes } = snapshot projector
  kept_ingestRoundOutcome : ∀ projector outcome,
    { snapshot (ingestRoundOutcome projector outcome) with
      activeRoutes := (snapshot projector).activeRoutes } = snapshot projector

structure CopyingProjector where
  localNodeId : NodeId
  topology : Observation Configuration
  activeRoutes : ExtTreeMap RouteId ObservedRoute

def CopyingProjector.snapshot (projector : CopyingProjector) : TopologySnapshot where
  localNodeId := projector.localNodeId
  observedAtTick := projector.topology.observedAtTick
  nodes := projector.topology.value.nodes.map fun _ node =>
    ⟨node.controllerId, node.profile, node.state⟩
  links := projector.topology.value.links.map fun _ link =>
    ⟨link, projector.topology.observedAtTick⟩
  activeRoutes := projector.activeRoutes

theorem CopyingProjector.copies (projector : CopyingProjector) :
    projector.snapshot.Copies projector.topology where
  observedAtTick := rfl
  nodes nodeId := by
    simp only [snapshot, ExtTreeMap.getElem?_map]
    cases projector.topology.value.nodes[nodeId]? <;> rfl
  links key := by
    simp only [snapshot, ExtTreeMap.getElem?_map]
    cases projector.topology.value.links[key]? <;> rfl

instance : HostTopologyProjector CopyingProjector where
  new localNodeId topology := ⟨localNodeId, topology, ∅⟩
  snapshot := CopyingProjector.snapshot
  ingestTopology projector topology := { projector with topology := topology }
  ingestEngineCapabilities projector _ := projector
  ingestMaterializedRoute projector route :=
    { projector with
      activeRoutes := projector.activeRoutes.insert route.routeId route.observed }
  ingestRoundOutcome projector _ := projector
  localNodeId_new _ _ := rfl
  localNodeId_ingestTopology _ _ := rfl
  copies_new _ _ := CopyingProjector.copies _
  copies_ingestTopology _ _ := CopyingProjector.copies _
  kept_ingestEngineCapabilities _ _ := rfl
  kept_ingestMaterializedRoute _ _ := rfl
  kept_ingestRoundOutcome _ _ := rfl

end JqBle.Host
