import JqBle.Host.Topology

/-!
# Snapshots of the mesh and their builder (`topology.rs`, `authoring.rs`)
-/

namespace JqBle.NodeProfile
open Std Host Library EntryMap

/-! ## Snapshots -/

inductive MeshNodeRole
  | local
  | remote
deriving DecidableEq, Repr

structure MeshNode where
  nodeId : NodeId
  role : MeshNodeRole
  node : Node
deriving DecidableEq, Repr

structure MeshEdge where
  fromNodeId : NodeId
  toNodeId : NodeId
  observation : Observation Link
deriving DecidableEq, Repr

def MeshEdge.transportKind (edge : MeshEdge) : TransportKind :=
  edge.observation.value.endpoint.transportKind

inductive ActiveRouteDelivery
  | local
  | direct (nextHopNodeId : NodeId)
  | reachable (hopCountHint : Nat)
deriving DecidableEq, Repr

def ActiveRouteDelivery.hopNodeIds (ownerNodeId terminalNodeId : NodeId) :
    ActiveRouteDelivery → List NodeId
  | .local => [ownerNodeId]
  | .direct _ => [ownerNodeId, terminalNodeId]
  | .reachable _ => [ownerNodeId, terminalNodeId]

structure ActiveRoute where
  routeId : RouteId
  ownerNodeId : NodeId
  destination : DestinationId
  terminalNodeId : NodeId
  engine : RoutingEngineId
  shapeVisibility : RouteShapeVisibility
  protocolMix : List TransportKind
  deliveryMode : TransportDeliveryMode
  multicastGroupId : Option MulticastGroupId
  multicastReceivers : List NodeId
  delivery : ActiveRouteDelivery
  observedAtTick : Tick
deriving DecidableEq, Repr

def ActiveRoute.hopNodeIds (route : ActiveRoute) : List NodeId :=
  route.delivery.hopNodeIds route.ownerNodeId route.terminalNodeId

structure MeshTopology where
  localNodeId : NodeId
  observedAtTick : Tick
  nodes : ExtTreeMap NodeId MeshNode
  edges : ExtTreeMap (NodeId × NodeId) MeshEdge
  activeRoutes : ExtTreeMap RouteId ActiveRoute
deriving DecidableEq

namespace MeshTopology

def node (topology : MeshTopology) (nodeId : NodeId) : Option MeshNode := topology.nodes[nodeId]?

def edge (topology : MeshTopology) (fromNodeId toNodeId : NodeId) : Option MeshEdge :=
  topology.edges[(fromNodeId, toNodeId)]?

end MeshTopology

inductive MeshTopologyBuildError
  | missingLocalNode (nodeId : NodeId)
  | duplicateNode (nodeId : NodeId)
  | duplicateEdge (fromNodeId toNodeId : NodeId)
  | edgeReferencesUnknownNode (fromNodeId toNodeId missingNodeId : NodeId)
  | duplicateRoute (routeId : RouteId)
  | routeOwnerMissing (routeId : RouteId) (ownerNodeId : NodeId)
  | routeTerminalMissing (routeId : RouteId) (terminalNodeId : NodeId)
  | routeHopNodeMissing (routeId : RouteId) (nodeId : NodeId)
  | localDeliveryTargetsRemote (routeId : RouteId) (ownerNodeId terminalNodeId : NodeId)
  | localDeliveryHasProtocolMix (routeId : RouteId)
  | directDeliveryNextHopMismatch (routeId : RouteId) (nextHopNodeId terminalNodeId : NodeId)
  | reachableDeliveryCollapsesToDirect (routeId : RouteId)
  | routeMissingEdge (routeId : RouteId) (fromNodeId toNodeId : NodeId)
  | routeProtocolMixMissingTransport (routeId : RouteId) (transportKind : TransportKind)
  | reachableDeliveryRequiresMultiHop (routeId : RouteId)
deriving DecidableEq, Repr

/-! ## Validation -/

def validateHopNodes (routeId : RouteId) (nodes : ExtTreeMap NodeId MeshNode) :
    List NodeId → Except MeshTopologyBuildError Unit
  | [] => .ok ()
  | nodeId :: rest =>
      if nodeId ∈ nodes then validateHopNodes routeId nodes rest
      else .error (.routeHopNodeMissing routeId nodeId)

def validateHopEdges (route : ActiveRoute) (edges : ExtTreeMap (NodeId × NodeId) MeshEdge) :
    List NodeId → Except MeshTopologyBuildError Unit
  | fromNodeId :: toNodeId :: rest =>
      match edges[(fromNodeId, toNodeId)]? with
      | none => .error (.routeMissingEdge route.routeId fromNodeId toNodeId)
      | some edge =>
          if edge.transportKind ∈ route.protocolMix then
            validateHopEdges route edges (toNodeId :: rest)
          else .error (.routeProtocolMixMissingTransport route.routeId edge.transportKind)
  | _ => .ok ()

def validatePath (route : ActiveRoute) (hopNodeIds : List NodeId)
    (nodes : ExtTreeMap NodeId MeshNode) (edges : ExtTreeMap (NodeId × NodeId) MeshEdge) :
    Except MeshTopologyBuildError Unit :=
  match validateHopNodes route.routeId nodes hopNodeIds with
  | .error error => .error error
  | .ok () => validateHopEdges route edges hopNodeIds

def validateRoute (route : ActiveRoute) (nodes : ExtTreeMap NodeId MeshNode)
    (edges : ExtTreeMap (NodeId × NodeId) MeshEdge) : Except MeshTopologyBuildError Unit :=
  if route.ownerNodeId ∉ nodes then
    .error (.routeOwnerMissing route.routeId route.ownerNodeId)
  else if route.terminalNodeId ∉ nodes then
    .error (.routeTerminalMissing route.routeId route.terminalNodeId)
  else
    match route.delivery with
    | .local =>
        if route.ownerNodeId ≠ route.terminalNodeId then
          .error (.localDeliveryTargetsRemote route.routeId route.ownerNodeId route.terminalNodeId)
        else if route.protocolMix ≠ [] then .error (.localDeliveryHasProtocolMix route.routeId)
        else .ok ()
    | .direct nextHopNodeId =>
        if nextHopNodeId ≠ route.terminalNodeId then
          .error (.directDeliveryNextHopMismatch route.routeId nextHopNodeId route.terminalNodeId)
        else validatePath route route.hopNodeIds nodes edges
    | .reachable hopCountHint =>
        if hopCountHint ≤ 1 then .error (.reachableDeliveryRequiresMultiHop route.routeId)
        else if route.ownerNodeId = route.terminalNodeId then
          .error (.reachableDeliveryCollapsesToDirect route.routeId)
        else .ok ()

/-! ## Building -/

def collectNodes (nodes : List MeshNode) (localNodeId : NodeId) :
    Except MeshTopologyBuildError (ExtTreeMap NodeId MeshNode) :=
  match insertUnique MeshNode.nodeId (fun _ => .ok ()) (fun node => .duplicateNode node.nodeId)
      ∅ nodes with
  | .error error => .error error
  | .ok map =>
      match map[localNodeId]? with
      | none => .error (.missingLocalNode localNodeId)
      | some node => if node.role ≠ .local then .error (.missingLocalNode localNodeId) else .ok map

def MeshEdge.key (edge : MeshEdge) : NodeId × NodeId := (edge.fromNodeId, edge.toNodeId)

def validateEdge (nodes : ExtTreeMap NodeId MeshNode) (edge : MeshEdge) :
    Except MeshTopologyBuildError Unit :=
  if edge.fromNodeId ∉ nodes then
    .error (.edgeReferencesUnknownNode edge.fromNodeId edge.toNodeId edge.fromNodeId)
  else if edge.toNodeId ∉ nodes then
    .error (.edgeReferencesUnknownNode edge.fromNodeId edge.toNodeId edge.toNodeId)
  else .ok ()

def collectEdges (edges : List MeshEdge) (nodes : ExtTreeMap NodeId MeshNode) :
    Except MeshTopologyBuildError (ExtTreeMap (NodeId × NodeId) MeshEdge) :=
  insertUnique MeshEdge.key (validateEdge nodes)
    (fun edge => .duplicateEdge edge.fromNodeId edge.toNodeId) ∅ edges

def collectRoutes (routes : List ActiveRoute) (nodes : ExtTreeMap NodeId MeshNode)
    (edges : ExtTreeMap (NodeId × NodeId) MeshEdge) :
    Except MeshTopologyBuildError (ExtTreeMap RouteId ActiveRoute) :=
  insertUnique ActiveRoute.routeId (fun route => validateRoute route nodes edges)
    (fun route => .duplicateRoute route.routeId) ∅ routes

structure MeshTopologyBuilder where
  localNodeId : NodeId
  observedAtTick : Tick
  nodes : List MeshNode
  edges : List MeshEdge
  activeRoutes : List ActiveRoute
deriving DecidableEq, Repr

namespace MeshTopologyBuilder

def new (localNodeId : NodeId) (observedAtTick : Tick) : MeshTopologyBuilder :=
  ⟨localNodeId, observedAtTick, [], [], []⟩

def withNode (builder : MeshTopologyBuilder) (node : MeshNode) : MeshTopologyBuilder :=
  { builder with nodes := builder.nodes ++ [node] }

def withEdge (builder : MeshTopologyBuilder) (edge : MeshEdge) : MeshTopologyBuilder :=
  { builder with edges := builder.edges ++ [edge] }

def withActiveRoute (builder : MeshTopologyBuilder) (route : ActiveRoute) : MeshTopologyBuilder :=
  { builder with activeRoutes := builder.activeRoutes ++ [route] }

def build (builder : MeshTopologyBuilder) : Except MeshTopologyBuildError MeshTopology := do
  let nodes ← collectNodes builder.nodes builder.localNodeId
  let edges ← collectEdges builder.edges nodes
  let activeRoutes ← collectRoutes builder.activeRoutes nodes edges
  return { localNodeId := builder.localNodeId
           observedAtTick := builder.observedAtTick
           nodes := nodes
           edges := edges
           activeRoutes := activeRoutes }

end MeshTopologyBuilder

end JqBle.NodeProfile
