import JqBle.Proof.LinkProfile.Scenario
import JqBle.Proof.NodeProfile.Topology

/-!
# The inputs the builder accepts

`build` collects three lists one after the other and stops at the first item it rejects. What it
accepts does not depend on the order: a condition on the lists as sets of items says it.
-/

namespace JqBle.Proof.NodeProfile
open Std Host Library EntryMap JqBle.NodeProfile

variable {localNodeId : NodeId} {observedAtTick : Tick} {nodes permutedNodes : List MeshNode}
  {edges permutedEdges : List MeshEdge} {routes permutedRoutes : List ActiveRoute}

/-! ## Well-formed inputs -/

def Listed (nodes : List MeshNode) (nodeId : NodeId) : Prop := ∃ node ∈ nodes, node.nodeId = nodeId

def DeliveryRule (edges : List MeshEdge) (route : ActiveRoute) : Prop :=
  match route.delivery with
  | .local => route.ownerNodeId = route.terminalNodeId ∧ route.protocolMix = []
  | .direct nextHopNodeId => nextHopNodeId = route.terminalNodeId ∧
      ∃ edge ∈ edges, edge.fromNodeId = route.ownerNodeId ∧
        edge.toNodeId = route.terminalNodeId ∧ edge.transportKind ∈ route.protocolMix
  | .reachable hopCountHint => 1 < hopCountHint ∧ route.ownerNodeId ≠ route.terminalNodeId

structure WellFormedInput (localNodeId : NodeId) (nodes : List MeshNode) (edges : List MeshEdge)
    (routes : List ActiveRoute) : Prop where
  nodeIds : (nodes.map MeshNode.nodeId).Nodup
  edgeKeys : (edges.map MeshEdge.key).Nodup
  routeIds : (routes.map ActiveRoute.routeId).Nodup
  localNode : ∃ node ∈ nodes, node.nodeId = localNodeId ∧ node.role = .local
  edgeEnds : ∀ edge ∈ edges, Listed nodes edge.fromNodeId ∧ Listed nodes edge.toNodeId
  routeEnds : ∀ route ∈ routes, Listed nodes route.ownerNodeId ∧ Listed nodes route.terminalNodeId
  deliveries : ∀ route ∈ routes, DeliveryRule edges route

theorem DeliveryRule.of_perm {route : ActiveRoute} (rule : DeliveryRule edges route)
    (perm : edges.Perm permutedEdges) : DeliveryRule permutedEdges route := by
  unfold DeliveryRule at rule ⊢
  cases delivery : route.delivery with
  | «local» =>
      rw [delivery] at rule
      exact rule
  | direct nextHopNodeId =>
      rw [delivery] at rule
      obtain ⟨next, edge, member, joins⟩ := rule
      exact ⟨next, edge, perm.mem_iff.mp member, joins⟩
  | reachable hopCountHint =>
      rw [delivery] at rule
      exact rule

theorem WellFormedInput.of_perm (wellFormed : WellFormedInput localNodeId nodes edges routes)
    (nodesPerm : nodes.Perm permutedNodes) (edgesPerm : edges.Perm permutedEdges)
    (routesPerm : routes.Perm permutedRoutes) :
    WellFormedInput localNodeId permutedNodes permutedEdges permutedRoutes := by
  have listed (nodeId : NodeId) (known : Listed nodes nodeId) : Listed permutedNodes nodeId := by
    obtain ⟨node, member, same⟩ := known
    exact ⟨node, nodesPerm.mem_iff.mp member, same⟩
  constructor
  · exact ((nodesPerm.map _).nodup_iff).mp wellFormed.nodeIds
  · exact ((edgesPerm.map _).nodup_iff).mp wellFormed.edgeKeys
  · exact ((routesPerm.map _).nodup_iff).mp wellFormed.routeIds
  · obtain ⟨node, member, isLocal⟩ := wellFormed.localNode
    exact ⟨node, nodesPerm.mem_iff.mp member, isLocal⟩
  · intro edge member
    have ends := wellFormed.edgeEnds edge (edgesPerm.mem_iff.mpr member)
    exact ⟨listed _ ends.1, listed _ ends.2⟩
  · intro route member
    have ends := wellFormed.routeEnds route (routesPerm.mem_iff.mpr member)
    exact ⟨listed _ ends.1, listed _ ends.2⟩
  · intro route member
    exact (wellFormed.deliveries route (routesPerm.mem_iff.mpr member)).of_perm edgesPerm

/-! ## Collecting -/

theorem collectNodes_eq_ok {map : ExtTreeMap NodeId MeshNode} :
    collectNodes nodes localNodeId = .ok map ↔
      (nodes.map MeshNode.nodeId).Nodup ∧
        (∃ node ∈ nodes, node.nodeId = localNodeId ∧ node.role = .local) ∧
        insertAll MeshNode.nodeId ∅ nodes = map := by
  have inserted (map : ExtTreeMap NodeId MeshNode) : insertUnique MeshNode.nodeId
      (fun _ => .ok ()) (fun node => MeshTopologyBuildError.duplicateNode node.nodeId) ∅ nodes =
        .ok map ↔
      (nodes.map MeshNode.nodeId).Nodup ∧ insertAll MeshNode.nodeId ∅ nodes = map := by
    rw [insertUnique_eq_ok]
    simp
  unfold collectNodes
  cases collected : insertUnique MeshNode.nodeId (fun _ => .ok ())
      (fun node => MeshTopologyBuildError.duplicateNode node.nodeId) ∅ nodes with
  | error error =>
      have rejected : ¬ (nodes.map MeshNode.nodeId).Nodup := by
        intro distinct
        have accepted := (inserted (insertAll MeshNode.nodeId ∅ nodes)).mpr ⟨distinct, rfl⟩
        rw [collected] at accepted
        cases accepted
      simp [rejected]
  | ok held =>
      obtain ⟨distinct, rfl⟩ := (inserted held).mp collected
      have located (node : MeshNode) :
          (insertAll MeshNode.nodeId ∅ nodes)[localNodeId]? = some node ↔
            node ∈ nodes ∧ node.nodeId = localNodeId := getElem?_insertAll_of_nodup distinct
      dsimp only
      split
      · rename_i missing
        simp only [reduceCtorEq, false_iff, not_and]
        rintro - ⟨node, member, own, -⟩
        rw [(located node).mpr ⟨member, own⟩] at missing
        cases missing
      · rename_i node found
        have role : (∃ node ∈ nodes, node.nodeId = localNodeId ∧ node.role = .local) ↔
            node.role = .local := by
          constructor
          · rintro ⟨other, member, own, isLocal⟩
            rw [(located other).mpr ⟨member, own⟩] at found
            cases found
            exact isLocal
          · intro isLocal
            obtain ⟨member, own⟩ := (located node).mp found
            exact ⟨node, member, own, isLocal⟩
        rw [role]
        by_cases isLocal : node.role = .local
        · simp [isLocal, distinct]
        · simp [isLocal]

theorem mem_collectedNodes {nodeId : NodeId} :
    nodeId ∈ insertAll MeshNode.nodeId ∅ nodes ↔ Listed nodes nodeId := mem_insertAll

theorem collectEdges_eq_ok {map : ExtTreeMap (NodeId × NodeId) MeshEdge} :
    collectEdges edges (insertAll MeshNode.nodeId ∅ nodes) = .ok map ↔
      (∀ edge ∈ edges, Listed nodes edge.fromNodeId ∧ Listed nodes edge.toNodeId) ∧
        (edges.map MeshEdge.key).Nodup ∧ insertAll MeshEdge.key ∅ edges = map := by
  unfold collectEdges
  rw [insertUnique_eq_ok]
  simp only [validateEdge_eq_ok, mem_collectedNodes, ExtTreeMap.not_mem_empty, not_false_eq_true,
    implies_true, true_and]

theorem deliveryAccepted_iff {route : ActiveRoute} (distinct : (edges.map MeshEdge.key).Nodup) :
    DeliveryAccepted (insertAll MeshEdge.key ∅ edges) route ↔ DeliveryRule edges route := by
  unfold DeliveryAccepted DeliveryRule
  cases route.delivery with
  | direct nextHopNodeId =>
      simp only [getElem?_insertAll_of_nodup distinct, MeshEdge.key, Prod.mk.injEq, and_assoc]
  | _ => rfl

theorem collectRoutes_eq_ok {map : ExtTreeMap RouteId ActiveRoute}
    (distinct : (edges.map MeshEdge.key).Nodup) :
    collectRoutes routes (insertAll MeshNode.nodeId ∅ nodes) (insertAll MeshEdge.key ∅ edges) =
        .ok map ↔
      (∀ route ∈ routes, Listed nodes route.ownerNodeId ∧ Listed nodes route.terminalNodeId ∧
        DeliveryRule edges route) ∧
        (routes.map ActiveRoute.routeId).Nodup ∧ insertAll ActiveRoute.routeId ∅ routes = map := by
  unfold collectRoutes
  rw [insertUnique_eq_ok]
  simp only [validateRoute_eq_ok, mem_collectedNodes, deliveryAccepted_iff distinct,
    ExtTreeMap.not_mem_empty, not_false_eq_true, implies_true, true_and]

/-! ## Building -/

def collectAll (builder : MeshTopologyBuilder) : MeshTopology where
  localNodeId := builder.localNodeId
  observedAtTick := builder.observedAtTick
  nodes := insertAll MeshNode.nodeId ∅ builder.nodes
  edges := insertAll MeshEdge.key ∅ builder.edges
  activeRoutes := insertAll ActiveRoute.routeId ∅ builder.activeRoutes

theorem build_eq_ok {builder : MeshTopologyBuilder} {topology : MeshTopology} :
    builder.build = .ok topology ↔
      WellFormedInput builder.localNodeId builder.nodes builder.edges builder.activeRoutes ∧
        topology = collectAll builder := by
  simp only [MeshTopologyBuilder.build, bind, Except.bind, pure, Except.pure]
  constructor
  · intro built
    split at built
    · cases built
    · rename_i nodes collectedNodes
      obtain ⟨nodeIds, localNode, rfl⟩ := collectNodes_eq_ok.mp collectedNodes
      split at built
      · cases built
      · rename_i edges collectedEdges
        obtain ⟨edgeEnds, edgeKeys, rfl⟩ := collectEdges_eq_ok.mp collectedEdges
        split at built
        · cases built
        · rename_i routes collectedRoutes
          obtain ⟨accepted, routeIds, rfl⟩ := (collectRoutes_eq_ok edgeKeys).mp collectedRoutes
          refine ⟨⟨nodeIds, edgeKeys, routeIds, localNode, edgeEnds, ?_, ?_⟩, ?_⟩
          · intro route member
            exact ⟨(accepted route member).1, (accepted route member).2.1⟩
          · intro route member
            exact (accepted route member).2.2
          · exact (Except.ok.inj built).symm
  · rintro ⟨wellFormed, rfl⟩
    have nodes := collectNodes_eq_ok.mpr ⟨wellFormed.nodeIds, wellFormed.localNode, rfl⟩
    have edges := collectEdges_eq_ok.mpr ⟨wellFormed.edgeEnds, wellFormed.edgeKeys, rfl⟩
    have routes := (collectRoutes_eq_ok wellFormed.edgeKeys).mpr ⟨fun route member =>
      ⟨(wellFormed.routeEnds route member).1, (wellFormed.routeEnds route member).2,
        wellFormed.deliveries route member⟩, wellFormed.routeIds, rfl⟩
    rw [nodes]
    dsimp only
    rw [edges]
    dsimp only
    rw [routes]
    rfl

theorem collectAll_of_perm (wellFormed : WellFormedInput localNodeId nodes edges routes)
    (nodesPerm : permutedNodes.Perm nodes) (edgesPerm : permutedEdges.Perm edges)
    (routesPerm : permutedRoutes.Perm routes) :
    collectAll ⟨localNodeId, observedAtTick, permutedNodes, permutedEdges, permutedRoutes⟩ =
      collectAll ⟨localNodeId, observedAtTick, nodes, edges, routes⟩ := by
  simp only [collectAll, insertAll_of_perm nodesPerm wellFormed.nodeIds,
    insertAll_of_perm edgesPerm wellFormed.edgeKeys,
    insertAll_of_perm routesPerm wellFormed.routeIds]

/-! ## Accepted topologies -/

/-- The builder returns the topology for some input. -/
def Accepted (topology : MeshTopology) : Prop :=
  ∃ builder : MeshTopologyBuilder, builder.build = .ok topology

theorem accepted_iff {topology : MeshTopology} : Accepted topology ↔
    WellKeyed topology ∧ Grounded topology ∧
      ∀ (routeId : RouteId) (route : ActiveRoute), topology.activeRoutes[routeId]? = some route →
        validateRoute route topology.nodes topology.edges = .ok () := by
  constructor
  · rintro ⟨builder, built⟩
    obtain ⟨wellFormed, rfl⟩ := build_eq_ok.mp built
    refine ⟨⟨keyedBy_insertAll, keyedBy_insertAll, keyedBy_insertAll⟩, ⟨?_, ?_⟩, ?_⟩
    · obtain ⟨node, member, own, isLocal⟩ := wellFormed.localNode
      exact ⟨node, (getElem?_insertAll_of_nodup wellFormed.nodeIds).mpr ⟨member, own⟩, isLocal⟩
    · intro key edge located
      have member := ((getElem?_insertAll_of_nodup wellFormed.edgeKeys).mp located).1
      have ends := wellFormed.edgeEnds edge member
      exact ⟨mem_collectedNodes.mpr ends.1, mem_collectedNodes.mpr ends.2⟩
    · intro routeId route located
      have member := ((getElem?_insertAll_of_nodup wellFormed.routeIds).mp located).1
      have ends := wellFormed.routeEnds route member
      apply validateRoute_eq_ok.mpr
      refine ⟨mem_collectedNodes.mpr ends.1, mem_collectedNodes.mpr ends.2, ?_⟩
      exact (deliveryAccepted_iff wellFormed.edgeKeys).mpr (wellFormed.deliveries route member)
  · rintro ⟨keyed, grounded, valid⟩
    exact ⟨builderOf topology, (build_builderOf keyed grounded).mpr valid⟩

/-! ## The calls of a builder -/

inductive BuilderCall
  | withNode (node : MeshNode)
  | withEdge (edge : MeshEdge)
  | withActiveRoute (route : ActiveRoute)

namespace BuilderCall

def apply (builder : MeshTopologyBuilder) : BuilderCall → MeshTopologyBuilder
  | withNode node => builder.withNode node
  | withEdge edge => builder.withEdge edge
  | withActiveRoute route => builder.withActiveRoute route

def node? : BuilderCall → Option MeshNode
  | withNode node => some node
  | _ => none

def edge? : BuilderCall → Option MeshEdge
  | withEdge edge => some edge
  | _ => none

def activeRoute? : BuilderCall → Option ActiveRoute
  | withActiveRoute route => some route
  | _ => none

end BuilderCall

/-- The builder after `new` and the calls. -/
def called (localNodeId : NodeId) (observedAtTick : Tick) (calls : List BuilderCall) :
    MeshTopologyBuilder :=
  calls.foldl BuilderCall.apply (.new localNodeId observedAtTick)

theorem called_eq (calls : List BuilderCall) : called localNodeId observedAtTick calls =
    ⟨localNodeId, observedAtTick, calls.filterMap BuilderCall.node?,
      calls.filterMap BuilderCall.edge?, calls.filterMap BuilderCall.activeRoute?⟩ := by
  have applied (builder : MeshTopologyBuilder) : calls.foldl BuilderCall.apply builder =
      { builder with
        nodes := builder.nodes ++ calls.filterMap BuilderCall.node?
        edges := builder.edges ++ calls.filterMap BuilderCall.edge?
        activeRoutes := builder.activeRoutes ++ calls.filterMap BuilderCall.activeRoute? } := by
    induction calls generalizing builder with
    | nil => simp
    | cons call rest ih =>
        rw [List.foldl_cons, ih]
        cases call <;> simp [List.filterMap_cons, BuilderCall.apply, BuilderCall.node?,
          BuilderCall.edge?, BuilderCall.activeRoute?, MeshTopologyBuilder.withNode,
          MeshTopologyBuilder.withEdge, MeshTopologyBuilder.withActiveRoute]
  rw [called, applied]
  rfl

/-- The maps hold the given items, each under its own key, and nothing else. -/
structure Contains (topology : MeshTopology) (nodes : List MeshNode) (edges : List MeshEdge)
    (routes : List ActiveRoute) : Prop where
  nodes : ∀ nodeId node, topology.nodes[nodeId]? = some node ↔ node ∈ nodes ∧ node.nodeId = nodeId
  edges : ∀ fromNodeId toNodeId edge, topology.edges[(fromNodeId, toNodeId)]? = some edge ↔
    edge ∈ edges ∧ edge.fromNodeId = fromNodeId ∧ edge.toNodeId = toNodeId
  activeRoutes : ∀ routeId route, topology.activeRoutes[routeId]? = some route ↔
    route ∈ routes ∧ route.routeId = routeId

theorem build_of_perm (localNodeId : NodeId) (observedAtTick : Tick)
    {permuted calls : List BuilderCall} {topology : MeshTopology} (perm : permuted.Perm calls)
    (built : (called localNodeId observedAtTick calls).build = .ok topology) :
    (called localNodeId observedAtTick permuted).build = .ok topology := by
  rw [called_eq] at built ⊢
  obtain ⟨wellFormed, rfl⟩ := build_eq_ok.mp built
  apply build_eq_ok.mpr
  constructor
  · exact wellFormed.of_perm (perm.symm.filterMap _) (perm.symm.filterMap _)
      (perm.symm.filterMap _)
  · symm
    apply collectAll_of_perm wellFormed
    · exact perm.filterMap _
    · exact perm.filterMap _
    · exact perm.filterMap _

/-- The builder accepts the well-formed inputs and no others, keeps every item it was given, and
makes the same topology of the same calls in every order. -/
theorem build_accepts_exactly_wellFormedInput (localNodeId : NodeId) (observedAtTick : Tick)
    (calls : List BuilderCall) :
    ((∃ topology, (called localNodeId observedAtTick calls).build = .ok topology) ↔
      WellFormedInput localNodeId (calls.filterMap BuilderCall.node?)
        (calls.filterMap BuilderCall.edge?) (calls.filterMap BuilderCall.activeRoute?)) ∧
    (∀ topology, (called localNodeId observedAtTick calls).build = .ok topology →
      topology.localNodeId = localNodeId ∧ topology.observedAtTick = observedAtTick ∧
        Contains topology (calls.filterMap BuilderCall.node?)
          (calls.filterMap BuilderCall.edge?) (calls.filterMap BuilderCall.activeRoute?)) ∧
    ∀ permuted : List BuilderCall, permuted.Perm calls →
      (called localNodeId observedAtTick permuted).build.toOption =
        (called localNodeId observedAtTick calls).build.toOption := by
  refine ⟨?_, ?_, ?_⟩
  · rw [called_eq]
    constructor
    · rintro ⟨topology, built⟩
      exact (build_eq_ok.mp built).1
    · intro wellFormed
      exact ⟨_, build_eq_ok.mpr ⟨wellFormed, rfl⟩⟩
  · intro topology built
    rw [called_eq] at built
    obtain ⟨wellFormed, rfl⟩ := build_eq_ok.mp built
    refine ⟨rfl, rfl, ?_⟩
    constructor
    · intro nodeId node
      exact getElem?_insertAll_of_nodup wellFormed.nodeIds
    · intro fromNodeId toNodeId edge
      apply (getElem?_insertAll_of_nodup wellFormed.edgeKeys).trans
      simp only [MeshEdge.key, Prod.mk.injEq]
    · intro routeId route
      exact getElem?_insertAll_of_nodup wellFormed.routeIds
  · intro permuted perm
    cases built : (called localNodeId observedAtTick calls).build with
    | ok topology => rw [build_of_perm localNodeId observedAtTick perm built]
    | error error =>
        cases other : (called localNodeId observedAtTick permuted).build with
        | error error => rfl
        | ok topology =>
            have back := build_of_perm localNodeId observedAtTick perm.symm other
            rw [built] at back
            cases back

/-! ## Routes back to their owner -/

/-- A built topology has no self-route but the local ones exactly when no given route is `Direct`
with its own owner as the next hop. Such a route passes over an edge from the node to itself. -/
theorem self_routes_are_local_iff {builder : MeshTopologyBuilder} {topology : MeshTopology}
    (built : builder.build = .ok topology) :
    (∀ (routeId : RouteId) (route : ActiveRoute), topology.activeRoutes[routeId]? = some route →
      (route.terminalNodeId = route.ownerNodeId ↔ route.delivery = .local)) ↔
    ∀ route ∈ builder.activeRoutes, route.delivery ≠ .direct route.ownerNodeId := by
  obtain ⟨wellFormed, rfl⟩ := build_eq_ok.mp built
  have located (routeId : RouteId) (route : ActiveRoute) :
      (collectAll builder).activeRoutes[routeId]? = some route ↔
        route ∈ builder.activeRoutes ∧ route.routeId = routeId :=
    getElem?_insertAll_of_nodup wellFormed.routeIds
  constructor
  · intro localOnly route member direct
    have rule := wellFormed.deliveries route member
    unfold DeliveryRule at rule
    rw [direct] at rule
    have isLocal := (localOnly route.routeId route ((located _ _).mpr ⟨member, rfl⟩)).mp rule.1.symm
    rw [direct] at isLocal
    cases isLocal
  · intro never routeId route found
    have member := ((located routeId route).mp found).1
    have rule := wellFormed.deliveries route member
    have given := never route member
    unfold DeliveryRule at rule
    cases delivery : route.delivery with
    | «local» =>
        rw [delivery] at rule
        exact ⟨fun _ => rfl, fun _ => rule.1.symm⟩
    | direct nextHopNodeId =>
        rw [delivery] at rule given
        have next := rule.1
        constructor
        · intro own
          exact absurd (by rw [next, own]) given
        · nofun
    | reachable hopCountHint =>
        rw [delivery] at rule
        constructor
        · intro own
          exact absurd own.symm rule.2
        · nofun

namespace Scenario
open LinkProfile.Scenario

def meshNode (byte : UInt8) : MeshNode :=
  ⟨node byte, if byte = 1 then .local else .remote, ⟨⟨(node byte).bytes⟩, 0, 0⟩⟩

def gattLink : Link where
  endpoint := ⟨.bleGatt, .scopedBytes "ble" [1], 512⟩
  rttEstimateMs := 0
  repair := .transportRetransmit
  recovery := .localReconnect
  state := .active
  observation := none
  quality := none

def meshEdge (source target : UInt8) : MeshEdge :=
  ⟨node source, node target, ⟨gattLink, .local, .directObservation, .unauthenticated, 1⟩⟩

def directRoute (owner terminal : UInt8) : ActiveRoute where
  routeId := ⟨Vector.replicate 16 7⟩
  ownerNodeId := node owner
  destination := .node (node terminal)
  terminalNodeId := node terminal
  engine := ⟨0⟩
  shapeVisibility := .explicitPath
  protocolMix := [.bleGatt]
  deliveryMode := .unicast
  multicastGroupId := none
  multicastReceivers := []
  delivery := .direct (node terminal)
  observedAtTick := 1

def neighbor : MeshTopologyBuilder :=
  ⟨node 1, 1, [meshNode 1, meshNode 2], [meshEdge 1 2], [directRoute 1 2]⟩

def selfEdge : MeshTopologyBuilder := ⟨node 1, 1, [meshNode 1], [meshEdge 1 1], [directRoute 1 1]⟩

end Scenario

theorem self_routes_are_local_neighbor : ∃ topology, Scenario.neighbor.build = .ok topology ∧
    ∀ (routeId : RouteId) (route : ActiveRoute), topology.activeRoutes[routeId]? = some route →
      (route.terminalNodeId = route.ownerNodeId ↔ route.delivery = .local) := by
  have built : Scenario.neighbor.build = .ok (collectAll Scenario.neighbor) := by decide +kernel
  exact ⟨_, built, (self_routes_are_local_iff built).mpr (by decide +kernel)⟩

theorem direct_self_route_builds :
    ¬ ∀ (builder : MeshTopologyBuilder) (topology : MeshTopology), builder.build = .ok topology →
      ∀ (routeId : RouteId) (route : ActiveRoute), topology.activeRoutes[routeId]? = some route →
        (route.terminalNodeId = route.ownerNodeId ↔ route.delivery = .local) := by
  intro localOnly
  have built : Scenario.selfEdge.build = .ok (collectAll Scenario.selfEdge) := by decide +kernel
  have found : (collectAll Scenario.selfEdge).activeRoutes[(Scenario.directRoute 1 1).routeId]? =
      some (Scenario.directRoute 1 1) := by decide +kernel
  have isLocal := (localOnly _ _ built _ _ found).mp rfl
  cases isLocal

end JqBle.Proof.NodeProfile
