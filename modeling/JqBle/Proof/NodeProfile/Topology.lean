import JqBle.NodeProfile.Topology

/-!
# What the builder accepts
-/

namespace JqBle.Proof.NodeProfile
open Std Host Library EntryMap JqBle.NodeProfile

variable {topology : MeshTopology} {route : ActiveRoute} {nodes : ExtTreeMap NodeId MeshNode}
  {edges : ExtTreeMap (NodeId × NodeId) MeshEdge}

/-! ## Validation -/

def DeliveryAccepted (edges : ExtTreeMap (NodeId × NodeId) MeshEdge) (route : ActiveRoute) : Prop :=
  match route.delivery with
  | .local => route.ownerNodeId = route.terminalNodeId ∧ route.protocolMix = []
  | .direct nextHopNodeId => nextHopNodeId = route.terminalNodeId ∧
      ∃ edge, edges[(route.ownerNodeId, route.terminalNodeId)]? = some edge ∧
        edge.transportKind ∈ route.protocolMix
  | .reachable hopCountHint => 1 < hopCountHint ∧ route.ownerNodeId ≠ route.terminalNodeId

theorem validateEdge_eq_ok {edge : MeshEdge} :
    validateEdge nodes edge = .ok () ↔ edge.fromNodeId ∈ nodes ∧ edge.toNodeId ∈ nodes := by
  unfold validateEdge
  by_cases source : edge.fromNodeId ∈ nodes <;> by_cases target : edge.toNodeId ∈ nodes <;>
    simp [source, target]

theorem validateHopEdges_pair {owner terminal : NodeId} :
    validateHopEdges route edges [owner, terminal] = .ok () ↔
      ∃ edge, edges[(owner, terminal)]? = some edge ∧ edge.transportKind ∈ route.protocolMix := by
  simp only [validateHopEdges]
  cases edges[(owner, terminal)]? with
  | none => simp
  | some edge => by_cases mixed : edge.transportKind ∈ route.protocolMix <;> simp [mixed]

theorem validateRoute_eq_ok : validateRoute route nodes edges = .ok () ↔
    route.ownerNodeId ∈ nodes ∧ route.terminalNodeId ∈ nodes ∧ DeliveryAccepted edges route := by
  by_cases owner : route.ownerNodeId ∈ nodes
  · by_cases terminal : route.terminalNodeId ∈ nodes
    · unfold validateRoute DeliveryAccepted
      simp only [owner, terminal, not_true_eq_false, if_false, true_and]
      cases delivery : route.delivery with
      | «local» =>
          by_cases same : route.ownerNodeId = route.terminalNodeId <;>
            by_cases empty : route.protocolMix = [] <;> simp [same, empty]
      | direct nextHopNodeId =>
          by_cases next : nextHopNodeId = route.terminalNodeId
          · have hops : route.hopNodeIds = [route.ownerNodeId, route.terminalNodeId] := by
              simp [ActiveRoute.hopNodeIds, ActiveRouteDelivery.hopNodeIds, delivery]
            simp only [next, ne_eq, not_true_eq_false, if_false, true_and, hops]
            simp [validatePath, validateHopNodes, owner, terminal, validateHopEdges_pair]
          · simp [next]
      | reachable hopCountHint =>
          by_cases short : hopCountHint ≤ 1 <;>
            by_cases same : route.ownerNodeId = route.terminalNodeId <;> simp [short, same]
          all_goals omega
    · simp [validateRoute, owner, terminal]
  · simp [validateRoute, owner]

/-! ## Building a topology again -/

def builderOf (topology : MeshTopology) : MeshTopologyBuilder :=
  let builder := MeshTopologyBuilder.new topology.localNodeId topology.observedAtTick
  let builder := (inOrder topology.nodes).foldl .withNode builder
  let builder := (inOrder topology.edges).foldl .withEdge builder
  (inOrder topology.activeRoutes).foldl .withActiveRoute builder

theorem foldl_withNode (builder : MeshTopologyBuilder) (added : List MeshNode) :
    added.foldl .withNode builder = { builder with nodes := builder.nodes ++ added } := by
  induction added generalizing builder with
  | nil => simp
  | cons node rest ih => simp [ih, MeshTopologyBuilder.withNode]

theorem foldl_withEdge (builder : MeshTopologyBuilder) (added : List MeshEdge) :
    added.foldl .withEdge builder = { builder with edges := builder.edges ++ added } := by
  induction added generalizing builder with
  | nil => simp
  | cons edge rest ih => simp [ih, MeshTopologyBuilder.withEdge]

theorem foldl_withActiveRoute (builder : MeshTopologyBuilder) (added : List ActiveRoute) :
    added.foldl .withActiveRoute builder =
      { builder with activeRoutes := builder.activeRoutes ++ added } := by
  induction added generalizing builder with
  | nil => simp
  | cons route rest ih => simp [ih, MeshTopologyBuilder.withActiveRoute]

theorem builderOf_eq : builderOf topology =
    ⟨topology.localNodeId, topology.observedAtTick, inOrder topology.nodes,
      inOrder topology.edges, inOrder topology.activeRoutes⟩ := by
  simp [builderOf, foldl_withNode, foldl_withEdge, foldl_withActiveRoute, MeshTopologyBuilder.new]

structure WellKeyed (topology : MeshTopology) : Prop where
  nodes : KeyedBy MeshNode.nodeId topology.nodes
  edges : KeyedBy MeshEdge.key topology.edges
  activeRoutes : KeyedBy ActiveRoute.routeId topology.activeRoutes

structure Grounded (topology : MeshTopology) : Prop where
  localNode : ∃ node, topology.nodes[topology.localNodeId]? = some node ∧ node.role = .local
  edges : ∀ (key : NodeId × NodeId) (edge : MeshEdge), topology.edges[key]? = some edge →
    edge.fromNodeId ∈ topology.nodes ∧ edge.toNodeId ∈ topology.nodes

theorem WellKeyed.collectNodes (keyed : WellKeyed topology) (grounded : Grounded topology) :
    collectNodes (inOrder topology.nodes) topology.localNodeId = .ok topology.nodes := by
  obtain ⟨node, located, role⟩ := grounded.localNode
  have collected : insertUnique MeshNode.nodeId (fun _ => .ok ())
      (fun node => MeshTopologyBuildError.duplicateNode node.nodeId) ∅ (inOrder topology.nodes) =
        .ok topology.nodes :=
    (insertUnique_inOrder keyed.nodes).mpr ⟨fun _ _ _ => rfl, rfl⟩
  simp [JqBle.NodeProfile.collectNodes, collected, located, role]

theorem WellKeyed.collectEdges (keyed : WellKeyed topology) (grounded : Grounded topology) :
    collectEdges (inOrder topology.edges) topology.nodes = .ok topology.edges :=
  (insertUnique_inOrder keyed.edges).mpr
    ⟨fun key edge located => validateEdge_eq_ok.mpr (grounded.edges key edge located), rfl⟩

/-- A grounded topology is built again exactly when the builder accepts each of its routes. -/
theorem build_builderOf (keyed : WellKeyed topology) (grounded : Grounded topology) :
    (builderOf topology).build = .ok topology ↔
      ∀ (routeId : RouteId) (route : ActiveRoute), topology.activeRoutes[routeId]? = some route →
        validateRoute route topology.nodes topology.edges = .ok () := by
  have routes : collectRoutes (inOrder topology.activeRoutes) topology.nodes topology.edges =
      .ok topology.activeRoutes ↔
        ∀ (routeId : RouteId) (route : ActiveRoute),
          topology.activeRoutes[routeId]? = some route →
            validateRoute route topology.nodes topology.edges = .ok () := by
    apply (insertUnique_inOrder keyed.activeRoutes).trans
    simp
  rw [← routes, builderOf_eq]
  simp only [MeshTopologyBuilder.build, bind, Except.bind, pure, Except.pure,
    keyed.collectNodes grounded, keyed.collectEdges grounded]
  cases collectRoutes (inOrder topology.activeRoutes) topology.nodes topology.edges with
  | error error => simp
  | ok activeRoutes =>
      simp only [Except.ok.injEq]
      exact ⟨congrArg MeshTopology.activeRoutes, fun equal => by rw [equal]⟩

end JqBle.Proof.NodeProfile
