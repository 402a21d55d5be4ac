import JqBle.Demo.Topology
import JqBle.Proof.NodeProfile.Builder

/-!
# Sanitized topologies

The service shows the nodes the local node has an edge to, the edges it owns and the routes between
nodes it shows. Such a route may pass over an edge that is not shown.
-/

namespace JqBle.Proof.Demo
open Std Host Library EntryMap JqBle.NodeProfile JqBle.Demo JqBle.Proof.NodeProfile

variable {topology : MeshTopology} {nodeId : NodeId} {route : ActiveRoute}

/-! ## What is visible -/

def Visible (topology : MeshTopology) (nodeId : NodeId) : Prop :=
  nodeId = topology.localNodeId ∨ (topology.localNodeId, nodeId) ∈ topology.edges

theorem mem_foldl_visible (localNodeId : NodeId)
    (entries : List ((NodeId × NodeId) × MeshEdge)) (visible : ExtTreeSet NodeId) :
    nodeId ∈ entries.foldl (fun visible entry =>
        if entry.1.1 = localNodeId then visible.insert entry.1.2 else visible) visible ↔
      nodeId ∈ visible ∨ ∃ entry ∈ entries, entry.1 = (localNodeId, nodeId) := by
  induction entries generalizing visible with
  | nil => simp
  | cons entry rest ih =>
      obtain ⟨⟨source, target⟩, edge⟩ := entry
      rw [List.foldl_cons, ih]
      by_cases own : source = localNodeId
      · simp only [own, if_true, ExtTreeSet.mem_insert, Std.compare_eq_iff_eq, List.exists_mem_cons_iff,
          Prod.mk.injEq, true_and]
        rw [or_assoc, or_left_comm]
      · simp [own]

theorem mem_visibleNodeIds : nodeId ∈ visibleNodeIds topology ↔ Visible topology nodeId := by
  unfold visibleNodeIds Visible
  rw [ExtTreeMap.foldl_eq_foldl_toList, mem_foldl_visible, ExtTreeSet.mem_insert,
    Std.compare_eq_iff_eq]
  have edges : (∃ entry ∈ topology.edges.toList, entry.1 = (topology.localNodeId, nodeId)) ↔
      (topology.localNodeId, nodeId) ∈ topology.edges := by
    rw [ExtTreeMap.mem_iff_isSome_getElem?, Option.isSome_iff_exists]
    constructor
    · rintro ⟨⟨key, edge⟩, member, rfl⟩
      exact ⟨edge, ExtTreeMap.mem_toList_iff_getElem?_eq_some.mp member⟩
    · rintro ⟨edge, located⟩
      exact ⟨(_, edge), ExtTreeMap.mem_toList_iff_getElem?_eq_some.mpr located, rfl⟩
  rw [edges, eq_comm]
  simp

theorem sanitizeTopology_nodes {node : MeshNode} :
    (sanitizeTopology topology).nodes[nodeId]? = some node ↔
      topology.nodes[nodeId]? = some node ∧ Visible topology nodeId := by
  unfold sanitizeTopology
  dsimp only
  rw [getElem?_filter_eq_some, ExtTreeSet.contains_iff_mem, mem_visibleNodeIds]

theorem sanitizeTopology_edges {key : NodeId × NodeId} {edge : MeshEdge} :
    (sanitizeTopology topology).edges[key]? = some edge ↔
      topology.edges[key]? = some edge ∧ key.1 = topology.localNodeId := by
  unfold sanitizeTopology
  dsimp only
  rw [getElem?_filter_eq_some, decide_eq_true_eq]

theorem sanitizeTopology_activeRoutes {routeId : RouteId} :
    (sanitizeTopology topology).activeRoutes[routeId]? = some route ↔
      topology.activeRoutes[routeId]? = some route ∧
        Visible topology route.ownerNodeId ∧ Visible topology route.terminalNodeId := by
  unfold sanitizeTopology
  dsimp only
  rw [getElem?_filter_eq_some, Bool.and_eq_true, ExtTreeSet.contains_iff_mem,
    ExtTreeSet.contains_iff_mem, mem_visibleNodeIds, mem_visibleNodeIds]

theorem mem_sanitizeTopology_nodes : nodeId ∈ (sanitizeTopology topology).nodes ↔
    nodeId ∈ topology.nodes ∧ Visible topology nodeId := by
  rw [ExtTreeMap.mem_iff_isSome_getElem?, ExtTreeMap.mem_iff_isSome_getElem?,
    Option.isSome_iff_exists, Option.isSome_iff_exists]
  simp only [sanitizeTopology_nodes, exists_and_right]

theorem visible_sanitizeTopology :
    Visible (sanitizeTopology topology) nodeId ↔ Visible topology nodeId := by
  unfold Visible
  rw [ExtTreeMap.mem_iff_isSome_getElem?, ExtTreeMap.mem_iff_isSome_getElem?,
    Option.isSome_iff_exists, Option.isSome_iff_exists]
  simp only [sanitizeTopology_edges]
  simp [sanitizeTopology]

/-- What is shown of a shown topology is all of it. -/
theorem sanitizeTopology_idempotent (topology : MeshTopology) :
    sanitizeTopology (sanitizeTopology topology) = sanitizeTopology topology := by
  have nodes : (sanitizeTopology (sanitizeTopology topology)).nodes =
      (sanitizeTopology topology).nodes := by
    refine ExtTreeMap.ext_getElem? fun nodeId => Option.ext fun node => ?_
    rw [sanitizeTopology_nodes, visible_sanitizeTopology, sanitizeTopology_nodes]
    simp
  have edges : (sanitizeTopology (sanitizeTopology topology)).edges =
      (sanitizeTopology topology).edges := by
    refine ExtTreeMap.ext_getElem? fun key => Option.ext fun edge => ?_
    have localNode : (sanitizeTopology topology).localNodeId = topology.localNodeId := rfl
    rw [sanitizeTopology_edges, sanitizeTopology_edges, localNode]
    simp
  have activeRoutes : (sanitizeTopology (sanitizeTopology topology)).activeRoutes =
      (sanitizeTopology topology).activeRoutes := by
    refine ExtTreeMap.ext_getElem? fun routeId => Option.ext fun route => ?_
    rw [sanitizeTopology_activeRoutes, visible_sanitizeTopology, visible_sanitizeTopology,
      sanitizeTopology_activeRoutes]
    simp
  show MeshTopology.mk _ _ (sanitizeTopology (sanitizeTopology topology)).nodes
    (sanitizeTopology (sanitizeTopology topology)).edges
    (sanitizeTopology (sanitizeTopology topology)).activeRoutes = _
  rw [nodes, edges, activeRoutes]

/-! ## What the builder says of it -/

theorem wellKeyed_sanitizeTopology (keyed : WellKeyed topology) :
    WellKeyed (sanitizeTopology topology) := by
  constructor
  · intro nodeId node located
    exact keyed.nodes nodeId node (sanitizeTopology_nodes.mp located).1
  · intro key edge located
    exact keyed.edges key edge (sanitizeTopology_edges.mp located).1
  · intro routeId route located
    exact keyed.activeRoutes routeId route (sanitizeTopology_activeRoutes.mp located).1

theorem grounded_sanitizeTopology (keyed : WellKeyed topology) (grounded : Grounded topology) :
    Grounded (sanitizeTopology topology) := by
  constructor
  · obtain ⟨node, located, isLocal⟩ := grounded.localNode
    exact ⟨node, sanitizeTopology_nodes.mpr ⟨located, Or.inl rfl⟩, isLocal⟩
  · intro key edge located
    obtain ⟨found, own⟩ := sanitizeTopology_edges.mp located
    have ends := grounded.edges key edge found
    have filed : (edge.fromNodeId, edge.toNodeId) = key := keyed.edges key edge found
    subst filed
    constructor
    · exact mem_sanitizeTopology_nodes.mpr ⟨ends.1, Or.inl own⟩
    · refine mem_sanitizeTopology_nodes.mpr ⟨ends.2, Or.inr ?_⟩
      rw [ExtTreeMap.mem_iff_isSome_getElem?, ← own, found]
      rfl

/-- A shown route is valid among what is shown unless it is a `Direct` route of another node. -/
theorem validateRoute_sanitizeTopology
    (valid : validateRoute route topology.nodes topology.edges = .ok ())
    (owner : Visible topology route.ownerNodeId) (terminal : Visible topology route.terminalNodeId) :
    validateRoute route (sanitizeTopology topology).nodes (sanitizeTopology topology).edges =
        .ok () ↔
      ∀ nextHopNodeId, route.delivery = .direct nextHopNodeId →
        route.ownerNodeId = topology.localNodeId := by
  obtain ⟨ownerKnown, terminalKnown, accepted⟩ := validateRoute_eq_ok.mp valid
  rw [validateRoute_eq_ok, mem_sanitizeTopology_nodes, mem_sanitizeTopology_nodes]
  simp only [ownerKnown, owner, terminalKnown, terminal, and_self, true_and]
  unfold DeliveryAccepted at accepted ⊢
  cases delivery : route.delivery with
  | «local» =>
      rw [delivery] at accepted
      exact ⟨fun _ => nofun, fun _ => accepted⟩
  | direct nextHopNodeId =>
      rw [delivery] at accepted
      obtain ⟨next, edge, found, mixed⟩ := accepted
      simp only [sanitizeTopology_edges]
      constructor
      · rintro ⟨-, shown, ⟨-, own⟩, -⟩ _ -
        exact own
      · intro own
        exact ⟨next, edge, ⟨found, own nextHopNodeId rfl⟩, mixed⟩
  | reachable hopCountHint =>
      rw [delivery] at accepted
      exact ⟨fun _ => nofun, fun _ => accepted⟩

/-- Of an accepted topology the builder accepts what is shown exactly when every `Direct` route
between shown nodes is the local node's own. -/
theorem sanitizeTopology_wellFormed_iff (accepted : Accepted topology) :
    (Accepted (sanitizeTopology topology) ∧
      sanitizeTopology (sanitizeTopology topology) = sanitizeTopology topology) ↔
    ∀ (routeId : RouteId) (route : ActiveRoute) (nextHopNodeId : NodeId),
      topology.activeRoutes[routeId]? = some route → route.delivery = .direct nextHopNodeId →
        Visible topology route.ownerNodeId → Visible topology route.terminalNodeId →
          route.ownerNodeId = topology.localNodeId := by
  obtain ⟨keyed, grounded, valid⟩ := accepted_iff.mp accepted
  rw [and_iff_left (sanitizeTopology_idempotent topology), accepted_iff,
    and_iff_right (wellKeyed_sanitizeTopology keyed),
    and_iff_right (grounded_sanitizeTopology keyed grounded)]
  constructor
  · intro shownValid routeId route nextHopNodeId found direct owner terminal
    have shown := shownValid routeId route
      (sanitizeTopology_activeRoutes.mpr ⟨found, owner, terminal⟩)
    exact (validateRoute_sanitizeTopology (valid routeId route found) owner terminal).mp shown
      nextHopNodeId direct
  · intro own routeId route shown
    obtain ⟨found, owner, terminal⟩ := sanitizeTopology_activeRoutes.mp shown
    apply (validateRoute_sanitizeTopology (valid routeId route found) owner terminal).mpr
    intro nextHopNodeId direct
    exact own routeId route nextHopNodeId found direct owner terminal

namespace Scenario
open NodeProfile.Scenario

/-- Two neighbors of the local node with an edge and a `Direct` route between them. -/
def betweenNeighbors : MeshTopologyBuilder :=
  ⟨LinkProfile.Scenario.node 1, 1, [meshNode 1, meshNode 2, meshNode 3],
    [meshEdge 1 2, meshEdge 1 3, meshEdge 2 3], [directRoute 2 3]⟩

/-- A node behind the neighbor, which has the edge and a `Direct` route to it. -/
def behindNeighbor : MeshTopologyBuilder :=
  ⟨LinkProfile.Scenario.node 1, 1, [meshNode 1, meshNode 2, meshNode 3], [meshEdge 1 2, meshEdge 2 3],
    [directRoute 1 2, { directRoute 2 3 with routeId := ⟨Vector.replicate 16 8⟩ }]⟩

end Scenario

theorem sanitizeTopology_wellFormed_neighbor :
    let topology := collectAll Scenario.behindNeighbor
    let shown := sanitizeTopology topology
    (topology.nodes.size, topology.edges.size, topology.activeRoutes.size) = (3, 2, 2) ∧
      (shown.nodes.size, shown.edges.size, shown.activeRoutes.size) = (2, 1, 1) ∧
      Accepted shown ∧ sanitizeTopology shown = shown := by
  intro topology shown
  have built : Scenario.behindNeighbor.build = .ok topology := by decide +kernel
  refine ⟨by decide +kernel, by decide +kernel, ?_⟩
  apply (sanitizeTopology_wellFormed_iff ⟨_, built⟩).mpr
  intro routeId route nextHopNodeId found _ _ terminal
  have member := ((getElem?_insertAll_of_nodup (by decide)).mp found).1
  rcases List.mem_pair.mp member with rfl | rfl
  · rfl
  · -- The local node has no edge to the terminal.
    have hidden : LinkProfile.Scenario.node 3 ∉ visibleNodeIds topology := by decide +kernel
    exact absurd (mem_visibleNodeIds.mpr terminal) hidden

theorem sanitizeTopology_drops_edge_of_shown_route :
    ¬ ∀ topology : MeshTopology, Accepted topology → Accepted (sanitizeTopology topology) ∧
      sanitizeTopology (sanitizeTopology topology) = sanitizeTopology topology := by
  intro wellFormed
  let topology := collectAll Scenario.betweenNeighbors
  let route := NodeProfile.Scenario.directRoute 2 3
  have built : Scenario.betweenNeighbors.build = .ok topology := by decide +kernel
  have shown : (sanitizeTopology topology).activeRoutes[route.routeId]? = some route := by
    decide +kernel
  have rejected : validateRoute route (sanitizeTopology topology).nodes
      (sanitizeTopology topology).edges =
        .error (.routeMissingEdge route.routeId route.ownerNodeId route.terminalNodeId) := by
    decide +kernel
  have valid := (accepted_iff.mp (wellFormed topology ⟨_, built⟩).1).2.2 _ route shown
  rw [rejected] at valid
  cases valid

end JqBle.Proof.Demo
