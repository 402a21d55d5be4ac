import JqBle.Client.Projector
import JqBle.Proof.NodeProfile.Topology
import JqBle.Proof.LinkProfile.Scenario

/-!
# Projected snapshots and the builder's rules

The projector and the builder each say what a well-formed topology is. Along every run the snapshot
is well keyed, has the local node and no dangling edge; its routes are the one place where the two
disagree.
-/

namespace JqBle.Proof.Client
open Std Host Library EntryMap Execution JqBle.NodeProfile JqBle.Client NodeProfile

variable {π : Type} {preset : NodePreset} {localNodeId : NodeId}
  {projector : TopologyProjector π} {configuration : Configuration}
  {route : ObservedRoute} {terminal : NodeId}

/-! ## Observations -/

theorem bumpTopologyTick_unchanged {tick : Tick}
    (unchanged : (projector.bumpTopologyTick tick).2 = false) :
    (projector.bumpTopologyTick tick).1 = projector := by
  unfold TopologyProjector.bumpTopologyTick at unchanged ⊢
  split at unchanged
  · cases unchanged
  · rename_i late
    rw [if_neg late]

theorem ensureRemoteNode_unchanged {remoteNodeId : NodeId} {endpoint : LinkEndpoint} {tick : Tick}
    (unchanged : (projector.ensureRemoteNode preset remoteNodeId endpoint tick).2 = false) :
    (projector.ensureRemoteNode preset remoteNodeId endpoint tick).1 = projector := by
  unfold TopologyProjector.ensureRemoteNode at unchanged ⊢
  split at unchanged
  · rename_i known
    rw [if_pos known]
  · cases unchanged

theorem recordLink_unchanged {remoteNodeId : NodeId} {observation : Observation Link}
    (unchanged : (projector.recordLink remoteNodeId observation).2 = false) :
    (projector.recordLink remoteNodeId observation).1 = projector := by
  simp only [TopologyProjector.recordLink, decide_eq_false_iff_not, not_or, not_not] at unchanged ⊢
  rw [EntryMap.insert_of_getElem? unchanged.1, EntryMap.insert_of_getElem? unchanged.2]

theorem observe_unchanged {observation : TransportObservation}
    (unchanged : (projector.observe preset observation).2 = false) :
    (projector.observe preset observation).1 = projector := by
  cases observation with
  | payloadReceived fromNodeId endpoint payload tick => exact bumpTopologyTick_unchanged unchanged
  | linkObserved remoteNodeId observation =>
      simp only [TopologyProjector.observe, Bool.or_eq_false_iff] at unchanged ⊢
      obtain ⟨⟨bumped, ensured⟩, recorded⟩ := unchanged
      rw [recordLink_unchanged recorded, ensureRemoteNode_unchanged ensured,
        bumpTopologyTick_unchanged bumped]

theorem bumpTopologyTick_fst (projector : TopologyProjector π) (tick : Tick) :
    ∃ later : Tick, (projector.bumpTopologyTick tick).1 =
      { projector with topology := { projector.topology with observedAtTick := later } } := by
  unfold TopologyProjector.bumpTopologyTick
  split
  · exact ⟨tick, rfl⟩
  · exact ⟨projector.topology.observedAtTick, rfl⟩

theorem ensureRemoteNode_fst (projector : TopologyProjector π) (preset : NodePreset)
    (remoteNodeId : NodeId) (endpoint : LinkEndpoint) (tick : Tick) :
    ∃ nodes : ExtTreeMap NodeId Node, remoteNodeId ∈ nodes ∧
      (∀ nodeId ∈ projector.topology.value.nodes, nodeId ∈ nodes) ∧
      (projector.ensureRemoteNode preset remoteNodeId endpoint tick).1 =
        { projector with topology := { projector.topology with
            value := { projector.topology.value with nodes := nodes } } } := by
  unfold TopologyProjector.ensureRemoteNode
  split
  · rename_i known
    exact ⟨projector.topology.value.nodes, known, fun _ member => member, rfl⟩
  · exact ⟨_, ExtTreeMap.mem_insert_self, fun _ member => ExtTreeMap.mem_insert.mpr (Or.inr member),
      rfl⟩

inductive ObserveEffect (projector : TopologyProjector π) :
    TransportObservation → TopologyProjector π → Prop
  | payload (fromNodeId : NodeId) (endpoint : LinkEndpoint) (payload : List UInt8)
      (tick later : Tick) :
      ObserveEffect projector (.payloadReceived fromNodeId endpoint payload tick)
        { projector with topology := { projector.topology with observedAtTick := later } }
  | link (remoteNodeId : NodeId) (observation : Observation Link) (later : Tick)
      (nodes : ExtTreeMap NodeId Node) (remote : remoteNodeId ∈ nodes)
      (kept : ∀ nodeId ∈ projector.topology.value.nodes, nodeId ∈ nodes) :
      ObserveEffect projector (.linkObserved remoteNodeId observation)
        { projector with
          topology := { projector.topology with
            observedAtTick := later
            value := { projector.topology.value with
              nodes := nodes
              links := projector.topology.value.links.insert
                (projector.snapshot.localNodeId, remoteNodeId) observation.value } }
          edgeObservations := projector.edgeObservations.insert
            (projector.snapshot.localNodeId, remoteNodeId) observation }

theorem observeEffect (projector : TopologyProjector π) (preset : NodePreset)
    (observation : TransportObservation) :
    ObserveEffect projector observation (projector.observe preset observation).1 := by
  cases observation with
  | payloadReceived fromNodeId endpoint payload tick =>
      obtain ⟨later, bumped⟩ := bumpTopologyTick_fst projector tick
      rw [TopologyProjector.observe, bumped]
      exact .payload ..
  | linkObserved remoteNodeId observation =>
      obtain ⟨later, bumped⟩ := bumpTopologyTick_fst projector observation.observedAtTick
      obtain ⟨nodes, remote, kept, ensured⟩ := ensureRemoteNode_fst
        (projector.bumpTopologyTick observation.observedAtTick).1 preset remoteNodeId
        observation.value.endpoint observation.observedAtTick
      simp only [TopologyProjector.observe, ensured]
      rw [bumped] at kept ⊢
      exact .link remoteNodeId observation later nodes remote kept

/-! ## The invariant of the projector -/

def NoDanglingLinks (configuration : Configuration) : Prop :=
  ∀ key : NodeId × NodeId, key ∈ configuration.links →
    key.1 ∈ configuration.nodes ∧ key.2 ∈ configuration.nodes

structure Rooted (localNodeId : NodeId) (configuration : Configuration) : Prop where
  localNode : localNodeId ∈ configuration.nodes
  links : NoDanglingLinks configuration

theorem Rooted.observe (rooted : Rooted localNodeId projector.topology.value)
    (own : projector.snapshot.localNodeId = localNodeId) (preset : NodePreset)
    (observation : TransportObservation) :
    Rooted localNodeId (projector.observe preset observation).1.topology.value := by
  have effect := observeEffect projector preset observation
  generalize (projector.observe preset observation).1 = observed at effect
  cases effect with
  | payload fromNodeId endpoint payload tick later => exact rooted
  | link remoteNodeId observation later nodes remote kept =>
      refine ⟨kept _ rooted.localNode, ?_⟩
      intro key member
      simp only [ExtTreeMap.mem_insert, Std.compare_eq_iff_eq, own] at member
      rcases member with rfl | known
      · exact ⟨kept _ rooted.localNode, remote⟩
      · obtain ⟨source, target⟩ := rooted.links key known
        exact ⟨kept _ source, kept _ target⟩

variable [HostTopologyProjector π]

/-- The host projector shows the configuration, the edge observations are those of its links, and the
snapshot is made from both. -/
structure Projected (localNodeId : NodeId) (projector : TopologyProjector π) : Prop where
  shown : (HostTopologyProjector.snapshot projector.hostProjector).localNodeId = localNodeId
  copies : (HostTopologyProjector.snapshot projector.hostProjector).Copies projector.topology
  edgeObservations : ∀ key : NodeId × NodeId,
    projector.edgeObservations[key]?.map Observation.value = projector.topology.value.links[key]?
  snapshot : projector.snapshot = meshSnapshotFrom projector.edgeObservations
    (HostTopologyProjector.snapshot projector.hostProjector)

theorem Projected.snapshot_localNodeId (projected : Projected localNodeId projector) :
    projector.snapshot.localNodeId = localNodeId := by
  rw [projected.snapshot, ← projected.shown]
  rfl

theorem refreshSnapshot_fst : projector.refreshSnapshot.1 =
    { projector with
      snapshot := meshSnapshotFrom projector.edgeObservations
        (HostTopologyProjector.snapshot projector.hostProjector) } := by
  simp only [TopologyProjector.refreshSnapshot]
  split
  · rename_i same
    rw [same]
  · rfl

theorem Projected.rerouted {host : π} (projected : Projected localNodeId projector)
    (kept : { HostTopologyProjector.snapshot host with
      activeRoutes := (HostTopologyProjector.snapshot projector.hostProjector).activeRoutes } =
        HostTopologyProjector.snapshot projector.hostProjector) :
    Projected localNodeId (TopologyProjector.refreshSnapshot
      { projector with hostProjector := host }).1 := by
  have shown := congrArg TopologySnapshot.localNodeId kept
  have ticks := congrArg TopologySnapshot.observedAtTick kept
  have nodes := congrArg TopologySnapshot.nodes kept
  have links := congrArg TopologySnapshot.links kept
  simp only at shown ticks nodes links
  rw [refreshSnapshot_fst]
  refine ⟨shown.trans projected.shown, ?_, projected.edgeObservations, rfl⟩
  exact ⟨ticks.trans projected.copies.observedAtTick,
    fun nodeId => by rw [nodes]; exact projected.copies.nodes nodeId,
    fun key => by rw [links]; exact projected.copies.links key⟩

theorem Projected.ingestTransportObservation (projected : Projected localNodeId projector)
    (preset : NodePreset) (observation : TransportObservation) :
    Projected localNodeId (projector.ingestTransportObservation preset observation).1 := by
  rw [TopologyProjector.ingestTransportObservation]
  split
  · have effect := observeEffect projector preset observation
    generalize (projector.observe preset observation).1 = observed at effect
    rw [refreshSnapshot_fst]
    cases effect with
    | payload fromNodeId endpoint payload tick later =>
        exact ⟨(HostTopologyProjector.localNodeId_ingestTopology ..).trans projected.shown,
          HostTopologyProjector.copies_ingestTopology .., projected.edgeObservations, rfl⟩
    | link remoteNodeId observation later nodes remote kept =>
        refine ⟨(HostTopologyProjector.localNodeId_ingestTopology ..).trans projected.shown,
          HostTopologyProjector.copies_ingestTopology .., ?_, rfl⟩
        intro key
        simp only [EntryMap.getElem?_insert]
        split
        · rfl
        · exact projected.edgeObservations key
  · rename_i unchanged
    rw [observe_unchanged (by simpa using unchanged)]
    exact projected

theorem Projected.step {input : ProjectorInput} (projected : Projected localNodeId projector) :
    Projected localNodeId (projector.step preset input) := by
  cases input with
  | transportObservation observation => exact projected.ingestTransportObservation preset observation
  | materializedRoute route =>
      exact projected.rerouted (HostTopologyProjector.kept_ingestMaterializedRoute ..)
  | roundOutcome outcome =>
      exact projected.rerouted (HostTopologyProjector.kept_ingestRoundOutcome ..)
  | engineCapabilities capabilities =>
      exact projected.rerouted (HostTopologyProjector.kept_ingestEngineCapabilities ..)

theorem projected_new (localNodeId : NodeId) (initial : Observation Configuration) :
    Projected localNodeId (TopologyProjector.new localNodeId initial : TopologyProjector π) where
  shown := HostTopologyProjector.localNodeId_new ..
  copies := HostTopologyProjector.copies_new ..
  edgeObservations key := by
    simp only [TopologyProjector.new, ExtTreeMap.getElem?_map]
    cases initial.value.links[key]? <;> rfl
  snapshot := rfl

theorem Rooted.step {input : ProjectorInput} (projected : Projected localNodeId projector)
    (rooted : Rooted localNodeId projector.topology.value) :
    Rooted localNodeId (projector.step preset input).topology.value := by
  cases input with
  | transportObservation observation =>
      have observed := rooted.observe projected.snapshot_localNodeId preset observation
      simp only [TopologyProjector.step, TopologyProjector.ingestTransportObservation]
      split
      · rw [refreshSnapshot_fst]
        exact observed
      · exact observed
  | materializedRoute route =>
      simpa [TopologyProjector.step, TopologyProjector.ingestMaterializedRoute,
        refreshSnapshot_fst] using rooted
  | roundOutcome outcome =>
      simpa [TopologyProjector.step, TopologyProjector.ingestRoundOutcome,
        refreshSnapshot_fst] using rooted
  | engineCapabilities capabilities =>
      simpa [TopologyProjector.step, TopologyProjector.ingestEngineCapabilities,
        refreshSnapshot_fst] using rooted

/-! ## The snapshot without its routes -/

def TopologyProjector.mesh (projector : TopologyProjector π) : MeshTopology :=
  meshWithoutRoutes projector.edgeObservations
    (HostTopologyProjector.snapshot projector.hostProjector)

theorem Projected.node (projected : Projected localNodeId projector) (nodeId : NodeId) :
    nodeId ∈ (TopologyProjector.mesh projector).nodes ↔
      nodeId ∈ projector.topology.value.nodes := by
  rw [← ExtTreeMap.isSome_getElem?_iff_mem, ← ExtTreeMap.isSome_getElem?_iff_mem,
    ← projected.copies.nodes nodeId, TopologyProjector.mesh, meshWithoutRoutes,
    ExtTreeMap.getElem?_map, Option.isSome_map, Option.isSome_map]

theorem Projected.edge (projected : Projected localNodeId projector) (key : NodeId × NodeId) :
    (TopologyProjector.mesh projector).edges[key]?.map (fun edge => edge.observation.value) =
      projector.topology.value.links[key]? := by
  have links := projected.copies.links key
  have observed := projected.edgeObservations key
  rw [← links] at observed ⊢
  rw [TopologyProjector.mesh, meshWithoutRoutes, ExtTreeMap.getElem?_map]
  cases shown : (HostTopologyProjector.snapshot projector.hostProjector).links[key]? with
  | none => rfl
  | some link =>
      rw [shown] at observed
      obtain ⟨observation, known, value⟩ := Option.map_eq_some_iff.mp observed
      simp [edgeObservationFrom, known, value]

theorem mesh_edge_key {key : NodeId × NodeId} {edge : MeshEdge}
    (located : (TopologyProjector.mesh projector).edges[key]? = some edge) : edge.key = key := by
  rw [TopologyProjector.mesh, meshWithoutRoutes, ExtTreeMap.getElem?_map] at located
  obtain ⟨link, -, rfl⟩ := Option.map_eq_some_iff.mp located
  rfl

theorem mesh_node_key {nodeId : NodeId} {node : MeshNode}
    (located : (TopologyProjector.mesh projector).nodes[nodeId]? = some node) :
    node.nodeId = nodeId ∧
      (nodeId = (TopologyProjector.mesh projector).localNodeId → node.role = .local) := by
  rw [TopologyProjector.mesh, meshWithoutRoutes, ExtTreeMap.getElem?_map] at located
  obtain ⟨observed, -, rfl⟩ := Option.map_eq_some_iff.mp located
  refine ⟨rfl, ?_⟩
  intro own
  simp [meshNodeFromObserved, own, TopologyProjector.mesh, meshWithoutRoutes]

theorem Projected.wellKeyed (projected : Projected localNodeId projector) :
    WellKeyed projector.snapshot := by
  rw [projected.snapshot]
  exact ⟨fun _ _ located => (mesh_node_key located).1, fun _ _ => mesh_edge_key, keyedBy_insertAll⟩

theorem Projected.grounded (projected : Projected localNodeId projector)
    (rooted : Rooted localNodeId projector.topology.value) : Grounded projector.snapshot := by
  rw [projected.snapshot]
  constructor
  · have present := (projected.node localNodeId).mpr rooted.localNode
    rw [← projected.shown] at present
    obtain ⟨node, located⟩ := Option.isSome_iff_exists.mp
      (ExtTreeMap.isSome_getElem?_iff_mem.mpr present)
    exact ⟨node, located, (mesh_node_key located).2 rfl⟩
  · intro key edge located
    have known : key ∈ projector.topology.value.links := by
      rw [← ExtTreeMap.isSome_getElem?_iff_mem, ← projected.edge key]
      change (TopologyProjector.mesh projector).edges[key]? = some edge at located
      simp [located]
    obtain ⟨source, target⟩ := rooted.links key known
    have same : edge.key = key := mesh_edge_key located
    rw [← same] at source target
    exact ⟨(projected.node _).mpr source, (projected.node _).mpr target⟩

/-! ## The routes -/

def Projectable (configuration : Configuration) (route : ObservedRoute) (terminal : NodeId) : Prop :=
  route.destination = .node terminal ∧ terminal ∈ configuration.nodes ∧
    route.ownerNodeId ∈ configuration.nodes

/-- The route stays on its node, is hinted to take several hops, or has a live direct link. -/
def Carried (configuration : Configuration) (route : ObservedRoute) (terminal : NodeId) : Prop :=
  route.ownerNodeId = terminal ∨ 1 < route.hopCountHint.getD 1 ∨
    ∃ link, configuration.links[(route.ownerNodeId, terminal)]? = some link ∧
      link.state ≠ .faulted

theorem projectObservedRoute_eq_none {topology : MeshTopology}
    (lost : ∀ terminal, route.destination = .node terminal → terminal ∈ topology.nodes →
      route.ownerNodeId ∉ topology.nodes) : projectObservedRoute topology route = none := by
  unfold projectObservedRoute
  split
  · rfl
  · rename_i terminal destination
    have missing : topology.node terminal = none ∨ topology.node route.ownerNodeId = none := by
      by_cases target : terminal ∈ topology.nodes
      · exact Or.inr (ExtTreeMap.getElem?_eq_none (lost terminal destination target))
      · exact Or.inl (ExtTreeMap.getElem?_eq_none target)
    simp [missing]

theorem validateRoute_activeRouteFor {topology : MeshTopology} {delivery : ActiveRouteDelivery}
    (target : terminal ∈ topology.nodes) (owner : route.ownerNodeId ∈ topology.nodes)
    (derived : deriveRouteDelivery topology route.ownerNodeId terminal
      (route.hopCountHint.getD 1) = some delivery) :
    validateRoute (activeRouteFor topology route terminal delivery) topology.nodes
        topology.edges = .ok () ↔
      route.ownerNodeId = terminal ∨ 1 < route.hopCountHint.getD 1 ∨
        ∃ edge, topology.edges[(route.ownerNodeId, terminal)]? = some edge ∧
          edge.observation.value.state ≠ .faulted := by
  rw [validateRoute_eq_ok]
  simp only [activeRouteFor, owner, target, true_and, DeliveryAccepted]
  unfold deriveRouteDelivery at derived
  split at derived
  · rename_i same
    obtain rfl := Option.some.inj derived
    simp [same, pathTransportMix]
  · rename_i different
    simp only at derived
    split at derived
    · rename_i direct
      obtain ⟨edge, located⟩ := Option.isSome_iff_exists.mp direct.1
      obtain ⟨located, live⟩ := Option.filter_eq_some_iff.mp located
      have known : topology.edges[(route.ownerNodeId, terminal)]? = some edge := located
      obtain rfl := Option.some.inj derived
      have mix : edge.transportKind ∈ (pathTransportMix topology (.direct terminal)
          route.ownerNodeId terminal).getD route.protocolMix := by
        simp [pathTransportMix, mixTransports, located, MeshEdge.transportKind]
      refine ⟨fun _ => Or.inr (Or.inr ⟨edge, known, by simpa using live⟩), fun _ => ?_⟩
      exact ⟨rfl, edge, known, mix⟩
    · rename_i routed
      obtain rfl := Option.some.inj derived
      have live : (∃ edge, topology.edges[(route.ownerNodeId, terminal)]? = some edge ∧
          edge.observation.value.state ≠ .faulted) → 1 < route.hopCountHint.getD 1 := by
        rintro ⟨edge, known, live⟩
        have shown : topology.edge route.ownerNodeId terminal = some edge := known
        by_contra short
        exact routed ⟨by simp [shown, live], by omega⟩
      simp only [different, false_or, ne_eq, not_false_eq_true, and_true]
      refine ⟨fun several => Or.inl (by omega), ?_⟩
      rintro (several | direct)
      · omega
      · have several := live direct
        omega

/-- A route between known nodes is always projected. The builder refuses what becomes of a route of at
most one hop whose direct edge is missing or faulted: it is reachable, over one hop. -/
theorem projectObservedRoute_eq_some {topology : MeshTopology}
    (destination : route.destination = .node terminal) (target : terminal ∈ topology.nodes)
    (owner : route.ownerNodeId ∈ topology.nodes) :
    ∃ active, projectObservedRoute topology route = some active ∧
      active.routeId = route.routeId ∧
      (validateRoute active topology.nodes topology.edges = .ok () ↔
        route.ownerNodeId = terminal ∨ 1 < route.hopCountHint.getD 1 ∨
          ∃ edge, topology.edges[(route.ownerNodeId, terminal)]? = some edge ∧
            edge.observation.value.state ≠ .faulted) := by
  obtain ⟨delivery, derived⟩ : ∃ delivery, deriveRouteDelivery topology route.ownerNodeId terminal
      (route.hopCountHint.getD 1) = some delivery := by
    unfold deriveRouteDelivery
    split
    · exact ⟨_, rfl⟩
    · simp only
      split <;> exact ⟨_, rfl⟩
  refine ⟨activeRouteFor topology route terminal delivery, ?_, rfl,
    validateRoute_activeRouteFor target owner derived⟩
  have known : ¬ ((topology.node terminal).isNone = true ∨
      (topology.node route.ownerNodeId).isNone = true) := by
    simp [MeshTopology.node, target, owner]
  simp only [projectObservedRoute, destination, if_neg known, derived, Option.map_some]

theorem Projected.carried_iff (projected : Projected localNodeId projector) :
    Carried projector.topology.value route terminal ↔
      route.ownerNodeId = terminal ∨ 1 < route.hopCountHint.getD 1 ∨
        ∃ edge, (TopologyProjector.mesh projector).edges[(route.ownerNodeId, terminal)]? =
          some edge ∧ edge.observation.value.state ≠ .faulted := by
  simp only [Carried, ← projected.edge, Option.map_eq_some_iff]
  grind

/-- Of the active routes that the generic projector shows, every one between known nodes is carried,
unless a later one of the same id takes its place. -/
def RoutesCarried (projector : TopologyProjector π) : Prop :=
  ∀ earlier route later terminal,
    inOrder (HostTopologyProjector.snapshot projector.hostProjector).activeRoutes =
      earlier ++ route :: later →
    Projectable projector.topology.value route terminal →
    (∀ next ∈ later, ∀ target, Projectable projector.topology.value next target →
      next.routeId ≠ route.routeId) →
    Carried projector.topology.value route terminal

theorem Projected.projected_cases (projected : Projected localNodeId projector)
    {active : ActiveRoute}
    (shown : projectObservedRoute (TopologyProjector.mesh projector) route = some active) :
    active.routeId = route.routeId ∧ ∃ terminal,
      Projectable projector.topology.value route terminal ∧
      (validateRoute active (TopologyProjector.mesh projector).nodes
          (TopologyProjector.mesh projector).edges = .ok () ↔
        Carried projector.topology.value route terminal) := by
  by_cases projectable : ∃ terminal, Projectable projector.topology.value route terminal
  · obtain ⟨terminal, destination, target, owner⟩ := projectable
    obtain ⟨other, found, sameId, valid⟩ := projectObservedRoute_eq_some destination
      ((projected.node _).mpr target) ((projected.node _).mpr owner)
    obtain rfl := Option.some.inj (found.symm.trans shown)
    exact ⟨sameId, terminal, ⟨destination, target, owner⟩, valid.trans projected.carried_iff.symm⟩
  · rw [projectObservedRoute_eq_none] at shown
    · cases shown
    · intro terminal destination target owner
      rw [projected.node] at target owner
      exact projectable ⟨terminal, destination, target, owner⟩

theorem Projected.shown_of_projectable (projected : Projected localNodeId projector)
    (projectable : Projectable projector.topology.value route terminal) :
    ∃ active, projectObservedRoute (TopologyProjector.mesh projector) route = some active := by
  obtain ⟨destination, target, owner⟩ := projectable
  obtain ⟨active, shown, -, -⟩ := projectObservedRoute_eq_some destination
    ((projected.node _).mpr target) ((projected.node _).mpr owner)
  exact ⟨active, shown⟩

theorem Projected.activeRoute_iff (projected : Projected localNodeId projector)
    {routeId : RouteId} {active : ActiveRoute} :
    projector.snapshot.activeRoutes[routeId]? = some active ↔
      ∃ earlier route later,
        inOrder (HostTopologyProjector.snapshot projector.hostProjector).activeRoutes =
          earlier ++ route :: later ∧
        projectObservedRoute (TopologyProjector.mesh projector) route = some active ∧
        active.routeId = routeId ∧
        ∀ next ∈ later, ∀ shown,
          projectObservedRoute (TopologyProjector.mesh projector) next = some shown →
            shown.routeId ≠ routeId := by
  have collected : projector.snapshot.activeRoutes = insertAll ActiveRoute.routeId ∅
      (projectRoutes (TopologyProjector.mesh projector)
        (HostTopologyProjector.snapshot projector.hostProjector).activeRoutes) := by
    rw [projected.snapshot]
    rfl
  rw [collected, getElem?_insertAll_empty, projectRoutes]
  constructor
  · rintro ⟨earlier, later, split, own, others⟩
    obtain ⟨first, second, whole, -, tail⟩ := List.filterMap_eq_append_iff.mp split
    obtain ⟨hidden, route, rest, rfl, -, found, rfl⟩ := List.filterMap_eq_cons_iff.mp tail
    refine ⟨first ++ hidden, route, rest, by rw [whole]; simp, found, own, ?_⟩
    intro next member shown image
    exact others shown (List.mem_filterMap.mpr ⟨next, member, image⟩)
  · rintro ⟨earlier, route, later, split, found, own, others⟩
    let shown := projectObservedRoute (TopologyProjector.mesh projector)
    refine ⟨earlier.filterMap shown, later.filterMap shown, ?_, own, ?_⟩
    · rw [split, List.filterMap_append, List.filterMap_cons_some found]
    · intro shown member
      obtain ⟨next, present, image⟩ := List.mem_filterMap.mp member
      exact others next present shown image

theorem Projected.build_iff (projected : Projected localNodeId projector)
    (rooted : Rooted localNodeId projector.topology.value) :
    (builderOf projector.snapshot).build = .ok projector.snapshot ↔ RoutesCarried projector := by
  have nodes : projector.snapshot.nodes = (TopologyProjector.mesh projector).nodes := by
    rw [projected.snapshot]
    rfl
  have edges : projector.snapshot.edges = (TopologyProjector.mesh projector).edges := by
    rw [projected.snapshot]
    rfl
  rw [build_builderOf projected.wellKeyed (projected.grounded rooted), nodes, edges]
  constructor
  · intro valid earlier route later terminal split projectable others
    obtain ⟨active, shown⟩ := projected.shown_of_projectable projectable
    obtain ⟨sameId, target, ⟨destination, -, -⟩, accepted⟩ := projected.projected_cases shown
    obtain rfl : terminal = target := by
      rw [projectable.1] at destination
      exact DestinationId.node.inj destination
    refine accepted.mp (valid active.routeId active (projected.activeRoute_iff.mpr
      ⟨earlier, route, later, split, shown, rfl, ?_⟩))
    intro next member other image
    obtain ⟨otherId, otherTarget, otherProjectable, -⟩ := projected.projected_cases image
    rw [otherId, sameId]
    exact others next member otherTarget otherProjectable
  · intro carried routeId active located
    obtain ⟨earlier, route, later, split, shown, rfl, others⟩ :=
      projected.activeRoute_iff.mp located
    obtain ⟨sameId, terminal, projectable, accepted⟩ := projected.projected_cases shown
    refine accepted.mpr (carried earlier route later terminal split projectable ?_)
    intro next member target nextProjectable
    obtain ⟨other, image⟩ := projected.shown_of_projectable nextProjectable
    obtain ⟨otherId, -, -, -⟩ := projected.projected_cases image
    rw [← otherId, ← sameId]
    exact others next member other image

theorem projected_run (initial : Observation Configuration) (inputs : List ProjectorInput) :
    Projected localNodeId (exec (TopologyProjector.step preset)
      (TopologyProjector.new localNodeId initial : TopologyProjector π) inputs) := by
  refine exec_always (projected_new localNodeId initial) ?_ inputs
  intro projector input projected
  exact projected.step

theorem rooted_run {initial : Observation Configuration} (rooted : Rooted localNodeId initial.value)
    (inputs : List ProjectorInput) :
    Rooted localNodeId (exec (TopologyProjector.step preset)
      (TopologyProjector.new localNodeId initial : TopologyProjector π) inputs).topology.value := by
  induction inputs using List.reverseRecOn with
  | nil => exact rooted
  | append_singleton before input ih =>
      rw [exec_snoc]
      exact ih.step (projected_run initial before)

/-- In every reachable state the builder gives the snapshot back exactly when the active routes are
carried. -/
theorem snapshot_builds_iff_routes_carried {initial : Observation Configuration}
    (present : localNodeId ∈ initial.value.nodes) (links : NoDanglingLinks initial.value)
    (inputs : List ProjectorInput) :
    let projector := exec (TopologyProjector.step preset)
      (TopologyProjector.new localNodeId initial : TopologyProjector π) inputs
    (builderOf projector.snapshot).build = .ok projector.snapshot ↔ RoutesCarried projector :=
  (projected_run initial inputs).build_iff (rooted_run ⟨present, links⟩ inputs)

/-! ## A route that outlives its link -/

namespace Scenario
open JqBle.Proof.LinkProfile.Scenario

def plainPreset : NodePreset := fun _ controllerId _ _ => ⟨controllerId, 0, 0⟩

def firstTopology : Observation Configuration :=
  initialTopology plainPreset (fun kind bytes mtu => ⟨kind, .scopedBytes "" bytes, mtu⟩) (node 1) 1

theorem firstTopology_present : node 1 ∈ firstTopology.value.nodes := by decide +kernel

theorem firstTopology_links : NoDanglingLinks firstTopology.value := by
  intro key member
  exact absurd member ExtTreeMap.not_mem_empty

def linkIn (state : LinkRuntimeState) (kind : TransportKind) : Link where
  endpoint := ⟨kind, .scopedBytes "ble" [1], 512⟩
  rttEstimateMs := 0
  repair := .transportRetransmit
  recovery := .localReconnect
  state := state
  observation := none
  quality := none

def seeLink (state : LinkRuntimeState) (kind : TransportKind) (tick : Tick) :
    TransportObservation :=
  .linkObserved (node 2) ⟨linkIn state kind, .local, .directObservation, .unauthenticated, tick⟩

def neighborRoute : MaterializedRoute where
  routeId := ⟨Vector.replicate 16 7⟩
  backendRouteId := ⟨[]⟩
  observed := {
    routeId := ⟨Vector.replicate 16 7⟩
    ownerNodeId := node 1
    destination := .node (node 2)
    engineId := ⟨0⟩
    routeShape := .nextHopOnly
    hopCountHint := some 1
    protocolMix := []
    deliveryMode := .unicast
    lastValidatedAtTick := 2
    lifecycleUpdatedAtTick := 2 }

def projected (inputs : List ProjectorInput) : TopologyProjector CopyingProjector :=
  exec (TopologyProjector.step plainPreset) (.new (node 1) firstTopology) inputs

def routed : List ProjectorInput :=
  [.transportObservation (seeLink .active .bleGatt 2), .materializedRoute neighborRoute]

end Scenario

theorem faulted_link_leaves_rejected_route :
    let projector := Scenario.projected
      (Scenario.routed ++ [.transportObservation (Scenario.seeLink .faulted .bleGatt 3)])
    LinkProfile.Scenario.node 1 ∈ Scenario.firstTopology.value.nodes ∧
      NoDanglingLinks Scenario.firstTopology.value ∧
      (builderOf projector.snapshot).build =
        .error (.reachableDeliveryRequiresMultiHop Scenario.neighborRoute.routeId) := by
  refine ⟨Scenario.firstTopology_present, Scenario.firstTopology_links, ?_⟩
  decide +kernel

theorem live_link_route_builds :
    RoutesCarried (Scenario.projected Scenario.routed) ∧
      (builderOf (Scenario.projected Scenario.routed).snapshot).build =
        .ok (Scenario.projected Scenario.routed).snapshot := by
  have builds : (builderOf (Scenario.projected Scenario.routed).snapshot).build =
      .ok (Scenario.projected Scenario.routed).snapshot := by decide +kernel
  exact ⟨(snapshot_builds_iff_routes_carried Scenario.firstTopology_present
    Scenario.firstTopology_links Scenario.routed).mp builds, builds⟩

end JqBle.Proof.Client
