import JqBle.Proof.Client.Publication

/-!
# The configuration that the router works on

The router is fed when the derived snapshot has changed. The snapshot shows the tick, the nodes and the
links of the configuration, and nothing else of it ever changes, so no change is missed.
-/

namespace JqBle.Proof.Client
open Std Host Library EntryMap Execution JqBle.NodeProfile JqBle.Client NodeProfile

variable {π : Type} [HostTopologyProjector π] {localNodeId : NodeId} {host : ClientHost}
  {projector other : TopologyProjector π} {task reached : ClientTask π}

/-! ## What the snapshot shows -/

theorem Projected.snapshot_tick (projected : Projected localNodeId projector) :
    projector.snapshot.observedAtTick = projector.topology.observedAtTick := by
  rw [projected.snapshot]
  exact projected.copies.observedAtTick

theorem Projected.snapshot_node (projected : Projected localNodeId projector) (nodeId : NodeId) :
    projector.snapshot.nodes[nodeId]?.map MeshNode.node = projector.topology.value.nodes[nodeId]? := by
  rw [projected.snapshot, ← projected.copies.nodes nodeId]
  simp only [meshSnapshotFrom, meshWithoutRoutes, ExtTreeMap.getElem?_map, Option.map_map]
  rfl

theorem Projected.snapshot_link (projected : Projected localNodeId projector)
    (key : NodeId × NodeId) :
    projector.snapshot.edges[key]?.map (fun edge => edge.observation.value) =
      projector.topology.value.links[key]? := by
  rw [projected.snapshot]
  exact projected.edge key

/-- The parts of the configuration that the snapshot does not show. -/
structure SameOrigin (first second : Observation Configuration) : Prop where
  epoch : first.value.epoch = second.value.epoch
  environment : first.value.environment = second.value.environment
  sourceClass : first.sourceClass = second.sourceClass
  evidenceClass : first.evidenceClass = second.evidenceClass
  originAuthentication : first.originAuthentication = second.originAuthentication

theorem Projected.topology_eq (first : Projected localNodeId projector)
    (second : Projected localNodeId other) (origin : SameOrigin projector.topology other.topology)
    (same : projector.snapshot = other.snapshot) : projector.topology = other.topology := by
  have ticks := first.snapshot_tick.symm.trans ((congrArg _ same).trans second.snapshot_tick)
  have nodes : projector.topology.value.nodes = other.topology.value.nodes := by
    refine ExtTreeMap.ext_getElem? fun nodeId => ?_
    rw [← first.snapshot_node, ← second.snapshot_node, same]
  have links : projector.topology.value.links = other.topology.value.links := by
    refine ExtTreeMap.ext_getElem? fun key => ?_
    rw [← first.snapshot_link, ← second.snapshot_link, same]
  obtain ⟨epoch, environment, sourceClass, evidenceClass, originAuthentication⟩ := origin
  generalize projector.topology = shown at *
  generalize other.topology = alsoShown at *
  obtain ⟨⟨_, _, _, _⟩, _, _, _, _⟩ := shown
  obtain ⟨⟨_, _, _, _⟩, _, _, _, _⟩ := alsoShown
  simp only at *
  simp [*]

/-! ## Observations -/

theorem sameOrigin_ingestTransportObservation (projector : TopologyProjector π) (preset : NodePreset)
    (observation : TransportObservation) :
    SameOrigin (projector.ingestTransportObservation preset observation).1.topology
      projector.topology := by
  have effect := observeEffect projector preset observation
  have kept : (projector.ingestTransportObservation preset observation).1.topology =
      (projector.observe preset observation).1.topology := by
    simp only [TopologyProjector.ingestTransportObservation]
    split
    · rw [refreshSnapshot_fst]
    · rfl
  rw [kept]
  generalize (projector.observe preset observation).1 = observed at effect
  cases effect <;> exact ⟨rfl, rfl, rfl, rfl, rfl⟩

theorem topology_of_unchanged {preset : NodePreset} {observation : TransportObservation}
    (projected : Projected localNodeId projector)
    (unchanged : (projector.ingestTransportObservation preset observation).2 = false) :
    (projector.ingestTransportObservation preset observation).1.topology = projector.topology :=
  (projected.ingestTransportObservation preset observation).topology_eq projected
    (sameOrigin_ingestTransportObservation projector preset observation)
    (ingestTransportObservation_unchanged unchanged)

theorem ingestObservations_topology (host : ClientHost) (observations : List TransportObservation)
    {ingesting : ClientTask π × Bool} (projected : Projected localNodeId ingesting.1.projector) :
    let ingested := observations.foldl (ClientTask.ingestObservation host) ingesting
    Projected localNodeId ingested.1.projector ∧ (ingested.2 = false →
      ingested.1.projector.topology = ingesting.1.projector.topology) := by
  induction observations generalizing ingesting with
  | nil => exact ⟨projected, fun _ => rfl⟩
  | cons observation rest ih =>
      have first : Projected localNodeId
          (ClientTask.ingestObservation host ingesting observation).1.projector ∧
          ((ClientTask.ingestObservation host ingesting observation).2 = false →
            (ClientTask.ingestObservation host ingesting observation).1.projector.topology =
              ingesting.1.projector.topology) := by
        simp only [ClientTask.ingestObservation]
        split
        · exact ⟨projected, fun _ => rfl⟩
        · refine ⟨projected.ingestTransportObservation host.preset observation, ?_⟩
          intro unchanged
          exact topology_of_unchanged projected (Bool.or_eq_false_iff.mp unchanged).2
      obtain ⟨projectedAfter, sameAfter⟩ := ih first.1
      refine ⟨projectedAfter, fun unchanged => ?_⟩
      rw [List.foldl_cons] at unchanged
      exact (sameAfter unchanged).trans (first.2 (ingestObservations_unchanged unchanged).1)

/-! ## Reports -/

structure Fed (localNodeId : NodeId) (task : ClientTask π) : Prop where
  projected : Projected localNodeId task.projector
  current : task.routerTopology = task.projector.topology

theorem ingestRoundOutcome_topology (projector : TopologyProjector π) (outcome : RouterRoundOutcome) :
    (projector.ingestRoundOutcome outcome).1.topology = projector.topology := by
  rw [TopologyProjector.ingestRoundOutcome, refreshSnapshot_fst]

theorem routerTopology_ingestObservations (host : ClientHost) (observations : List TransportObservation)
    (ingesting : ClientTask π × Bool) :
    (observations.foldl (ClientTask.ingestObservation host) ingesting).1.routerTopology =
      ingesting.1.routerTopology := by
  induction observations generalizing ingesting with
  | nil => rfl
  | cons observation rest ih =>
      rw [List.foldl_cons, ih]
      simp only [ClientTask.ingestObservation]
      split <;> rfl

theorem Fed.applyBridgeReport (fed : Fed localNodeId task) (host : ClientHost)
    (report : BleBridgeRoundReport) :
    Fed localNodeId (task.applyBridgeReport host report).1 := by
  generalize seen : report.ingestedTransportObservations.map StagedObservation.observation =
    observations
  have start : Projected localNodeId ((task, false) : ClientTask π × Bool).1.projector := fed.projected
  have ingested := ingestObservations_topology host observations start
  have router := routerTopology_ingestObservations host observations (task, false)
  simp only [ClientTask.applyBridgeReport, ClientTask.publishIncoming, seen]
  generalize observations.foldl (ClientTask.ingestObservation host) (task, false) = outcome
    at ingested router ⊢
  obtain ⟨after, changed⟩ := outcome
  obtain ⟨projected, same⟩ := ingested
  have rerouted := projected.rerouted (HostTopologyProjector.kept_ingestRoundOutcome _ report.routerOutcome)
  cases changed with
  | true => exact ⟨rerouted, (ingestRoundOutcome_topology ..).symm⟩
  | false =>
      refine ⟨rerouted, ?_⟩
      simp only [Bool.false_eq_true, if_false, ingestRoundOutcome_topology]
      rw [router, fed.current, same rfl]

theorem Fed.applyBridgeProgress (fed : Fed localNodeId task) (progress : BleBridgeProgress) :
    Fed localNodeId (task.applyBridgeProgress host progress).1 := by
  cases progress with
  | waiting state => exact fed
  | advanced report => exact fed.applyBridgeReport host report

/-! ## Client runs -/

theorem Fed.advanceRound {round : ClientRound} {result : Except BleBridgeError BleBridgeProgress}
    (fed : Fed localNodeId task) (driven : task.advanceRound host round = (reached, result)) :
    Fed localNodeId reached := by
  obtain ⟨bridge, outbound, rfl⟩ := (roundEffect_of driven).frame
  exact ⟨fed.projected, fed.current⟩

theorem Fed.publish {changed : Bool} (fed : Fed localNodeId task) :
    Fed localNodeId (if changed then task.publishTopology else task) := by
  apply of_published (fun before fed => ?_) changed fed
  exact ⟨fed.projected, fed.current⟩

theorem Fed.driveBridgeRound (fed : Fed localNodeId task) (host : ClientHost)
    (rounds : ClientRounds) :
    Fed localNodeId (task.driveBridgeRound host rounds).1 := by
  apply driveBridgeRound_induction host task rounds fed
  · intro before after round result fed driven
    exact fed.advanceRound driven
  · intro before progress fed
    exact fed.applyBridgeProgress progress
  · intro before fed
    exact ⟨fed.projected, fed.current⟩

theorem Fed.withRoute (fed : Fed localNodeId task) (route : MaterializedRoute) :
    Projected localNodeId (withRoute task route).projector ∧
      task.routerTopology = (withRoute task route).projector.topology := by
  refine ⟨fed.projected.rerouted (HostTopologyProjector.kept_ingestMaterializedRoute ..), ?_⟩
  rw [fed.current, Client.withRoute, TopologyProjector.ingestMaterializedRoute, refreshSnapshot_fst]

theorem Fed.queued {answers : SendAnswers} {command : ClientCommand} {queued : ClientTask π}
    {changed : Bool} {reply : ClientReply} (fed : Fed localNodeId task)
    (queues : Queues host task answers command queued changed reply) : Fed localNodeId queued := by
  cases queues with
  | cached => exact ⟨fed.projected, fed.current⟩
  | activated _ _ route =>
      obtain ⟨projected, current⟩ := fed.withRoute route
      exact ⟨projected, current⟩
  | multicast => exact ⟨fed.projected, fed.current⟩

theorem Fed.refused {answers : SendAnswers} {command : ClientCommand} (fed : Fed localNodeId task)
    (refused : Refused answers command task reached) : Fed localNodeId reached := by
  rcases refused.projector with same | ⟨_, _, route, -, -, routed⟩
  · exact ⟨same ▸ fed.projected, by rw [refused.routerTopology, same]; exact fed.current⟩
  · obtain ⟨projected, current⟩ := fed.withRoute route
    exact ⟨routed ▸ projected, by rw [refused.routerTopology, routed]; exact current⟩

theorem Fed.step (fed : Fed localNodeId task) (host : ClientHost) (input : ClientInput) :
    Fed localNodeId (task.step host input) := by
  refine step_of_handle (P := Fed localNodeId) (fun _ _ _ => ⟨fed.projected, fed.current⟩) ?_
  cases input with
  | bridgeRound rounds => exact fed.driveBridgeRound host rounds
  | command command answers =>
      have handled := handled host task answers command
      simp only [ClientTask.handle]
      generalize task.handleCommand host answers command = outcome at handled ⊢
      obtain ⟨after, result⟩ := outcome
      simp only at handled ⊢
      cases handled with
      | refused _ error unqueued kept => exact fed.refused kept
      | failed queued _ changed reply error queues driven =>
          have reached := (fed.queued queues).driveBridgeRound host answers.rounds
          rw [driven] at reached
          exact reached
      | replied queued after changed reply progress queues driven =>
          have reached := (fed.queued queues).driveBridgeRound host answers.rounds
          rw [driven] at reached
          exact reached.publish

theorem fed_spawn (localNodeId : NodeId) (initial : Observation Configuration)
    (capabilities : List Nat) :
    Fed localNodeId (ClientTask.spawn localNodeId initial capabilities : ClientTask π) := by
  have seeded : Projected localNodeId (ClientTask.spawn localNodeId initial capabilities :
        ClientTask π).projector ∧
      (ClientTask.spawn localNodeId initial capabilities : ClientTask π).projector.topology =
        initial := by
    refine exec_always (P := fun projector : TopologyProjector π =>
      Projected localNodeId projector ∧ projector.topology = initial)
      ⟨projected_new localNodeId initial, rfl⟩ ?_ capabilities
    rintro projector capability ⟨projected, same⟩
    refine ⟨projected.rerouted (HostTopologyProjector.kept_ingestEngineCapabilities ..), ?_⟩
    simp only [TopologyProjector.ingestEngineCapabilities, refreshSnapshot_fst]
    exact same
  exact ⟨seeded.1, seeded.2.symm⟩

/-- However a client has come to its present state and whatever reports it then applies, after each of
them the router has the configuration of the projector, and the projector has one observation for each
link of it. -/
theorem router_configuration_current (host : ClientHost) (localNodeId : NodeId)
    (initial : Observation Configuration) (capabilities : List Nat) (inputs : List ClientInput)
    (reports : List BleBridgeRoundReport) :
    let task := exec (fun task report => (task.applyBridgeReport host report).1)
      (exec (ClientTask.step host)
        (ClientTask.spawn localNodeId initial capabilities : ClientTask π) inputs) reports
    task.routerTopology = task.projector.topology ∧
      ∀ key : NodeId × NodeId, task.projector.edgeObservations[key]?.map Observation.value =
        task.projector.topology.value.links[key]? := by
  intro task
  have reached := exec_always (fed_spawn (π := π) localNodeId initial capabilities)
    (fun _ input fed => fed.step host input) inputs
  have fed : Fed localNodeId task :=
    exec_always reached (fun _ report fed => fed.applyBridgeReport host report) reports
  exact ⟨fed.current, fed.projected.edgeObservations⟩

end JqBle.Proof.Client
