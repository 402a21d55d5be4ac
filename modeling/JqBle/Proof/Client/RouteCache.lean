import JqBle.Proof.Client.Commands
import JqBle.Proof.Client.Sends

/-!
# Cached routes and the projector's edges

A cached command keeps the endpoint that the edge to its next hop had when the route was activated.
The router's liveness is checked when the route is used again, the edge is not.
-/

namespace JqBle.Proof.Client
open Std Host Library Execution JqBle.LinkProfile JqBle.NodeProfile JqBle.Client

variable {π : Type} {host : ClientHost} {task reached : ClientTask π} {rounds : ClientRounds}
  {round : ClientRound} {answers : SendAnswers}

/-! ## Endpoints of the local links -/

def linkEndpoint (task : ClientTask π) (nodeId : NodeId) : Option LinkEndpoint :=
  task.projector.topology.value.links[(task.localNodeId, nodeId)]?.map Link.endpoint

/-- Every cached command goes to the endpoint that the link to its next hop has now. -/
def CacheAgrees (task : ClientTask π) : Prop :=
  ∀ (nodeId : NodeId) (cached : CachedRoute), task.routeCache[nodeId]? = some cached →
    ∃ endpoint, cached.command.intent = .unicast endpoint ∧
      linkEndpoint task cached.command.nextHopNodeId = some endpoint

def SendsOver (cache : ExtTreeMap NodeId CachedRoute) (remoteNodeId : NodeId)
    (endpoint : LinkEndpoint) : Prop :=
  ∀ (nodeId : NodeId) (cached : CachedRoute), cache[nodeId]? = some cached →
    cached.command.nextHopNodeId = remoteNodeId → cached.command.intent = .unicast endpoint

/-- However the event is stamped, what is observed of it leaves the links to the next hops of the
cached commands at the endpoints of the commands. -/
def KeepsEndpoints (host : ClientHost) (task : ClientTask π) (event : TransportIngressEvent) : Prop :=
  ∀ tick order remoteNodeId link,
    linkObservationFromBleEvent host.shape task.localNodeId event tick order =
      .linkObserved remoteNodeId link →
    link.value.endpoint ≠ gattNotifyFanoutEndpoint →
    SendsOver task.routeCache remoteNodeId link.value.endpoint

def RoundKeepsEndpoints (host : ClientHost) (task : ClientTask π) (round : ClientRound) : Prop :=
  ∀ rawEvents, round.drainRawIngress = .ok rawEvents →
    ∀ event ∈ rawEvents, KeepsEndpoints host task event

/-! ## What is observed of an event -/

def ObservedOf (shape : CastShaping) (localNodeId : NodeId) (event : TransportIngressEvent)
    (observation : TransportObservation) : Prop :=
  ∃ tick order, observation = linkObservationFromBleEvent shape localNodeId event tick order

section Staging
variable {κ : Type} [BleBridgeClock κ] (shape : CastShaping)

theorem observedOf_observeTransportIngress (bridge : BleHostBridge κ)
    (event : TransportIngressEvent) (tick : Tick) :
    ObservedOf shape bridge.localNodeId event
      (bridge.observeTransportIngress shape event tick).1 := by
  cases event with
  | payloadReceived fromNodeId endpoint payload => exact ⟨tick, 0, rfl⟩
  | linkObserved remoteNodeId link sourceClass evidenceClass origin => exact ⟨tick, _, rfl⟩

theorem observeTransportIngress_snd (bridge : BleHostBridge κ) (event : TransportIngressEvent)
    (tick : Tick) : ∃ clock,
      (bridge.observeTransportIngress shape event tick).2 = { bridge with clock := clock } := by
  cases event <;> exact ⟨_, rfl⟩

theorem observedOf_staged (tick : Tick) (events : List TransportIngressEvent)
    (bridge : BleHostBridge κ) :
    let staged := events.foldl (BleHostBridge.stageEvent shape tick) bridge
    staged.localNodeId = bridge.localNodeId ∧
      ∀ reported ∈ staged.pendingTransportObservations,
        reported ∈ bridge.pendingTransportObservations ∨
          ∃ event ∈ events, ObservedOf shape bridge.localNodeId event reported.observation := by
  induction events generalizing bridge with
  | nil => exact ⟨rfl, fun reported member => Or.inl member⟩
  | cons event rest ih =>
      obtain ⟨localNodeId, reports⟩ := ih (bridge.stageEvent shape tick event)
      have own : (bridge.stageEvent shape tick event).localNodeId = bridge.localNodeId ∧
          ∀ reported ∈ (bridge.stageEvent shape tick event).pendingTransportObservations,
            reported ∈ bridge.pendingTransportObservations ∨
              ObservedOf shape bridge.localNodeId event reported.observation := by
        simp only [BleHostBridge.stageEvent]
        split
        · exact ⟨rfl, fun reported member => Or.inl member⟩
        · obtain ⟨clock, same⟩ := observeTransportIngress_snd shape
            { bridge with arrived := bridge.arrived + 1 } event tick
          rw [same]
          refine ⟨rfl, fun reported member => ?_⟩
          simp only [List.mem_append, List.mem_singleton] at member
          rcases member with old | rfl
          · exact Or.inl old
          · exact Or.inr (observedOf_observeTransportIngress shape
              { bridge with arrived := bridge.arrived + 1 } event tick)
      refine ⟨localNodeId.trans own.1, fun reported member => ?_⟩
      rcases reports reported member with old | ⟨later, found, observed⟩
      · rcases own.2 reported old with older | observed
        · exact Or.inl older
        · exact Or.inr ⟨event, by simp, observed⟩
      · rw [own.1] at observed
        exact Or.inr ⟨later, List.mem_cons_of_mem _ found, observed⟩

theorem localNodeId_advanceRound (bridge : BleHostBridge κ) (answers : BridgeAnswers κ) :
    (bridge.advanceRound shape answers).1.localNodeId = bridge.localNodeId := by
  unfold BleHostBridge.advanceRound BleHostBridge.stageTransportIngress
  simp only
  cases answers.drainRawIngress with
  | error error => rfl
  | ok rawEvents =>
      have own := (observedOf_staged shape
        (BleBridgeClock.advanceTick (answers.sharedClock bridge.clock)).1 rawEvents
        { bridge with clock := (BleBridgeClock.advanceTick (answers.sharedClock bridge.clock)).2 }).1
      simp only at own ⊢
      split
      · exact own
      · split <;> exact own

end Staging

/-- Between the rounds nothing is pending, so a round reports what it has drained itself. -/
theorem observedOf_reported {observations : List StagedObservation} (idle : Idle task.bridge)
    (staged : task.staged host round = .ok observations) :
    ∃ rawEvents, round.drainRawIngress = .ok rawEvents ∧
      ∀ reported ∈ observations, ∃ event ∈ rawEvents,
        ObservedOf host.shape task.bridge.localNodeId event reported.observation := by
  simp only [ClientTask.staged, BleHostBridge.stageTransportIngress, ClientRound.answers] at staged
  cases drained : round.drainRawIngress with
  | error error =>
      rw [drained] at staged
      cases staged
  | ok rawEvents =>
      rw [drained] at staged
      obtain rfl := Except.ok.inj staged
      refine ⟨rawEvents, rfl, fun reported member => ?_⟩
      rcases (observedOf_staged host.shape _ rawEvents _).2 reported member with old | new
      · simp [idle.nothingPending] at old
      · exact new

/-! ## Ingesting -/

variable [HostTopologyProjector π]

structure Consistent (task : ClientTask π) : Prop where
  projected : Projected task.localNodeId task.projector
  idle : Idle task.bridge
  own : task.bridge.localNodeId = task.localNodeId
  agrees : CacheAgrees task

theorem commandForRoute_eq (projected : Projected task.localNodeId task.projector)
    (route : MaterializedRoute) :
    task.commandForRoute host route =
      match host.selectedNeighborFromBackendRouteId route.backendRouteId with
      | none => .error noRouteCandidate
      | some nextHopNodeId =>
          match linkEndpoint task nextHopNodeId with
          | none => .error noRouteCandidate
          | some endpoint => .ok ⟨nextHopNodeId, .unicast endpoint⟩ := by
  unfold ClientTask.commandForRoute
  cases host.selectedNeighborFromBackendRouteId route.backendRouteId with
  | none => rfl
  | some nextHopNodeId =>
      have edge := projected.edge (task.localNodeId, nextHopNodeId)
      have shown : task.projector.snapshot.edge task.localNodeId nextHopNodeId =
          (TopologyProjector.mesh task.projector).edges[(task.localNodeId, nextHopNodeId)]? := by
        rw [projected.snapshot]
        rfl
      simp only [linkEndpoint, ← edge, shown]
      cases (TopologyProjector.mesh task.projector).edges[(task.localNodeId, nextHopNodeId)]? <;>
        rfl

theorem ingest_links (projected : Projected task.localNodeId task.projector) (preset : NodePreset)
    (observation : TransportObservation) (nodeId : NodeId) :
    linkEndpoint { task with
        projector := (task.projector.ingestTransportObservation preset observation).1 } nodeId =
      match observation with
      | .payloadReceived .. => linkEndpoint task nodeId
      | .linkObserved remoteNodeId link =>
          if nodeId = remoteNodeId then some link.value.endpoint else linkEndpoint task nodeId := by
  have own := projected.snapshot_localNodeId
  have topology : (task.projector.ingestTransportObservation preset observation).1.topology =
      (task.projector.observe preset observation).1.topology := by
    simp only [TopologyProjector.ingestTransportObservation]
    split
    · rw [refreshSnapshot_fst]
    · rfl
  have effect := observeEffect task.projector preset observation
  simp only [linkEndpoint, topology]
  generalize (task.projector.observe preset observation).1 = observed at effect
  cases effect with
  | payload => rfl
  | link remoteNodeId link later nodes remote kept =>
      simp only [EntryMap.getElem?_insert, own, Prod.mk.injEq, true_and]
      split <;> rfl

theorem Consistent.of_kept (consistent : Consistent task)
    (localNodeId : reached.localNodeId = task.localNodeId)
    (bridge : reached.bridge = task.bridge)
    (topology : reached.projector.topology = task.projector.topology)
    (projected : Projected task.localNodeId reached.projector)
    (cache : ∀ (nodeId : NodeId) (cached : CachedRoute),
      reached.routeCache[nodeId]? = some cached → task.routeCache[nodeId]? = some cached) :
    Consistent reached := by
  refine ⟨localNodeId ▸ projected, bridge ▸ consistent.idle,
    bridge ▸ localNodeId ▸ consistent.own, ?_⟩
  intro nodeId cached located
  obtain ⟨endpoint, intent, current⟩ := consistent.agrees nodeId cached (cache _ _ located)
  refine ⟨endpoint, intent, ?_⟩
  rw [linkEndpoint, localNodeId, topology]
  exact current

theorem Consistent.ingestObservation {ingesting : ClientTask π × Bool}
    {event : TransportIngressEvent} {observation : TransportObservation}
    (consistent : Consistent ingesting.1)
    (observed : ObservedOf host.shape ingesting.1.localNodeId event observation)
    (keeps : KeepsEndpoints host ingesting.1 event) :
    Consistent (ClientTask.ingestObservation host ingesting observation).1 := by
  obtain ⟨projected, idle, own, agrees⟩ := consistent
  simp only [ClientTask.ingestObservation]
  split
  · exact ⟨projected, idle, own, agrees⟩
  · rename_i plain
    refine ⟨projected.ingestTransportObservation host.preset observation, idle, own, ?_⟩
    intro nodeId cached located
    obtain ⟨endpoint, intent, current⟩ := agrees nodeId cached located
    have links := ingest_links projected host.preset observation cached.command.nextHopNodeId
    cases observation with
    | payloadReceived => exact ⟨endpoint, intent, links.trans current⟩
    | linkObserved remoteNodeId link =>
        simp only at links
        split at links
        · rename_i nextHop
          have fanout : link.value.endpoint ≠ gattNotifyFanoutEndpoint := by
            simpa [isMulticastFanoutObservation] using plain
          obtain ⟨tick, order, stamped⟩ := observed
          have sends := keeps tick order remoteNodeId link stamped.symm fanout
          exact ⟨link.value.endpoint, sends nodeId cached located nextHop, links⟩
        · exact ⟨endpoint, intent, links.trans current⟩

theorem Consistent.ingestObservations {observations : List TransportObservation}
    {events : List TransportIngressEvent} {ingesting : ClientTask π × Bool}
    (consistent : Consistent ingesting.1)
    (observed : ∀ observation ∈ observations, ∃ event ∈ events,
      ObservedOf host.shape ingesting.1.localNodeId event observation)
    (keeps : ∀ event ∈ events, KeepsEndpoints host ingesting.1 event) :
    Consistent (observations.foldl (ClientTask.ingestObservation host) ingesting).1 := by
  induction observations generalizing ingesting with
  | nil => exact consistent
  | cons observation rest ih =>
      have kept : Kept ingesting.1 (ClientTask.ingestObservation host ingesting observation).1 :=
        kept_ingestObservations host [observation] ingesting
      obtain ⟨event, found, first⟩ := observed observation (by simp)
      apply ih
      · exact consistent.ingestObservation first (keeps event found)
      · rw [kept.localNodeId]
        intro later member
        exact observed later (List.mem_cons_of_mem _ member)
      · unfold KeepsEndpoints
        rw [kept.localNodeId, kept.routeCache]
        exact keeps

/-! ## Rounds -/

theorem Consistent.applyBridgeReport {events : List TransportIngressEvent}
    {report : BleBridgeRoundReport} (consistent : Consistent task)
    (observed : ∀ reported ∈ report.ingestedTransportObservations, ∃ event ∈ events,
      ObservedOf host.shape task.localNodeId event reported.observation)
    (keeps : ∀ event ∈ events, KeepsEndpoints host task event) :
    Consistent (task.applyBridgeReport host report).1 := by
  have ingested : Consistent ((report.ingestedTransportObservations.map
      StagedObservation.observation).foldl (ClientTask.ingestObservation host) (task, false)).1 := by
    refine Consistent.ingestObservations consistent ?_ keeps
    intro observation member
    obtain ⟨reported, found, rfl⟩ := List.mem_map.mp member
    exact observed reported found
  have outcome (projector : TopologyProjector π) :
      (projector.ingestRoundOutcome report.routerOutcome).1.topology = projector.topology := by
    rw [TopologyProjector.ingestRoundOutcome, refreshSnapshot_fst]
  simp only [ClientTask.applyBridgeReport, ClientTask.publishIncoming]
  split <;>
    exact ingested.of_kept rfl rfl (outcome _)
      (ingested.projected.rerouted (HostTopologyProjector.kept_ingestRoundOutcome ..))
      fun _ _ located => located

theorem Consistent.advanceRound {result : Except BleBridgeError BleBridgeProgress}
    (consistent : Consistent task)
    (driven : task.advanceRound host round = (reached, result)) : Consistent reached := by
  have bridge : reached.bridge = (task.bridge.advanceRound host.shape
      (round.answers task.outbound.pending.length)).1 :=
    congrArg (fun outcome => outcome.1.bridge) driven.symm
  have idle : Idle reached.bridge := bridge ▸ Idle.advanceRound host.shape consistent.idle _
  have own : reached.bridge.localNodeId = task.localNodeId := by
    rw [bridge, localNodeId_advanceRound]
    exact consistent.own
  obtain ⟨bridge, outbound, rfl⟩ := (roundEffect_of driven).frame
  exact ⟨consistent.projected, idle, own, consistent.agrees⟩

theorem Consistent.applied {progress : BleBridgeProgress} (consistent : Consistent task)
    (driven : task.advanceRound host round = (reached, .ok progress))
    (keeps : RoundKeepsEndpoints host task round) :
    Consistent (reached.applyBridgeProgress host progress).1 := by
  have advanced := consistent.advanceRound driven
  cases progress with
  | waiting state => exact advanced
  | advanced report =>
      cases roundEffect_of driven with
      | advanced bridge report flushes carried outcome ingested idle capacity =>
          obtain ⟨rawEvents, drained, observed⟩ := observedOf_reported consistent.idle ingested
          rw [consistent.own] at observed
          exact advanced.applyBridgeReport observed (keeps rawEvents drained)

theorem keepsEndpoints_applied {progress : BleBridgeProgress} {event : TransportIngressEvent}
    (driven : task.advanceRound host round = (reached, .ok progress)) :
    KeepsEndpoints host (reached.applyBridgeProgress host progress).1 event ↔
      KeepsEndpoints host task event := by
  have kept := kept_applyBridgeProgress host reached progress
  unfold KeepsEndpoints
  rw [kept.routeCache, kept.localNodeId]
  obtain ⟨bridge, outbound, rfl⟩ := (roundEffect_of driven).frame
  rfl

theorem Consistent.publish {changed : Bool} (consistent : Consistent task) :
    Consistent (if changed then task.publishTopology else task) := by
  apply of_published (fun before consistent => ?_) changed consistent
  exact ⟨consistent.projected, consistent.idle, consistent.own, consistent.agrees⟩

/-- The first round keeps the endpoints, and a follow-up does that is driven after it. -/
def RoundsKeepEndpoints (host : ClientHost) (task : ClientTask π) (rounds : ClientRounds) : Prop :=
  RoundKeepsEndpoints host task rounds.first ∧
    ∀ after progress, task.advanceRound host rounds.first = (after, .ok progress) →
      ClientTask.runsFollowUp progress = true → RoundKeepsEndpoints host task rounds.followUp

theorem Consistent.driveBridgeRound (consistent : Consistent task)
    (keeps : RoundsKeepEndpoints host task rounds) :
    Consistent (task.driveBridgeRound host rounds).1 := by
  have effect := driveEffect host task rounds
  generalize task.driveBridgeRound host rounds = outcome at effect ⊢
  obtain ⟨last, result⟩ := outcome
  simp only at effect ⊢
  cases effect with
  | failed _ error first => exact consistent.advanceRound first
  | single after progress first alone => exact (consistent.applied first keeps.1).publish
  | followUpFailed after _ progress error first follows second =>
      exact (consistent.applied first keeps.1).advanceRound second
  | followedUp after last progress next first follows second =>
      refine ((consistent.applied first keeps.1).applied second ?_).publish
      intro rawEvents drained event member
      rw [keepsEndpoints_applied first]
      exact keeps.2 after progress first follows rawEvents drained event member

/-! ## Commands -/

theorem Consistent.withRoute (consistent : Consistent task) (route : MaterializedRoute) :
    Consistent (withRoute task route) := by
  refine consistent.of_kept rfl rfl ?_ ?_ fun _ _ located => located
  · simp only [Client.withRoute, TopologyProjector.ingestMaterializedRoute, refreshSnapshot_fst]
  · exact consistent.projected.rerouted (HostTopologyProjector.kept_ingestMaterializedRoute ..)

theorem Consistent.queued {command : ClientCommand} {queued : ClientTask π} {changed : Bool}
    {reply : ClientReply} (consistent : Consistent task)
    (queues : Queues host task answers command queued changed reply) : Consistent queued := by
  cases queues with
  | cached | multicast =>
      exact ⟨consistent.projected, consistent.idle, consistent.own, consistent.agrees⟩
  | activated toNodeId payload route command sent activates forwards commands =>
      have routed := consistent.withRoute route
      refine ⟨routed.projected, routed.idle, routed.own, ?_⟩
      intro nodeId cached located
      simp only [EntryMap.getElem?_insert] at located
      split at located
      · obtain rfl := Option.some.inj located
        rw [commandForRoute_eq routed.projected] at commands
        split at commands
        · cases commands
        · split at commands
          · cases commands
          · rename_i endpoint current
            obtain rfl := Except.ok.inj commands
            exact ⟨endpoint, rfl, current⟩
      · exact routed.agrees nodeId cached located

theorem Consistent.refused {command : ClientCommand} (consistent : Consistent task)
    (refused : Refused answers command task reached) : Consistent reached := by
  rcases refused.projector with same | ⟨toNodeId, payload, route, sends, activates, routed⟩
  · exact consistent.of_kept refused.localNodeId refused.bridge (by rw [same])
      (same ▸ consistent.projected) refused.routeCache
  · exact (consistent.withRoute route).of_kept refused.localNodeId refused.bridge (by rw [routed])
      (routed ▸ (consistent.withRoute route).projected) refused.routeCache

def EndpointsKept (host : ClientHost) (task : ClientTask π) : ClientInput → Prop
  | .bridgeRound rounds => RoundsKeepEndpoints host task rounds
  | .command command answers =>
      ∀ queued changed reply, Queues host task answers command queued changed reply →
        RoundsKeepEndpoints host queued answers.rounds

theorem Consistent.step {input : ClientInput} (consistent : Consistent task)
    (kept : EndpointsKept host task input) : Consistent (task.step host input) := by
  refine step_of_handle (P := Consistent) (fun _ _ _ =>
    ⟨consistent.projected, consistent.idle, consistent.own, consistent.agrees⟩) ?_
  cases input with
  | bridgeRound rounds => exact consistent.driveBridgeRound kept
  | command command answers =>
      have handled := handled host task answers command
      simp only [ClientTask.handle]
      generalize task.handleCommand host answers command = outcome at handled ⊢
      obtain ⟨after, result⟩ := outcome
      simp only at handled ⊢
      cases handled with
      | refused _ error unqueued refused => exact consistent.refused refused
      | failed queued _ changed reply error queues driven =>
          have reached := (consistent.queued queues).driveBridgeRound (kept _ _ _ queues)
          rw [driven] at reached
          exact reached
      | replied queued after changed reply progress queues driven =>
          have reached := (consistent.queued queues).driveBridgeRound (kept _ _ _ queues)
          rw [driven] at reached
          exact reached.publish

theorem consistent_spawn (localNodeId : NodeId) (initial : Observation Configuration)
    (capabilities : List Nat) :
    Consistent (ClientTask.spawn localNodeId initial capabilities : ClientTask π) where
  projected := by
    change Projected localNodeId (exec (fun projector capabilities =>
      (projector.ingestEngineCapabilities capabilities).1) (TopologyProjector.new localNodeId initial)
      capabilities)
    refine exec_always (projected_new localNodeId initial) ?_ capabilities
    intro projector capabilities projected
    exact projected.rerouted (HostTopologyProjector.kept_ingestEngineCapabilities ..)
  idle := ⟨rfl, Nat.zero_le _⟩
  own := rfl
  agrees := by
    intro nodeId cached located
    simp [ClientTask.spawn] at located

/-! ## Cached sends -/

def SelectsCached (host : ClientHost) (task : ClientTask π) (toNodeId : NodeId)
    (answers : SendAnswers) : Prop :=
  ∀ cached route, task.routeCache[toNodeId]? = some cached →
    answers.activeRoute cached.routeId = some route →
    host.selectedNeighborFromBackendRouteId route.backendRouteId = some cached.command.nextHopNodeId

theorem Consistent.commandForRoute {toNodeId : NodeId} {cached : CachedRoute}
    {route : MaterializedRoute} (consistent : Consistent task)
    (located : task.routeCache[toNodeId]? = some cached)
    (selects : host.selectedNeighborFromBackendRouteId route.backendRouteId =
      some cached.command.nextHopNodeId) :
    task.commandForRoute host route = .ok cached.command := by
  obtain ⟨endpoint, intent, current⟩ := consistent.agrees toNodeId cached located
  rw [commandForRoute_eq consistent.projected, selects]
  simp only [current, ← intent]

theorem tryCachedForward_queued {toNodeId : NodeId} {payload : List UInt8} {entry : OutboundEntry}
    (member : entry ∈ (task.tryCachedForward host toNodeId payload answers).1.outbound.pending ++
      (task.tryCachedForward host toNodeId payload answers).1.outbound.dispatched)
    (added : task.outbound.queued ≤ entry.number) :
    ∃ cached route, task.routeCache[toNodeId]? = some cached ∧
      answers.activeRoute cached.routeId = some route ∧
      entry.nextHopNodeId = some cached.command.nextHopNodeId ∧
      entry.command.intent = cached.command.intent := by
  have old : entry ∉ task.outbound.pending ++ task.outbound.dispatched := fun earlier =>
    absurd (task.outbound.numbered entry earlier) (Nat.not_lt.mpr added)
  unfold ClientTask.tryCachedForward at member
  cases located : task.routeCache[toNodeId]? with
  | none => exact absurd (by simpa [located] using member) old
  | some cached =>
      simp only [located] at member
      cases active : answers.activeRoute cached.routeId with
      | none => exact absurd (by simpa [active] using member) old
      | some route =>
          simp only [active] at member
          refine ⟨cached, route, rfl, active, ?_⟩
          cases forwarded : answers.forwardCached cached.routeId with
          | error error => exact absurd (by simpa [forwarded] using member) old
          | ok _ =>
              simp only [forwarded, ClientTask.queueTransportCommand,
                ClientTask.sendTransportTo] at member
              cases sent : answers.sendTransport with
              | error error => exact absurd (by simpa [sent] using member) old
              | ok _ =>
                  simp only [sent] at member
                  have queued := driveBridgeRound_outbound_subset host _ _ member
                  simp only [OutboundQueue.push, List.append_assoc, List.mem_append,
                    List.mem_singleton] at queued old
                  rcases queued with pending | rfl | dispatched
                  · exact absurd (Or.inl pending) old
                  · exact ⟨rfl, rfl⟩
                  · exact absurd (Or.inr dispatched) old

/-- In a run in which no link of a cached next hop moves to another endpoint, a cached send whose active
route still goes to that next hop queues what the slow path would queue. -/
theorem cached_send_agrees_along_run (host : ClientHost) (localNodeId : NodeId)
    (initial : Observation Configuration) (capabilities : List Nat) (inputs : List ClientInput)
    (toNodeId : NodeId) (payload : List UInt8) (answers : SendAnswers)
    (meets : Meets (ClientTask.step host) (EndpointsKept host)
      (ClientTask.spawn localNodeId initial capabilities : ClientTask π) inputs) :
    let reached := exec (ClientTask.step host)
      (ClientTask.spawn localNodeId initial capabilities : ClientTask π) inputs
    let forwarded := (reached.tryCachedForward host toNodeId payload answers).1
    SelectsCached host reached toNodeId answers →
    ∀ entry ∈ forwarded.outbound.pending ++ forwarded.outbound.dispatched,
      reached.outbound.queued ≤ entry.number →
      ∃ cached route nextHopNodeId, reached.routeCache[toNodeId]? = some cached ∧
        answers.activeRoute cached.routeId = some route ∧
        entry.nextHopNodeId = some nextHopNodeId ∧
        reached.commandForRoute host route = .ok ⟨nextHopNodeId, entry.command.intent⟩ := by
  intro reached forwarded selects entry member added
  have consistent : Consistent reached :=
    exec_invariant (consistent_spawn localNodeId initial capabilities)
      (fun _ _ consistent kept => consistent.step kept) meets
  obtain ⟨cached, route, located, active, nextHop, intent⟩ := tryCachedForward_queued member added
  refine ⟨cached, route, cached.command.nextHopNodeId, located, active, nextHop, ?_⟩
  rw [intent]
  exact consistent.commandForRoute located (selects cached route located active)

/-! ## A route that was cached for GATT -/

namespace Scenario
open JqBle.Proof.LinkProfile.Scenario

def seen (endpoint : LinkEndpoint) : ClientInput :=
  .bridgeRound (quietRounds [rawBleLinkObservedEvent (node 2) endpoint])

def sentOnce : List ClientInput :=
  [seen (gattEndpoint ⟨"peer"⟩),
    .command (.send (node 2) [7]) (activation (quietRounds []))]

def reuse : SendAnswers :=
  { activation (quietRounds []) with activeRoute := fun _ => some neighborRoute }

def after (inputs : List ClientInput) : ClientTask CopyingProjector :=
  exec (ClientTask.step clientHost) spawned inputs

theorem quietRounds_keep (task : ClientTask CopyingProjector) :
    RoundsKeepEndpoints clientHost task (quietRounds []) := by
  refine ⟨?_, fun _ _ _ _ => ?_⟩ <;>
  · rintro rawEvents ⟨⟩ event member
    cases member

theorem sentOnce_keeps :
    Meets (ClientTask.step clientHost) (EndpointsKept clientHost) spawned sentOnce := by
  refine ⟨⟨?_, fun _ _ _ _ => (quietRounds_keep spawned).1⟩, ?_, trivial⟩
  · rintro rawEvents ⟨⟩ event member tick order remoteNodeId link stamped plain nodeId cached located
    simp [spawned, ClientTask.spawn] at located
  · intro queued changed reply queues
    exact quietRounds_keep queued

end Scenario

theorem second_send_agrees :
    let reached := Scenario.after Scenario.sentOnce
    let forwarded := (reached.tryCachedForward Scenario.clientHost (LinkProfile.Scenario.node 2) [8]
      Scenario.reuse).1
    forwarded.outbound.dispatched.map OutboundEntry.number = [0, 1] ∧
      ∀ entry ∈ forwarded.outbound.pending ++ forwarded.outbound.dispatched,
        reached.outbound.queued ≤ entry.number →
        ∃ cached route nextHopNodeId,
          reached.routeCache[LinkProfile.Scenario.node 2]? = some cached ∧
          Scenario.reuse.activeRoute cached.routeId = some route ∧
          entry.nextHopNodeId = some nextHopNodeId ∧
          reached.commandForRoute Scenario.clientHost route =
            .ok ⟨nextHopNodeId, entry.command.intent⟩ := by
  intro reached forwarded
  have nextHop : reached.routeCache[LinkProfile.Scenario.node 2]?.map
      (fun cached => cached.command.nextHopNodeId) = some (LinkProfile.Scenario.node 2) := by
    decide +kernel
  refine ⟨by decide +kernel, ?_⟩
  refine cached_send_agrees_along_run Scenario.clientHost (LinkProfile.Scenario.node 1)
    Scenario.firstTopology [] Scenario.sentOnce (LinkProfile.Scenario.node 2) [8] Scenario.reuse
    Scenario.sentOnce_keeps ?_
  intro cached route located active
  change reached.routeCache[LinkProfile.Scenario.node 2]? = some cached at located
  rw [located] at nextHop
  exact nextHop.symm

/-- The link has moved to L2CAP since the first send; the second one still goes to the GATT
endpoint. -/
theorem upgraded_link_sent_over_gatt :
    let reached := Scenario.after (Scenario.sentOnce ++ [Scenario.seen (l2capEndpoint ⟨"peer"⟩)])
    let forwarded := (reached.tryCachedForward Scenario.clientHost (LinkProfile.Scenario.node 2) [8]
      Scenario.reuse).1
    ∃ entry ∈ forwarded.outbound.dispatched, reached.outbound.queued ≤ entry.number ∧
      (∀ routeId, Scenario.reuse.activeRoute routeId = some Scenario.neighborRoute) ∧
      ∀ nextHopNodeId, reached.commandForRoute Scenario.clientHost Scenario.neighborRoute ≠
        .ok ⟨nextHopNodeId, entry.command.intent⟩ := by
  intro reached forwarded
  obtain ⟨queued, sent, computed⟩ : reached.outbound.queued = 1 ∧
      ⟨1, some (LinkProfile.Scenario.node 2), ⟨.unicast (gattEndpoint ⟨"peer"⟩), [8]⟩⟩ ∈
        forwarded.outbound.dispatched ∧
      reached.commandForRoute Scenario.clientHost Scenario.neighborRoute =
        .ok ⟨LinkProfile.Scenario.node 2, .unicast (l2capEndpoint ⟨"peer"⟩)⟩ := by
    decide +kernel
  refine ⟨_, sent, Nat.le_of_eq queued, fun _ => rfl, ?_⟩
  intro nextHopNodeId same
  rw [computed] at same
  cases same

end JqBle.Proof.Client
