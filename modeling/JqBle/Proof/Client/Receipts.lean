import JqBle.Proof.Client.RouteCache

/-!
# Receipts

A send queues its payload once, on whichever path, or not at all. The command it is queued with was
made when the route was activated, by this send or by an earlier one, and the receipt reads it back.
-/

namespace JqBle.Proof.Client
open Std Host Library Execution JqBle.LinkProfile JqBle.NodeProfile JqBle.Client

variable {π : Type} {host : ClientHost} {task queued reached : ClientTask π}
  {answers : SendAnswers} {command : ClientCommand} {changed : Bool} {reply : ClientReply}

/-! ## The queue -/

theorem eq_pushed_iff {queue : OutboundQueue} {nextHopNodeId : Option NodeId}
    {command : BleOutboundCommand} {entry : OutboundEntry}
    (member : entry ∈ (queue.push nextHopNodeId command).pending ++
      (queue.push nextHopNodeId command).dispatched) :
    entry = ⟨queue.queued, nextHopNodeId, command⟩ ↔ queue.queued ≤ entry.number := by
  constructor
  · rintro rfl
    exact Nat.le_refl _
  · intro added
    simp only [OutboundQueue.push, List.append_assoc, List.mem_append, List.mem_singleton] at member
    have numbered := queue.numbered entry
    rw [List.mem_append] at numbered
    rcases member with pending | rfl | dispatched
    · exact absurd (numbered (Or.inl pending)) (Nat.not_lt.mpr added)
    · rfl
    · exact absurd (numbered (Or.inr dispatched)) (Nat.not_lt.mpr added)

/-! ## Rounds -/

theorem queued_advanceRound {after : ClientTask π} {round : ClientRound}
    {result : Except BleBridgeError BleBridgeProgress}
    (driven : task.advanceRound host round = (after, result)) :
    after.outbound.queued = task.outbound.queued := by
  cases roundEffect_of driven with
  | stopped => rfl
  | refused => rfl
  | advanced => rfl
  | waiting => rfl

theorem dispatched_flush (queue : OutboundQueue) (dispatch : Except TransportError Unit) :
    queue.dispatched ⊆ (queue.flush dispatch).dispatched := by
  intro entry member
  cases dispatch with
  | error error => exact member
  | ok _ => exact List.mem_append_left _ member

theorem dispatched_advanceRound {after : ClientTask π} {round : ClientRound}
    {progress : BleBridgeProgress} (driven : task.advanceRound host round = (after, .ok progress)) :
    task.outbound.pending ++ task.outbound.dispatched ⊆ after.outbound.dispatched := by
  intro entry member
  have unqueued (empty : task.outbound.pending = []) :
      entry ∈ (task.outbound.flush round.dispatch).dispatched := by
    rw [empty] at member
    exact dispatched_flush _ _ member
  cases roundEffect_of driven with
  | advanced bridge report reached carried outcome ingested idle capacity =>
      rcases carried with empty | dispatched
      · exact unqueued empty
      · simp only [OutboundQueue.flush, dispatched]
        simpa [or_comm] using member
  | waiting bridge state reached empty => exact unqueued empty

theorem edge_of_commandForRoute {route : MaterializedRoute} {command : QueuedTransportCommand}
    (commands : task.commandForRoute host route = .ok command) :
    host.selectedNeighborFromBackendRouteId route.backendRouteId = some command.nextHopNodeId ∧
      ∃ edge, task.projector.snapshot.edge task.localNodeId command.nextHopNodeId = some edge ∧
        command.intent = .unicast edge.observation.value.endpoint := by
  unfold ClientTask.commandForRoute at commands
  split at commands
  · cases commands
  · rename_i nextHopNodeId selected
    split at commands
    · cases commands
    · rename_i edge found
      cases commands
      exact ⟨selected, edge, found, rfl⟩

variable [HostTopologyProjector π]

structure SettingsKept (task reached : ClientTask π) : Prop where
  localNodeId : reached.localNodeId = task.localNodeId
  routeCache : reached.routeCache = task.routeCache
  queued : reached.outbound.queued = task.outbound.queued

theorem settingsKept_driveBridgeRound (host : ClientHost) (task : ClientTask π)
    (rounds : ClientRounds) : SettingsKept task (task.driveBridgeRound host rounds).1 := by
  refine driveBridgeRound_induction (P := SettingsKept task) host task rounds ⟨rfl, rfl, rfl⟩
    ?_ ?_ ?_
  · intro before after round result kept driven
    have queued := queued_advanceRound driven
    obtain ⟨bridge, outbound, rfl⟩ := (roundEffect_of driven).frame
    exact ⟨kept.localNodeId, kept.routeCache, queued.trans kept.queued⟩
  · intro before progress kept
    have applied := kept_applyBridgeProgress host before progress
    refine ⟨applied.localNodeId.trans kept.localNodeId, applied.routeCache.trans kept.routeCache, ?_⟩
    rw [applied.outbound]
    exact kept.queued
  · exact fun before kept => ⟨kept.localNodeId, kept.routeCache, kept.queued⟩

theorem dispatched_driveBridgeRound {rounds : ClientRounds} {progress : BleBridgeProgress}
    (driven : task.driveBridgeRound host rounds = (reached, .ok progress)) :
    task.outbound.pending ++ task.outbound.dispatched ⊆ reached.outbound.dispatched := by
  have effect := driveEffect host task rounds
  rw [driven] at effect
  dsimp only at effect
  cases effect with
  | single after _ first alone =>
      rw [outbound_published, (kept_applyBridgeProgress host after progress).outbound]
      exact dispatched_advanceRound first
  | followedUp after last progress _ first follows second =>
      rw [outbound_published, (kept_applyBridgeProgress host last _).outbound]
      apply List.Subset.trans (dispatched_advanceRound first)
      refine List.Subset.trans ?_ (dispatched_advanceRound second)
      rw [(kept_applyBridgeProgress host after progress).outbound]
      exact List.subset_append_right _ _

/-! ## Where cached commands come from -/

/-- This send activates the route, and the projector's snapshot then has the edge to the next hop of
the route with the endpoint of the command. -/
def ActivatedBy (host : ClientHost) (task : ClientTask π) (answers : SendAnswers) (toNodeId : NodeId)
    (activated : CachedRoute) : Prop :=
  ∃ route edge, Activates task answers toNodeId route ∧ route.routeId = activated.routeId ∧
    host.selectedNeighborFromBackendRouteId route.backendRouteId =
      some activated.command.nextHopNodeId ∧
    (withRoute task route).projector.snapshot.edge task.localNodeId
      activated.command.nextHopNodeId = some edge ∧
    activated.command.intent = .unicast edge.observation.value.endpoint

def ActivatedIn (host : ClientHost) (initial : ClientTask π) (inputs : List ClientInput)
    (toNodeId : NodeId) (activated : CachedRoute) : Prop :=
  ∃ before payload answers, before ++ [.command (.send toNodeId payload) answers] <+: inputs ∧
    ActivatedBy host (exec (ClientTask.step host) initial before) answers toNodeId activated

theorem ActivatedIn.append {initial : ClientTask π} {inputs : List ClientInput} {toNodeId : NodeId}
    {activated : CachedRoute} (earlier : ActivatedIn host initial inputs toNodeId activated)
    (later : List ClientInput) : ActivatedIn host initial (inputs ++ later) toNodeId activated := by
  obtain ⟨before, payload, answers, initially, activates⟩ := earlier
  exact ⟨before, payload, answers, initially.trans (List.prefix_append ..), activates⟩

/-- A send that is queued goes out with the command of its route: one in the cache, or the one that
this send activates. -/
theorem Queues.routed {toNodeId : NodeId} {payload : List UInt8}
    (queues : Queues host task answers (.send toNodeId payload) queued changed reply) :
    ∃ used : CachedRoute, reply = .send (sendReceipt toNodeId used.routeId used.command) ∧
      queued.outbound = task.outbound.push (some used.command.nextHopNodeId)
        ⟨used.command.intent, payload⟩ ∧
      (task.routeCache[toNodeId]? = some used ∧ queued.routeCache = task.routeCache ∨
        ActivatedBy host task answers toNodeId used ∧
          queued.routeCache = task.routeCache.insert toNodeId used) := by
  cases queues with
  | cached _ _ cached sent forwards =>
      exact ⟨cached, rfl, rfl, Or.inl ⟨forwards.1, rfl⟩⟩
  | activated _ _ route command sent activates forwards commands =>
      obtain ⟨selected, edge, found, intent⟩ := edge_of_commandForRoute commands
      exact ⟨⟨route.routeId, command⟩, rfl, rfl,
        Or.inr ⟨⟨route, edge, activates, rfl, selected, found, intent⟩, rfl⟩⟩

theorem Queues.routeCache (queues : Queues host task answers command queued changed reply)
    {nodeId : NodeId} {cached : CachedRoute} (located : queued.routeCache[nodeId]? = some cached) :
    task.routeCache[nodeId]? = some cached ∨
      ∃ payload, command = .send nodeId payload ∧ ActivatedBy host task answers nodeId cached := by
  cases command with
  | sendMulticast groupId receivers payload =>
      cases queues
      exact Or.inl located
  | send toNodeId payload =>
      obtain ⟨used, -, -, ⟨-, same⟩ | ⟨activates, inserted⟩⟩ := queues.routed
      · rw [same] at located
        exact Or.inl located
      · rw [inserted, EntryMap.getElem?_insert] at located
        split_ifs at located with same
        · obtain rfl : used = cached := Option.some.inj located
          subst same
          exact Or.inr ⟨payload, rfl, activates⟩
        · exact Or.inl located

theorem Queues.localNodeId (queues : Queues host task answers command queued changed reply) :
    queued.localNodeId = task.localNodeId := by
  cases queues <;> rfl

/-! ## Handled commands -/

/-- What was queued stays queued or goes to the runtime over the rounds, and it is all with the
runtime when they succeed. -/
theorem Handled.conclusion {result : Except BleClientError ClientReply}
    (handled : Handled host task answers command reached result) :
    (∃ error, result = .error error ∧ Refused answers command task reached) ∨
      ∃ queued changed reply, Queues host task answers command queued changed reply ∧
        SettingsKept queued reached ∧
        reached.outbound.pending ++ reached.outbound.dispatched ⊆
          queued.outbound.pending ++ queued.outbound.dispatched ∧
        ∀ given, result = .ok given → given = reply ∧
          queued.outbound.pending ++ queued.outbound.dispatched ⊆ reached.outbound.dispatched := by
  cases handled with
  | refused _ error unqueued refused => exact Or.inl ⟨error, rfl, refused⟩
  | failed queued _ changed reply error queues driven =>
      have kept := settingsKept_driveBridgeRound host queued answers.rounds
      have subset := driveBridgeRound_outbound_subset host queued answers.rounds
      rw [driven] at kept subset
      exact Or.inr ⟨queued, changed, reply, queues, kept, subset, nofun⟩
  | replied queued after changed reply progress queues driven =>
      have kept := settingsKept_driveBridgeRound host queued answers.rounds
      have subset := driveBridgeRound_outbound_subset host queued answers.rounds
      have dispatched := dispatched_driveBridgeRound driven
      rw [driven] at kept subset
      refine Or.inr ⟨queued, changed, reply, queues, ?_⟩
      have published : SettingsKept queued (if changed then after.publishTopology else after) := by
        apply of_published (fun before kept => ?_) changed kept
        exact ⟨kept.localNodeId, kept.routeCache, kept.queued⟩
      rw [outbound_published]
      refine ⟨published, subset, ?_⟩
      rintro given ⟨⟩
      exact ⟨rfl, dispatched⟩

theorem step_settings (host : ClientHost) (task : ClientTask π) (input : ClientInput) :
    (task.step host input).localNodeId = task.localNodeId ∧
      ∀ (nodeId : NodeId) (cached : CachedRoute),
        (task.step host input).routeCache[nodeId]? = some cached →
        task.routeCache[nodeId]? = some cached ∨
          ∃ payload answers, input = .command (.send nodeId payload) answers ∧
            ActivatedBy host task answers nodeId cached := by
  refine step_of_handle (P := fun reached => reached.localNodeId = task.localNodeId ∧
    ∀ (nodeId : NodeId) (cached : CachedRoute), reached.routeCache[nodeId]? = some cached →
      task.routeCache[nodeId]? = some cached ∨
        ∃ payload answers, input = .command (.send nodeId payload) answers ∧
          ActivatedBy host task answers nodeId cached)
    (fun _ _ _ => ⟨rfl, fun _ _ located => Or.inl located⟩) ?_
  cases input with
  | bridgeRound rounds =>
      have kept := settingsKept_driveBridgeRound host task rounds
      refine ⟨kept.localNodeId, fun nodeId cached located => Or.inl ?_⟩
      rw [← kept.routeCache]
      exact located
  | command command answers =>
      rcases (handled host task answers command).conclusion with
        ⟨error, -, refused⟩ | ⟨queued, changed, reply, queues, kept, -⟩
      · exact ⟨refused.localNodeId, fun nodeId cached located =>
          Or.inl (refused.routeCache nodeId cached located)⟩
      · refine ⟨kept.localNodeId.trans queues.localNodeId, fun nodeId cached located => ?_⟩
        simp only [ClientTask.handle] at located
        rw [kept.routeCache] at located
        rcases queues.routeCache located with earlier | ⟨payload, rfl, activates⟩
        · exact Or.inl earlier
        · exact Or.inr ⟨payload, answers, rfl, activates⟩

/-! ## Runs -/

theorem localNodeId_run (host : ClientHost) (initial : ClientTask π) (inputs : List ClientInput) :
    (exec (ClientTask.step host) initial inputs).localNodeId = initial.localNodeId := by
  refine exec_always (P := fun task : ClientTask π => task.localNodeId = initial.localNodeId) rfl
    ?_ inputs
  exact fun task input same => (step_settings host task input).1.trans same

theorem activated_run (host : ClientHost) {initial : ClientTask π} (empty : initial.routeCache = ∅)
    (inputs : List ClientInput) {toNodeId : NodeId} {cached : CachedRoute}
    (located : (exec (ClientTask.step host) initial inputs).routeCache[toNodeId]? = some cached) :
    ActivatedIn host initial inputs toNodeId cached := by
  induction inputs using List.reverseRecOn with
  | nil => simp [empty] at located
  | append_singleton before input ih =>
      rw [exec_snoc] at located
      rcases (step_settings host _ input).2 toNodeId cached located with
        earlier | ⟨payload, answers, rfl, activates⟩
      · exact (ih earlier).append [input]
      · exact ⟨before, payload, answers, List.prefix_rfl, activates⟩

theorem decode_encodeClientPayload (payload : List UInt8) :
    decodeClientPayload (encodeClientPayload payload) = .ok (some payload) := by
  simp [decodeClientPayload, encodeClientPayload]

/-- In every reachable state a send queues at most one command, and a receipt is for exactly one: the
framed payload, over the edge to the next hop that the projector had when the route was activated. -/
theorem send_receipt_honest (host : ClientHost) (localNodeId : NodeId)
    (initial : Observation Configuration) (capabilities : List Nat) (inputs : List ClientInput)
    (toNodeId : NodeId) (payload : List UInt8) (answers : SendAnswers) :
    let spawned : ClientTask π := .spawn localNodeId initial capabilities
    let task := exec (ClientTask.step host) spawned inputs
    let sent := task.handleSend host toNodeId (encodeClientPayload payload) answers
    sent.1.outbound.queued ≤ task.outbound.queued + 1 ∧
      ∀ receipt, sent.2 = .ok receipt →
        sent.1.outbound.queued = task.outbound.queued + 1 ∧
        (∃ entry ∈ sent.1.outbound.pending ++ sent.1.outbound.dispatched,
          (∀ other ∈ sent.1.outbound.pending ++ sent.1.outbound.dispatched,
            other = entry ↔ task.outbound.queued ≤ other.number) ∧
          entry.command = ⟨.unicast receipt.endpoint, encodeClientPayload payload⟩ ∧
          entry.command.intent.mode = receipt.deliveryMode ∧
          decodeClientPayload entry.command.payload = .ok (some payload)) ∧
        ∃ before framed activation,
          before ++ [.command (.send toNodeId framed) activation] <+:
            inputs ++ [.command (.send toNodeId (encodeClientPayload payload)) answers] ∧
          let activated := exec (ClientTask.step host) spawned before
          ∃ route edge, Activates activated activation toNodeId route ∧
            route.routeId = receipt.routeId ∧
            (withRoute activated route).projector.snapshot.edge localNodeId
              receipt.nextHopNodeId = some edge ∧
            edge.observation.value.endpoint = receipt.endpoint := by
  intro spawned task sent
  have handles := handled_send host task toNodeId (encodeClientPayload payload) answers
  change Handled host task answers _ sent.1 (sent.2.map .send) at handles
  rcases handles.conclusion with
    ⟨error, failed, refused⟩ | ⟨queued, changed, reply, queues, kept, subset, replies⟩
  · constructor
    · rw [refused.outbound]
      exact Nat.le_succ _
    · intro receipt succeeded
      rw [succeeded] at failed
      cases failed
  · obtain ⟨used, replied, pushed, source⟩ := queues.routed
    have counted : sent.1.outbound.queued = task.outbound.queued + 1 := by
      rw [kept.queued, pushed]
      rfl
    refine ⟨Nat.le_of_eq counted, ?_⟩
    intro receipt succeeded
    obtain ⟨given, dispatched⟩ := replies (.send receipt) (by rw [succeeded]; rfl)
    obtain rfl : receipt = sendReceipt toNodeId used.routeId used.command :=
      ClientReply.send.inj (given.trans replied)
    have activated : ActivatedIn host spawned
        (inputs ++ [.command (.send toNodeId (encodeClientPayload payload)) answers]) toNodeId
        used := by
      rcases source with ⟨located, -⟩ | ⟨activates, -⟩
      · exact (activated_run host rfl inputs located).append _
      · exact ⟨inputs, _, answers, List.prefix_rfl, activates⟩
    obtain ⟨before, framed, activation, initially, route, edge, activates, same, -, found, intent⟩ :=
      activated
    rw [localNodeId_run] at found
    have endpoint : used.command.intent = .unicast used.command.intent.endpoint := by
      rw [intent]
      rfl
    refine ⟨counted, ⟨⟨task.outbound.queued, some used.command.nextHopNodeId,
      ⟨used.command.intent, encodeClientPayload payload⟩⟩, ?_, ?_, ?_, rfl, ?_⟩,
      before, framed, activation, initially, route, edge, activates, same, found, ?_⟩
    · apply List.mem_append_right
      apply dispatched
      simp [pushed, OutboundQueue.push]
    · intro other member
      have earlier := subset member
      rw [pushed] at earlier
      exact eq_pushed_iff earlier
    · change BleOutboundCommand.mk used.command.intent _ = ⟨.unicast used.command.intent.endpoint, _⟩
      rw [← endpoint]
    · exact decode_encodeClientPayload payload
    · change _ = used.command.intent.endpoint
      rw [intent]
      rfl

/-- The receipt of a send over a route that an earlier send activated. -/
theorem send_receipt_honest_cached :
    let task := Scenario.after Scenario.sentOnce
    let sent := task.handleSend Scenario.clientHost (LinkProfile.Scenario.node 2)
      (encodeClientPayload [8]) Scenario.reuse
    ∃ receipt, sent.2 = .ok receipt ∧ task.outbound.queued = 1 ∧ sent.1.outbound.queued = 2 ∧
      ∃ entry ∈ sent.1.outbound.pending ++ sent.1.outbound.dispatched,
        entry.command = ⟨.unicast receipt.endpoint, encodeClientPayload [8]⟩ ∧
          decodeClientPayload entry.command.payload = .ok (some [8]) := by
  intro task sent
  have returns : sent.2.toOption.isSome = true := by decide +kernel
  have first : task.outbound.queued = 1 := by decide +kernel
  cases result : sent.2 with
  | error error => simp [result, Except.toOption] at returns
  | ok receipt =>
      obtain ⟨-, honest⟩ := send_receipt_honest (π := CopyingProjector) Scenario.clientHost
        (LinkProfile.Scenario.node 1) Scenario.firstTopology [] Scenario.sentOnce
        (LinkProfile.Scenario.node 2) [8] Scenario.reuse
      obtain ⟨counted, ⟨entry, member, -, command, -, decoded⟩, -⟩ := honest receipt result
      refine ⟨receipt, rfl, first, ?_, entry, member, command, decoded⟩
      rw [show sent.1.outbound.queued = task.outbound.queued + 1 from counted, first]

end JqBle.Proof.Client
