import JqBle.Proof.Client.Commands
import JqBle.Proof.Client.Sends

/-!
# The published topology

The projector changes in three places, and whether to publish is carried past early returns in a
flag. A step that fails after the snapshot has changed leaves the stored topology behind until the
next change.
-/

namespace JqBle.Proof.Client
open Std Host Library Execution JqBle.LinkProfile JqBle.NodeProfile JqBle.Client

variable {π : Type} {host : ClientHost} {task : ClientTask π}
  {projector : TopologyProjector π} {rounds : ClientRounds}

/-! ## Publishing -/

structure Published (before after : ClientTask π) : Prop where
  stored : after.topology = after.projector.snapshot
  broadcast : after.topology ≠ before.topology → ∃ earlier,
    after.topologyUpdates = before.topologyUpdates ++ earlier ++ [after.topology]

/-- The rounds have published a new snapshot last of all, or have left the snapshot alone. -/
def Refreshed (task after : ClientTask π) : Prop :=
  (after.topology = after.projector.snapshot ∧ ∃ earlier,
      after.topologyUpdates = task.topologyUpdates ++ earlier ++ [after.topology]) ∨
    (after.topology = task.topology ∧ after.projector.snapshot = task.projector.snapshot ∧
      after.topologyUpdates = task.topologyUpdates)

theorem refreshed_of_flag {reached : ClientTask π} {changed : Bool}
    (topology : reached.topology = task.topology)
    (topologyUpdates : reached.topologyUpdates = task.topologyUpdates)
    (unchanged : changed = false → reached.projector.snapshot = task.projector.snapshot) :
    Refreshed task (if changed then reached.publishTopology else reached) := by
  cases changed with
  | true => exact Or.inl ⟨rfl, [], by simp [ClientTask.publishTopology, topologyUpdates]⟩
  | false => exact Or.inr ⟨topology, unchanged rfl, topologyUpdates⟩

theorem Refreshed.published {reached : ClientTask π} (refreshed : Refreshed task reached)
    (current : task.topology = task.projector.snapshot) : Published task reached := by
  rcases refreshed with ⟨stored, broadcast⟩ | ⟨topology, snapshot, -⟩
  · exact ⟨stored, fun _ => broadcast⟩
  · refine ⟨?_, fun differs => absurd topology differs⟩
    rw [topology, snapshot, current]

theorem Refreshed.publishTopology {reached : ClientTask π} (refreshed : Refreshed task reached) :
    Published task reached.publishTopology := by
  refine ⟨rfl, fun _ => ?_⟩
  rcases refreshed with ⟨-, earlier, broadcast⟩ | ⟨-, -, same⟩
  · exact ⟨earlier ++ [reached.topology], by simp [ClientTask.publishTopology, broadcast]⟩
  · exact ⟨[], by simp [ClientTask.publishTopology, same]⟩

/-! ## Flags and snapshots -/

variable [HostTopologyProjector π]

theorem refreshSnapshot_unchanged (unchanged : projector.refreshSnapshot.2 = false) :
    projector.refreshSnapshot.1.snapshot = projector.snapshot := by
  simp only [TopologyProjector.refreshSnapshot] at unchanged ⊢
  split at unchanged
  · rename_i same
    rw [if_pos same]
  · cases unchanged

theorem ingestTransportObservation_unchanged {preset : NodePreset}
    {observation : TransportObservation}
    (unchanged : (projector.ingestTransportObservation preset observation).2 = false) :
    (projector.ingestTransportObservation preset observation).1.snapshot = projector.snapshot := by
  simp only [TopologyProjector.ingestTransportObservation] at unchanged ⊢
  have effect := observeEffect projector preset observation
  have kept : (projector.observe preset observation).1.snapshot = projector.snapshot := by
    generalize (projector.observe preset observation).1 = observed at effect
    cases effect <;> rfl
  split at unchanged
  · rename_i seen
    rw [if_pos seen, refreshSnapshot_unchanged unchanged]
    exact kept
  · rename_i unseen
    rw [if_neg unseen]
    exact kept

theorem ingestObservations_unchanged {observations : List TransportObservation}
    {ingesting : ClientTask π × Bool}
    (unchanged : (observations.foldl (ClientTask.ingestObservation host) ingesting).2 = false) :
    ingesting.2 = false ∧
      (observations.foldl (ClientTask.ingestObservation host) ingesting).1.projector.snapshot =
        ingesting.1.projector.snapshot := by
  induction observations generalizing ingesting with
  | nil => exact ⟨unchanged, rfl⟩
  | cons observation rest ih =>
      obtain ⟨flag, snapshot⟩ := ih unchanged
      rw [List.foldl_cons, snapshot]
      simp only [ClientTask.ingestObservation] at flag ⊢
      split at flag
      · rename_i fanout
        rw [if_pos fanout]
        exact ⟨flag, rfl⟩
      · rename_i plain
        rw [if_neg plain]
        simp only [Bool.or_eq_false_iff] at flag
        exact ⟨flag.1, ingestTransportObservation_unchanged flag.2⟩

theorem applyBridgeProgress_unchanged (host : ClientHost) (task : ClientTask π)
    (progress : BleBridgeProgress)
    (unchanged : (task.applyBridgeProgress host progress).2 = false) :
    (task.applyBridgeProgress host progress).1.projector.snapshot = task.projector.snapshot := by
  cases progress with
  | waiting state => rfl
  | advanced report =>
      simp only [ClientTask.applyBridgeProgress, ClientTask.applyBridgeReport,
        ClientTask.publishIncoming, Bool.or_eq_false_iff] at unchanged ⊢
      obtain ⟨ingested, outcome⟩ := unchanged
      have same := (ingestObservations_unchanged ingested).2
      rw [if_neg (by simp [ingested])] at outcome ⊢
      rw [← same]
      exact refreshSnapshot_unchanged outcome

/-! ## One step -/

def KeepsUp (host : ClientHost) (task : ClientTask π) (rounds : ClientRounds) : Prop :=
  ∀ after report, task.advanceRound host rounds.first = (after, .ok (.advanced report)) →
    report.routerOutcome.nextRoundHint = .immediate → (after.applyBridgeReport host report).2 = true →
    RoundAnswered task.bridge.inboundCapacity 0 rounds.followUp

theorem driveBridgeRound_refreshed (keepsUp : KeepsUp host task rounds) :
    Refreshed task (task.driveBridgeRound host rounds).1 := by
  have effect := driveEffect host task rounds
  generalize task.driveBridgeRound host rounds = outcome at effect ⊢
  obtain ⟨reached, result⟩ := outcome
  simp only at effect ⊢
  cases effect with
  | failed _ error first =>
      obtain ⟨bridge, outbound, rfl⟩ := (roundEffect_of first).frame
      exact Or.inr ⟨rfl, rfl, rfl⟩
  | single after progress first alone =>
      have kept := kept_applyBridgeProgress host after progress
      have same := applyBridgeProgress_unchanged host after progress
      obtain ⟨bridge, outbound, rfl⟩ := (roundEffect_of first).frame
      exact refreshed_of_flag kept.topology kept.topologyUpdates same
  | followUpFailed after _ progress error first follows second =>
      have kept := kept_applyBridgeProgress host after progress
      have unanswered := followUp_unanswered first follows second
      obtain ⟨report, rfl, immediate⟩ := exists_immediate follows
      have same := applyBridgeProgress_unchanged host after (.advanced report) (by
        by_contra changed
        exact unanswered (keepsUp after report first immediate (Bool.of_not_eq_false changed)))
      obtain ⟨bridge, outbound, rfl⟩ := (roundEffect_of second).frame
      obtain ⟨bridge, outbound, rfl⟩ := (roundEffect_of first).frame
      exact Or.inr ⟨kept.topology, same, kept.topologyUpdates⟩
  | followedUp after last progress next first follows second =>
      have kept := kept_applyBridgeProgress host after progress
      have keptAgain := kept_applyBridgeProgress host last next
      have same := applyBridgeProgress_unchanged host after progress
      have sameAgain := applyBridgeProgress_unchanged host last next
      obtain ⟨bridge, outbound, framed⟩ := (roundEffect_of second).frame
      obtain ⟨bridge', outbound', rfl⟩ := (roundEffect_of first).frame
      apply refreshed_of_flag
      · rw [keptAgain.topology, framed]
        exact kept.topology
      · rw [keptAgain.topologyUpdates, framed]
        exact kept.topologyUpdates
      · intro unchanged
        simp only [Bool.or_eq_false_iff] at unchanged
        rw [sameAgain unchanged.2, framed]
        exact same unchanged.1

/-! ## Commands -/

def RoundsSucceed (task : ClientTask π) (rounds : ClientRounds) : Prop :=
  RoundAnswered task.bridge.inboundCapacity task.bridge.pendingTransportObservations.length
      rounds.first ∧
    rounds.first.dispatch = .ok () ∧
    ∀ outcome, rounds.first.advanceRound = .ok outcome → outcome.nextRoundHint = .immediate →
      RoundAnswered task.bridge.inboundCapacity 0 rounds.followUp

theorem RoundsSucceed.ne_error (succeeds : RoundsSucceed task rounds) (error : BleClientError) :
    (task.driveBridgeRound host rounds).2 ≠ .error error := by
  obtain ⟨answered, dispatched, followsUp⟩ := succeeds
  have effect := driveEffect host task rounds
  generalize task.driveBridgeRound host rounds = outcome at effect ⊢
  obtain ⟨reached, result⟩ := outcome
  rintro rfl
  cases effect with
  | failed _ error first =>
      cases roundEffect_of first with
      | stopped _ _ unreached =>
          rw [(reachesFlush_iff host task rounds.first).mpr answered] at unreached
          cases unreached
      | refused _ _ reached filled refused =>
          rw [dispatched] at refused
          cases refused
  | followUpFailed after _ progress error first follows second =>
      have unanswered := followUp_unanswered first follows second
      obtain ⟨report, rfl, immediate⟩ := exists_immediate follows
      cases roundEffect_of first with
      | advanced _ _ _ _ outcome => exact unanswered (followsUp _ outcome immediate)

/-- A step publishes what it does to the snapshot: a route that changes it is activated only by a send
in which nothing fails any more, and no follow-up fails after a round that has changed it. -/
def Publishes (host : ClientHost) (task : ClientTask π) : ClientInput → Prop
  | .bridgeRound rounds => KeepsUp host task rounds
  | .command command answers =>
      (∀ toNodeId payload route, command = .send toNodeId payload →
        Activates task answers toNodeId route →
        (task.projector.ingestMaterializedRoute route).2 = true →
        Accepted host task answers command) ∧
      ∀ queued changed reply, Queues host task answers command queued changed reply →
        KeepsUp host queued answers.rounds ∧
          (changed = true → RoundsSucceed queued answers.rounds)

theorem Queues.published {answers : SendAnswers} {command : ClientCommand} {queued : ClientTask π}
    {changed : Bool} {reply : ClientReply}
    (queues : Queues host task answers command queued changed reply) :
    queued.topology = task.topology ∧ queued.topologyUpdates = task.topologyUpdates ∧
      (changed = false → queued.projector.snapshot = task.projector.snapshot) := by
  cases queues with
  | cached => exact ⟨rfl, rfl, fun _ => rfl⟩
  | activated => exact ⟨rfl, rfl, refreshSnapshot_unchanged⟩
  | multicast => exact ⟨rfl, rfl, fun _ => rfl⟩

theorem Queues.refreshed {answers : SendAnswers} {command : ClientCommand}
    {queued reached : ClientTask π} {changed : Bool} {reply : ClientReply}
    (queues : Queues host task answers command queued changed reply)
    (refreshed : Refreshed queued reached) (unchanged : changed = false) : Refreshed task reached := by
  obtain ⟨topology, topologyUpdates, same⟩ := queues.published
  unfold Refreshed at refreshed ⊢
  rw [topology, topologyUpdates, same unchanged] at refreshed
  exact refreshed

theorem step_published {input : ClientInput} (current : task.topology = task.projector.snapshot)
    (publishes : Publishes host task input) : Published task (task.step host input) := by
  refine step_of_handle (P := Published task)
    (fun _ _ _ => ⟨current, fun differs => absurd rfl differs⟩) ?_
  cases input with
  | bridgeRound rounds => exact (driveBridgeRound_refreshed publishes).published current
  | command command answers =>
      obtain ⟨activations, rounds⟩ := publishes
      have handled := handled host task answers command
      simp only [ClientTask.handle]
      generalize task.handleCommand host answers command = outcome at handled ⊢
      obtain ⟨reached, result⟩ := outcome
      simp only at handled ⊢
      cases handled with
      | refused _ error unqueued kept =>
          refine ⟨?_, fun differs => absurd kept.topology differs⟩
          rw [kept.topology, current]
          rcases kept.projector with same | ⟨toNodeId, payload, route, sends, activates, activated⟩
          · rw [same]
          · rw [activated]
            have unchanged : (task.projector.ingestMaterializedRoute route).2 = false := by
              by_contra changes
              obtain ⟨queued, changed, reply, queues⟩ := activations toNodeId payload route sends
                activates (Bool.of_not_eq_false changes)
              exact unqueued queued changed reply queues
            exact (refreshSnapshot_unchanged unchanged).symm
      | failed queued _ changed reply error queues driven =>
          obtain ⟨keepsUp, succeeds⟩ := rounds queued changed reply queues
          have refreshed := queues.refreshed (driveBridgeRound_refreshed keepsUp)
          cases changed with
          | true => exact absurd (by rw [driven]) ((succeeds rfl).ne_error error)
          | false =>
              rw [driven] at refreshed
              exact (refreshed rfl).published current
      | replied queued after changed reply progress queues driven =>
          obtain ⟨keepsUp, -⟩ := rounds queued changed reply queues
          have driven' := driveBridgeRound_refreshed keepsUp
          have refreshed := queues.refreshed driven'
          rw [driven] at driven' refreshed
          cases changed with
          | true =>
              have published := driven'.publishTopology
              refine ⟨published.stored, ?_⟩
              rw [← queues.published.1, ← queues.published.2.1]
              exact published.broadcast
          | false => exact (refreshed rfl).published current

/-- In a run whose steps all publish, every completed step leaves the snapshot stored and, if it is
another one, broadcast. -/
theorem topology_published_along_run (host : ClientHost) (localNodeId : NodeId)
    (initial : Observation Configuration) (capabilities : List Nat) (inputs : List ClientInput)
    (seeded : (ClientTask.spawn localNodeId initial capabilities : ClientTask π).projector.snapshot =
      (TopologyProjector.new localNodeId initial : TopologyProjector π).snapshot)
    (meets : Meets (ClientTask.step host) (Publishes host)
      (ClientTask.spawn localNodeId initial capabilities : ClientTask π) inputs)
    (before : List ClientInput) (input : ClientInput) (initially : before ++ [input] <+: inputs) :
    let reached := exec (ClientTask.step host)
      (ClientTask.spawn localNodeId initial capabilities : ClientTask π)
    Published (reached before) (reached (before ++ [input])) := by
  intro reached
  obtain ⟨earlier, last⟩ := meets_snoc.mp (meets.of_prefix initially)
  have current : (reached before).topology = (reached before).projector.snapshot := by
    refine exec_invariant (P := fun task => task.topology = task.projector.snapshot)
      seeded.symm ?_ earlier
    intro task input current publishes
    exact (step_published current publishes).stored
  have next : reached (before ++ [input]) = (reached before).step host input := exec_snoc ..
  rw [next]
  exact step_published current last

theorem keepsUp_of_unhinted
    (unhinted : ∀ outcome, rounds.first.advanceRound = .ok outcome →
      outcome.nextRoundHint ≠ .immediate) : KeepsUp host task rounds := by
  intro after report first immediate
  cases roundEffect_of first with
  | advanced _ _ _ _ outcome => exact absurd immediate (unhinted _ outcome)

theorem quiet_round_publishes_link :
    Scenario.linked.topology = Scenario.linked.projector.snapshot ∧
      Scenario.linked.topologyUpdates = [Scenario.linked.topology] := by
  have unhinted : ∀ outcome, (Scenario.quietRounds [rawBleLinkObservedEvent
      (LinkProfile.Scenario.node 2) (gattEndpoint ⟨"peer"⟩)]).first.advanceRound = .ok outcome →
        outcome.nextRoundHint ≠ .immediate := by
    rintro outcome ⟨⟩
    decide
  have published := topology_published_along_run (π := CopyingProjector) Scenario.clientHost
    (LinkProfile.Scenario.node 1) Scenario.firstTopology []
    [.bridgeRound (Scenario.quietRounds [rawBleLinkObservedEvent (LinkProfile.Scenario.node 2)
      (gattEndpoint ⟨"peer"⟩)])] rfl ⟨keepsUp_of_unhinted unhinted, trivial⟩ [] _ List.prefix_rfl
  refine ⟨published.stored, ?_⟩
  decide +kernel

theorem unforwarded_route_unpublished :
    let task := Scenario.linked.step Scenario.clientHost
      (.command (.send (LinkProfile.Scenario.node 2) [7])
        { Scenario.activation (Scenario.quietRounds []) with
          forwardActivated := fun _ => .error (.transport .unavailable) })
    Scenario.linked.topology = Scenario.linked.projector.snapshot ∧
      task.topology ≠ task.projector.snapshot := by
  decide +kernel

end JqBle.Proof.Client
