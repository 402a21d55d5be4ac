import JqBle.Client.Client
import JqBle.Proof.Client.Bridge

/-!
# What a bridge round does to the client
-/

namespace JqBle.Proof.Client
open Std Host Library JqBle.LinkProfile JqBle.NodeProfile JqBle.Client

variable {π : Type} {host : ClientHost} {task : ClientTask π} {round : ClientRound}

/-! ## One round -/

theorem bridge_advanceRound_cases {κ : Type} [BleBridgeClock κ] (shape : CastShaping)
    (bridge : BleHostBridge κ) (answers : BridgeAnswers κ) :
    let tick := BleBridgeClock.advanceTick (answers.sharedClock bridge.clock)
    let drained := BleHostBridge.stageTransportIngress shape { bridge with clock := tick.2 } answers
      tick.1
    (∃ error, drained = .error error ∧
        (bridge.advanceRound shape answers).2 = .error (.transport error)) ∨
      ∃ staged, drained = .ok staged ∧
        ((∃ error, (answers.driveRouter staged.pendingTransportObservations).2 = .error error ∧
            (bridge.advanceRound shape answers).2 = .error error) ∨
          ∃ routerOutcome flushed,
            (answers.driveRouter staged.pendingTransportObservations).2 =
              .ok (routerOutcome, flushed) ∧
            (bridge.advanceRound shape answers).1.pendingTransportObservations = [] ∧
            (bridge.advanceRound shape answers).1.inboundCapacity = staged.inboundCapacity ∧
            ((∃ report, (bridge.advanceRound shape answers).2 = .ok (.advanced report) ∧
                report.routerOutcome = routerOutcome ∧
                report.ingestedTransportObservations = staged.pendingTransportObservations) ∨
              ∃ state, (bridge.advanceRound shape answers).2 = .ok (.waiting state) ∧
                staged.pendingTransportObservations = [] ∧ flushed = 0)) := by
  intro tick drained
  unfold BleHostBridge.advanceRound
  simp only
  cases stage : drained with
  | error error =>
      refine Or.inl ⟨error, rfl, ?_⟩
      simp only [drained, tick] at stage
      rw [stage]
  | ok staged =>
      refine Or.inr ⟨staged, rfl, ?_⟩
      simp only [drained, tick] at stage
      rw [stage]
      simp only
      cases driven : (answers.driveRouter staged.pendingTransportObservations).2 with
      | error error => exact Or.inl ⟨error, rfl, rfl⟩
      | ok result =>
          refine Or.inr ⟨result.1, result.2, rfl, ?_⟩
          simp only
          split
          · rename_i idle
            simp only [Bool.and_eq_true, List.isEmpty_iff, beq_iff_eq] at idle
            exact ⟨rfl, rfl, Or.inr ⟨_, rfl, idle.1.1.1, idle.1.1.2⟩⟩
          · exact ⟨rfl, rfl, Or.inl ⟨_, rfl, rfl, rfl⟩⟩

theorem stage_length {κ : Type} [BleBridgeClock κ] (shape : CastShaping) (tick : Tick)
    (events : List TransportIngressEvent) (bridge : BleHostBridge κ) :
    let staged := events.foldl (BleHostBridge.stageEvent shape tick) bridge
    staged.pendingTransportObservations.length = bridge.pendingTransportObservations.length +
        min (bridge.inboundCapacity - bridge.pendingTransportObservations.length) events.length ∧
      staged.inboundCapacity = bridge.inboundCapacity := by
  induction events generalizing bridge with
  | nil => simp
  | cons event rest ih =>
      dsimp only at ih ⊢
      rw [List.foldl_cons]
      by_cases full : bridge.inboundCapacity ≤ bridge.pendingTransportObservations.length
      · rw [stageEvent_of_full shape full]
        obtain ⟨length, capacity⟩ := ih { bridge with
          arrived := bridge.arrived + 1
          droppedTransportObservations :=
            saturatingAdd usizeMax bridge.droppedTransportObservations 1 }
        refine ⟨?_, capacity⟩
        rw [length]
        simp only
        omega
      · obtain ⟨clock, observation, staged⟩ := stageEvent_of_room shape full event
        rw [staged]
        obtain ⟨length, capacity⟩ := ih { bridge with
          clock := clock
          arrived := bridge.arrived + 1
          pendingTransportObservations :=
            bridge.pendingTransportObservations ++ [⟨bridge.arrived, observation⟩] }
        refine ⟨?_, capacity⟩
        rw [length]
        simp only [List.length_append, List.length_cons, List.length_nil]
        omega

theorem capacity_of_staged {κ : Type} [BleBridgeClock κ] {shape : CastShaping} {tick : Tick}
    {bridge staged : BleHostBridge κ} {answers : BridgeAnswers κ}
    (drained : bridge.stageTransportIngress shape answers tick = .ok staged) :
    staged.inboundCapacity = bridge.inboundCapacity := by
  unfold BleHostBridge.stageTransportIngress at drained
  split at drained
  · cases drained
  · obtain rfl := Except.ok.inj drained
    exact (stage_length shape tick _ bridge).2

/-- The drain, the router's ingests and its round succeed, given the room in the bridge and what is
pending there. -/
def RoundAnswered (capacity pending : Nat) (round : ClientRound) : Prop :=
  ∃ rawEvents routerOutcome, round.drainRawIngress = .ok rawEvents ∧
    (∀ position < pending + min (capacity - pending) rawEvents.length,
      round.ingestTransportObservation position = .ok ()) ∧
    round.advanceRound = .ok routerOutcome

theorem staged_cases (host : ClientHost) (task : ClientTask π) (round : ClientRound) :
    (∃ error, round.drainRawIngress = .error error ∧ task.staged host round = .error error) ∨
      ∃ rawEvents observations, round.drainRawIngress = .ok rawEvents ∧
        task.staged host round = .ok observations ∧
        observations.length = task.bridge.pendingTransportObservations.length +
          min (task.bridge.inboundCapacity - task.bridge.pendingTransportObservations.length)
            rawEvents.length := by
  simp only [ClientTask.staged, BleHostBridge.stageTransportIngress, ClientRound.answers]
  cases round.drainRawIngress with
  | error error => exact Or.inl ⟨error, rfl, rfl⟩
  | ok rawEvents =>
      refine Or.inr ⟨rawEvents, _, rfl, rfl, ?_⟩
      exact (stage_length host.shape _ rawEvents _).1

theorem reachesFlush_iff (host : ClientHost) (task : ClientTask π) (round : ClientRound) :
    task.reachesFlush host round = true ↔
      RoundAnswered task.bridge.inboundCapacity task.bridge.pendingTransportObservations.length
        round := by
  unfold ClientTask.reachesFlush RoundAnswered
  obtain ⟨error, drained, staged⟩ | ⟨rawEvents, observations, drained, staged, length⟩ :=
    staged_cases host task round
  · simp [drained, staged]
  · have loop := ingestLoop_eq_ok (round.answers task.outbound.pending.length) 0 observations
    simp only [Nat.zero_add, length] at loop
    have answered : (round.answers task.outbound.pending.length).ingestTransportObservation =
      round.ingestTransportObservation := rfl
    rw [answered] at loop
    simp only [drained, staged, Except.ok.injEq, exists_and_left, exists_eq_left', ← loop,
      Bool.and_eq_true]
    cases ((round.answers task.outbound.pending.length).ingestLoop 0 observations).2 <;>
      cases round.advanceRound <;> simp [Except.isOk, Except.toBool]

/-- What one round does: it stops before the flush, the runtime refuses the batch, or the round
succeeds. -/
inductive RoundEffect (host : ClientHost) (task : ClientTask π) (round : ClientRound) :
    ClientTask π → Except BleBridgeError BleBridgeProgress → Prop
  | stopped (bridge : BleHostBridge BleRuntimeEffects) (error : BleBridgeError)
      (unreached : task.reachesFlush host round = false) :
      RoundEffect host task round { task with bridge := bridge } (.error error)
  | refused (bridge : BleHostBridge BleRuntimeEffects) (error : TransportError)
      (reached : task.reachesFlush host round = true) (filled : task.outbound.pending ≠ [])
      (refused : round.dispatch = .error error) :
      RoundEffect host task round
        { task with bridge := bridge, outbound := task.outbound.flush round.dispatch }
        (.error (.transport error))
  | advanced (bridge : BleHostBridge BleRuntimeEffects) (report : BleBridgeRoundReport)
      (reached : task.reachesFlush host round = true)
      (carried : task.outbound.pending = [] ∨ round.dispatch = .ok ())
      (outcome : round.advanceRound = .ok report.routerOutcome)
      (ingested : task.staged host round = .ok report.ingestedTransportObservations)
      (idle : bridge.pendingTransportObservations = [])
      (capacity : bridge.inboundCapacity = task.bridge.inboundCapacity) :
      RoundEffect host task round
        { task with bridge := bridge, outbound := task.outbound.flush round.dispatch }
        (.ok (.advanced report))
  | waiting (bridge : BleHostBridge BleRuntimeEffects) (state : BleBridgeWaitState)
      (reached : task.reachesFlush host round = true) (empty : task.outbound.pending = []) :
      RoundEffect host task round
        { task with bridge := bridge, outbound := task.outbound.flush round.dispatch }
        (.ok (.waiting state))

theorem driveRouter_answers (round : ClientRound) (pending : List OutboundEntry)
    (observations : List StagedObservation) :
    let answers := round.answers pending.length
    (∃ error, (answers.driveRouter observations).2 = .error error ∧
        ((answers.ingestLoop 0 observations).2.isOk && round.advanceRound.isOk) = false) ∨
      ((answers.ingestLoop 0 observations).2.isOk && round.advanceRound.isOk) = true ∧
        ∃ routerOutcome, round.advanceRound = .ok routerOutcome ∧
          ((∃ error, pending ≠ [] ∧ round.dispatch = .error error ∧
              (answers.driveRouter observations).2 = .error (.transport error)) ∨
            (pending = [] ∨ round.dispatch = .ok ()) ∧
              (answers.driveRouter observations).2 = .ok (routerOutcome, pending.length)) := by
  intro answers
  unfold BridgeAnswers.driveRouter
  obtain ⟨calls, result⟩ := answers.ingestLoop 0 observations
  cases result with
  | error error => exact Or.inl ⟨_, rfl, rfl⟩
  | ok _ =>
      have outcome : answers.advanceRound = round.advanceRound := rfl
      simp only [outcome]
      cases round.advanceRound with
      | error error => exact Or.inl ⟨_, rfl, rfl⟩
      | ok routerOutcome =>
          refine Or.inr ⟨rfl, routerOutcome, rfl, ?_⟩
          have flush : answers.flushOutbound =
              if pending.length = 0 then .ok 0 else round.dispatch.map fun () => pending.length := rfl
          by_cases empty : pending = []
          · exact Or.inr ⟨Or.inl empty, by simp [flush, empty]⟩
          · have filled : pending.length ≠ 0 := by simpa using empty
            cases dispatched : round.dispatch with
            | error error =>
                exact Or.inl ⟨error, empty, rfl, by simp [flush, empty, dispatched, Except.map]⟩
            | ok _ => exact Or.inr ⟨Or.inr rfl, by simp [flush, empty, dispatched, Except.map]⟩

theorem roundEffect (host : ClientHost) (task : ClientTask π) (round : ClientRound) :
    RoundEffect host task round (task.advanceRound host round).1
      (task.advanceRound host round).2 := by
  unfold ClientTask.advanceRound
  simp only
  obtain ⟨error, drained, result⟩ | ⟨staged, drained, driven⟩ := bridge_advanceRound_cases host.shape
    task.bridge (round.answers task.outbound.pending.length)
  · have unreached : task.reachesFlush host round = false := by
      simp [ClientTask.reachesFlush, ClientTask.staged, drained, Except.map]
    rw [result, unreached]
    exact .stopped _ _ unreached
  · have observed : task.staged host round = .ok staged.pendingTransportObservations := by
      simp [ClientTask.staged, drained, Except.map]
    have flushes : task.reachesFlush host round =
        (((round.answers task.outbound.pending.length).ingestLoop 0
          staged.pendingTransportObservations).2.isOk && round.advanceRound.isOk) := by
      simp [ClientTask.reachesFlush, observed]
    obtain ⟨error, failed, unreached⟩ | ⟨reached, routerOutcome, outcome, flushed⟩ :=
      driveRouter_answers round task.outbound.pending staged.pendingTransportObservations
    · rw [← flushes] at unreached
      obtain ⟨error', failed', result⟩ | ⟨outcome', flushed', succeeded, -⟩ := driven
      · rw [result, unreached]
        exact .stopped _ _ unreached
      · rw [failed] at succeeded
        cases succeeded
    · rw [← flushes] at reached
      obtain ⟨error, filled, refused, failed⟩ | ⟨carried, succeeded⟩ := flushed
      · obtain ⟨error', failed', result⟩ | ⟨outcome', flushed', succeeded, -⟩ := driven
        · rw [failed] at failed'
          obtain rfl := Except.error.inj failed'
          rw [result, reached]
          exact .refused _ error reached filled refused
        · rw [failed] at succeeded
          cases succeeded
      · obtain ⟨error', failed', -⟩ | ⟨outcome', flushed', succeeded', result⟩ := driven
        · rw [succeeded] at failed'
          cases failed'
        · rw [succeeded] at succeeded'
          obtain ⟨rfl, rfl⟩ := Prod.mk.inj (Except.ok.inj succeeded')
          obtain ⟨idle, capacity, result⟩ := result
          have kept := capacity_of_staged drained
          obtain ⟨report, result, own, ingested⟩ | ⟨state, result, -, none⟩ := result
          · rw [result, reached]
            exact .advanced _ report reached carried (own ▸ outcome) (ingested ▸ observed) idle
              (capacity.trans kept)
          · rw [result, reached]
            exact .waiting _ state reached (List.eq_nil_of_length_eq_zero none)

theorem roundEffect_of {after : ClientTask π} {result : Except BleBridgeError BleBridgeProgress}
    (driven : task.advanceRound host round = (after, result)) :
    RoundEffect host task round after result := by
  have effect := roundEffect host task round
  rw [driven] at effect
  exact effect

theorem RoundEffect.frame {after : ClientTask π} {result : Except BleBridgeError BleBridgeProgress}
    (effect : RoundEffect host task round after result) :
    ∃ bridge outbound, after = { task with bridge := bridge, outbound := outbound } := by
  cases effect <;> exact ⟨_, _, rfl⟩

theorem flush_subset (queue : OutboundQueue) (dispatch : Except TransportError Unit) :
    (queue.flush dispatch).pending ++ (queue.flush dispatch).dispatched ⊆
      queue.pending ++ queue.dispatched := by
  intro entry member
  cases dispatch with
  | ok _ =>
      simp only [OutboundQueue.flush, List.nil_append, List.mem_append] at member ⊢
      exact member.symm
  | error error => exact List.mem_append_right _ member

theorem RoundEffect.outbound_subset {after : ClientTask π}
    {result : Except BleBridgeError BleBridgeProgress}
    (effect : RoundEffect host task round after result) :
    after.outbound.pending ++ after.outbound.dispatched ⊆
      task.outbound.pending ++ task.outbound.dispatched := by
  cases effect with
  | stopped => exact List.Subset.refl _
  | refused | advanced | waiting => exact flush_subset _ _

theorem exists_immediate {progress : BleBridgeProgress}
    (follows : ClientTask.runsFollowUp progress = true) :
    ∃ report, progress = .advanced report ∧ report.routerOutcome.nextRoundHint = .immediate := by
  cases progress with
  | waiting state => cases follows
  | advanced report => exact ⟨report, rfl, of_decide_eq_true follows⟩

/-! ## Publications -/

theorem of_published {P : ClientTask π → Prop}
    (published : ∀ before : ClientTask π, P before → P before.publishTopology)
    {task : ClientTask π} (changed : Bool) (holds : P task) :
    P (if changed then task.publishTopology else task) := by
  cases changed with
  | false => exact holds
  | true => exact published task holds

theorem outbound_published (task : ClientTask π) (changed : Bool) :
    (if changed then task.publishTopology else task).outbound = task.outbound := by
  apply of_published (P := fun reached : ClientTask π => reached.outbound = task.outbound)
  · exact fun before same => same
  · rfl

/-! ## Applying a report -/

structure Kept (task reached : ClientTask π) : Prop where
  localNodeId : reached.localNodeId = task.localNodeId
  bridge : reached.bridge = task.bridge
  outbound : reached.outbound = task.outbound
  topology : reached.topology = task.topology
  topologyUpdates : reached.topologyUpdates = task.topologyUpdates
  routeCache : reached.routeCache = task.routeCache

variable [HostTopologyProjector π]

theorem kept_ingestObservations (host : ClientHost) (observations : List TransportObservation)
    (ingesting : ClientTask π × Bool) :
    Kept ingesting.1 (observations.foldl (ClientTask.ingestObservation host) ingesting).1 := by
  induction observations generalizing ingesting with
  | nil => exact ⟨rfl, rfl, rfl, rfl, rfl, rfl⟩
  | cons observation rest ih =>
      have kept := ih (ClientTask.ingestObservation host ingesting observation)
      rw [← List.foldl_cons] at kept
      generalize (observation :: rest).foldl (ClientTask.ingestObservation host) ingesting =
        reached at kept ⊢
      unfold ClientTask.ingestObservation at kept
      simp only at kept
      split at kept <;>
        exact ⟨kept.localNodeId, kept.bridge, kept.outbound, kept.topology, kept.topologyUpdates,
          kept.routeCache⟩

theorem kept_applyBridgeProgress (host : ClientHost) (task : ClientTask π)
    (progress : BleBridgeProgress) : Kept task (task.applyBridgeProgress host progress).1 := by
  cases progress with
  | waiting state => exact ⟨rfl, rfl, rfl, rfl, rfl, rfl⟩
  | advanced report =>
      have kept := kept_ingestObservations host
        (report.ingestedTransportObservations.map StagedObservation.observation) (task, false)
      simp only [ClientTask.applyBridgeProgress, ClientTask.applyBridgeReport,
        ClientTask.publishIncoming]
      split <;> exact ⟨kept.localNodeId, kept.bridge, kept.outbound, kept.topology,
        kept.topologyUpdates, kept.routeCache⟩

/-! ## A round with its follow-up -/

/-- A round that follows a successful one starts with nothing pending and nothing to dispatch. -/
theorem followUp_start {round : ClientRound} {after : ClientTask π} {progress : BleBridgeProgress}
    (next : ClientRound) (first : task.advanceRound host round = (after, .ok progress))
    (follows : ClientTask.runsFollowUp progress = true) :
    (after.applyBridgeProgress host progress).1.outbound = task.outbound.flush round.dispatch ∧
      ((after.applyBridgeProgress host progress).1.reachesFlush host next = true ↔
        RoundAnswered task.bridge.inboundCapacity 0 next) := by
  have kept := kept_applyBridgeProgress host after progress
  obtain ⟨report, rfl, -⟩ := exists_immediate follows
  cases roundEffect_of first with
  | advanced bridge report reached carried outcome ingested idle capacity =>
      refine ⟨kept.outbound, ?_⟩
      rw [reachesFlush_iff, kept.bridge]
      simp only [idle, capacity, List.length_nil]

/-- A follow-up fails only before its flush: there is nothing to dispatch. -/
theorem followUp_unanswered {rounds : ClientRounds} {after last : ClientTask π}
    {progress : BleBridgeProgress} {error : BleBridgeError}
    (first : task.advanceRound host rounds.first = (after, .ok progress))
    (follows : ClientTask.runsFollowUp progress = true)
    (second : (after.applyBridgeProgress host progress).1.advanceRound host rounds.followUp =
      (last, .error error)) :
    ¬ RoundAnswered task.bridge.inboundCapacity 0 rounds.followUp := by
  obtain ⟨outbound, reaches⟩ := followUp_start rounds.followUp first follows
  rw [← reaches]
  cases roundEffect_of second with
  | stopped _ _ unreached => simp [unreached]
  | refused _ _ reached filled refused =>
      rw [outbound] at filled
      exact absurd rfl filled

theorem followUp_answered {rounds : ClientRounds} {after last : ClientTask π}
    {progress next : BleBridgeProgress}
    (first : task.advanceRound host rounds.first = (after, .ok progress))
    (follows : ClientTask.runsFollowUp progress = true)
    (second : (after.applyBridgeProgress host progress).1.advanceRound host rounds.followUp =
      (last, .ok next)) :
    RoundAnswered task.bridge.inboundCapacity 0 rounds.followUp := by
  rw [← (followUp_start rounds.followUp first follows).2]
  cases roundEffect_of second with
  | advanced _ _ reached => exact reached
  | waiting _ _ reached => exact reached

inductive DriveEffect (host : ClientHost) (task : ClientTask π) (rounds : ClientRounds) :
    ClientTask π → Except BleClientError BleBridgeProgress → Prop
  | failed (after : ClientTask π) (error : BleBridgeError)
      (first : task.advanceRound host rounds.first = (after, .error error)) :
      DriveEffect host task rounds after (.error (.bridge error))
  | single (after : ClientTask π) (progress : BleBridgeProgress)
      (first : task.advanceRound host rounds.first = (after, .ok progress))
      (alone : ClientTask.runsFollowUp progress = false) :
      DriveEffect host task rounds
        (if (after.applyBridgeProgress host progress).2 then
          (after.applyBridgeProgress host progress).1.publishTopology
        else (after.applyBridgeProgress host progress).1)
        (.ok progress)
  | followUpFailed (after last : ClientTask π) (progress : BleBridgeProgress) (error : BleBridgeError)
      (first : task.advanceRound host rounds.first = (after, .ok progress))
      (follows : ClientTask.runsFollowUp progress = true)
      (second : (after.applyBridgeProgress host progress).1.advanceRound host rounds.followUp =
        (last, .error error)) :
      DriveEffect host task rounds last (.error (.bridge error))
  | followedUp (after last : ClientTask π) (progress next : BleBridgeProgress)
      (first : task.advanceRound host rounds.first = (after, .ok progress))
      (follows : ClientTask.runsFollowUp progress = true)
      (second : (after.applyBridgeProgress host progress).1.advanceRound host rounds.followUp =
        (last, .ok next)) :
      DriveEffect host task rounds
        (if (after.applyBridgeProgress host progress).2 || (last.applyBridgeProgress host next).2
          then (last.applyBridgeProgress host next).1.publishTopology
          else (last.applyBridgeProgress host next).1)
        (.ok next)

theorem driveEffect (host : ClientHost) (task : ClientTask π) (rounds : ClientRounds) :
    DriveEffect host task rounds (task.driveBridgeRound host rounds).1
      (task.driveBridgeRound host rounds).2 := by
  unfold ClientTask.driveBridgeRound
  cases first : task.advanceRound host rounds.first with
  | mk after result =>
      cases result with
      | error error => exact .failed after error first
      | ok progress =>
          simp only
          cases follows : ClientTask.runsFollowUp progress with
          | false => exact .single after progress first follows
          | true =>
              cases second :
                  (after.applyBridgeProgress host progress).1.advanceRound host rounds.followUp with
              | mk last result =>
                  cases result with
                  | error error =>
                      simp only [if_true]
                      exact .followUpFailed after last progress error first follows second
                  | ok next =>
                      simp only [if_true]
                      exact .followedUp after last progress next first follows second

/-- What every round, every report and every publication keeps is kept by driving the bridge. -/
theorem driveBridgeRound_induction {P : ClientTask π → Prop} (host : ClientHost)
    (task : ClientTask π) (rounds : ClientRounds) (start : P task)
    (advanced : ∀ {before after : ClientTask π} {round : ClientRound}
      {result : Except BleBridgeError BleBridgeProgress},
      P before → before.advanceRound host round = (after, result) → P after)
    (applied : ∀ (before : ClientTask π) (progress : BleBridgeProgress), P before →
      P (before.applyBridgeProgress host progress).1)
    (published : ∀ before : ClientTask π, P before → P before.publishTopology) :
    P (task.driveBridgeRound host rounds).1 := by
  have effect := driveEffect host task rounds
  generalize task.driveBridgeRound host rounds = outcome at effect ⊢
  obtain ⟨last, result⟩ := outcome
  simp only at effect ⊢
  cases effect with
  | failed _ error first => exact advanced start first
  | single after progress first alone =>
      exact of_published published _ (applied after progress (advanced start first))
  | followUpFailed after _ progress error first follows second =>
      exact advanced (applied after progress (advanced start first)) second
  | followedUp after last progress next first follows second =>
      exact of_published published _ (applied last next
        (advanced (applied after progress (advanced start first)) second))

theorem driveBridgeRound_outbound_subset (host : ClientHost) (task : ClientTask π)
    (rounds : ClientRounds) :
    let reached := (task.driveBridgeRound host rounds).1
    reached.outbound.pending ++ reached.outbound.dispatched ⊆
      task.outbound.pending ++ task.outbound.dispatched := by
  refine driveBridgeRound_induction (P := fun reached =>
    reached.outbound.pending ++ reached.outbound.dispatched ⊆
      task.outbound.pending ++ task.outbound.dispatched) host task rounds (List.Subset.refl _)
    ?_ ?_ ?_
  · intro before after round result subset driven
    exact List.Subset.trans (roundEffect_of driven).outbound_subset subset
  · intro before progress subset
    rw [(kept_applyBridgeProgress host before progress).outbound]
    exact subset
  · exact fun before subset => subset

end JqBle.Proof.Client
