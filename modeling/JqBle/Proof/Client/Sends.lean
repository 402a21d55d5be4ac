import JqBle.Proof.Client.Commands
import JqBle.Proof.Client.Projector
import JqBle.Demo.Relay

/-!
# What a failed send leaves behind

A command is in the outbound queue before the bridge round that flushes it. An error of that round, or
of the follow-up after it, is returned for a payload that is still queued or already with the
runtime.
-/

namespace JqBle.Proof.Client
open Std Host Library JqBle.LinkProfile JqBle.NodeProfile JqBle.Client

variable {π : Type} [HostTopologyProjector π] {host : ClientHost} {task queued : ClientTask π}
  {answers : SendAnswers} {rounds : ClientRounds}

/-! ## The rounds after a command was queued -/

/-- The first round comes to the flush, and then the runtime refuses the batch or nothing fails any
more. -/
def Settles (task : ClientTask π) (rounds : ClientRounds) : Prop :=
  RoundAnswered task.bridge.inboundCapacity task.bridge.pendingTransportObservations.length
      rounds.first ∧
    ((∃ error, rounds.first.dispatch = .error error) ∨
      ∀ outcome, rounds.first.advanceRound = .ok outcome → outcome.nextRoundHint = .immediate →
        RoundAnswered task.bridge.inboundCapacity 0 rounds.followUp)

/-- Nothing that was queued from number `start` on is in the queue or with the runtime. -/
def OutboundQueue.Clear (queue : OutboundQueue) (start : Nat) : Prop :=
  ∀ entry ∈ queue.pending ++ queue.dispatched, entry.number < start

theorem not_clear_push (queue : OutboundQueue) (nextHopNodeId : Option NodeId)
    (command : BleOutboundCommand) :
    ¬ OutboundQueue.Clear (queue.push nextHopNodeId command) queue.queued := by
  intro clear
  have own := clear ⟨queue.queued, nextHopNodeId, command⟩ (by simp [OutboundQueue.push])
  exact Nat.lt_irrefl _ own

theorem not_clear_flush (queue : OutboundQueue) (nextHopNodeId : Option NodeId)
    (command : BleOutboundCommand) :
    ¬ OutboundQueue.Clear ((queue.push nextHopNodeId command).flush (.ok ())) queue.queued := by
  intro clear
  have own := clear ⟨queue.queued, nextHopNodeId, command⟩
    (by simp [OutboundQueue.push, OutboundQueue.flush])
  exact Nat.lt_irrefl _ own

theorem clear_refused (queue : OutboundQueue) (nextHopNodeId : Option NodeId)
    (command : BleOutboundCommand) (error : TransportError) :
    OutboundQueue.Clear ((queue.push nextHopNodeId command).flush (.error error)) queue.queued := by
  intro entry member
  exact queue.numbered entry (List.mem_append_right _ member)

theorem driveBridgeRound_clear_iff (host : ClientHost) (rounds : ClientRounds)
    {queue : OutboundQueue} {nextHopNodeId : Option NodeId} {command : BleOutboundCommand}
    (pushed : queued.outbound = queue.push nextHopNodeId command) :
    (∀ error, (queued.driveBridgeRound host rounds).2 = .error error →
        OutboundQueue.Clear (queued.driveBridgeRound host rounds).1.outbound queue.queued) ↔
      Settles queued rounds := by
  have filled : queued.outbound.pending ≠ [] := by simp [pushed, OutboundQueue.push]
  have effect := driveEffect host queued rounds
  generalize queued.driveBridgeRound host rounds = outcome at effect ⊢
  obtain ⟨reached, result⟩ := outcome
  simp only at effect ⊢
  cases effect with
  | failed _ error first =>
      cases roundEffect_of first with
      | stopped bridge _ unreached =>
          have left := not_clear_push queue nextHopNodeId command
          have unanswered := mt (reachesFlush_iff host queued rounds.first).mpr (by simp [unreached])
          simp [Settles, unanswered, pushed, left]
      | refused bridge error reached _ refused =>
          have cleared := clear_refused queue nextHopNodeId command error
          have answered := (reachesFlush_iff host queued rounds.first).mp reached
          simp [Settles, answered, refused, pushed, cleared]
  | single after progress first alone =>
      apply iff_of_true
      · intro error failed
        cases failed
      · cases roundEffect_of first with
        | advanced bridge report reached _ outcome =>
            refine ⟨(reachesFlush_iff host queued rounds.first).mp reached, Or.inr ?_⟩
            intro routerOutcome same immediate
            obtain rfl := Except.ok.inj (outcome.symm.trans same)
            simp [ClientTask.runsFollowUp, immediate] at alone
        | waiting _ _ _ empty => exact absurd empty filled
  | followUpFailed after last progress error first follows second =>
      have unanswered := followUp_unanswered first follows second
      obtain ⟨outbound, reaches⟩ := followUp_start rounds.followUp first follows
      obtain ⟨report, rfl, immediate⟩ := exists_immediate follows
      cases roundEffect_of first with
      | advanced bridge _ _ carried outcome =>
          have dispatched := carried.resolve_left filled
          have flushed : queued.outbound.flush rounds.first.dispatch =
              (queue.push nextHopNodeId command).flush (.ok ()) := by rw [pushed, dispatched]
          apply iff_of_false
          · intro clear
            -- The follow-up has nothing to dispatch, so it leaves the flushed queue alone.
            cases roundEffect_of second with
            | stopped =>
                have cleared := clear _ rfl
                simp only [outbound] at cleared
                rw [flushed] at cleared
                exact not_clear_flush queue nextHopNodeId command cleared
            | refused _ _ reached => exact unanswered (reaches.mp reached)
          · rintro ⟨-, ⟨error, refused⟩ | followsUp⟩
            · rw [dispatched] at refused
              cases refused
            · exact unanswered (followsUp _ outcome immediate)
  | followedUp after last progress next first follows second =>
      have answered := followUp_answered first follows second
      apply iff_of_true
      · intro error failed
        cases failed
      · obtain ⟨report, rfl, -⟩ := exists_immediate follows
        cases roundEffect_of first with
        | advanced bridge _ reached =>
            exact ⟨(reachesFlush_iff host queued rounds.first).mp reached,
              Or.inr fun _ _ _ => answered⟩

/-! ## Failed commands -/

def Accepted (host : ClientHost) (task : ClientTask π) (answers : SendAnswers)
    (command : ClientCommand) : Prop :=
  ∃ queued changed reply, Queues host task answers command queued changed reply

theorem Queues.settles_iff {command : ClientCommand} {changed : Bool} {reply : ClientReply}
    (queues : Queues host task answers command queued changed reply) :
    (∀ error, (queued.driveBridgeRound host answers.rounds).2 = .error error →
        OutboundQueue.Clear (queued.driveBridgeRound host answers.rounds).1.outbound
          task.outbound.queued) ↔
      Settles task answers.rounds := by
  obtain ⟨nextHopNodeId, outbound, pushed⟩ := queues.pushed
  rw [driveBridgeRound_clear_iff host answers.rounds pushed, Settles, queues.bridge]
  rfl

/-- A failed command leaves nothing to transmit exactly when it was refused before it was queued, or
the rounds after it settle. -/
theorem failed_command_leaves_nothing_iff (host : ClientHost) (task : ClientTask π)
    (command : ClientCommand) (answers : SendAnswers) :
    (∀ error, (task.handleCommand host answers command).2 = .error error →
        OutboundQueue.Clear (task.handleCommand host answers command).1.outbound
          task.outbound.queued) ↔
      (Accepted host task answers command → Settles task answers.rounds) := by
  have handled := handled host task answers command
  generalize task.handleCommand host answers command = outcome at handled ⊢
  obtain ⟨reached, result⟩ := outcome
  simp only at handled ⊢
  cases handled with
  | refused _ error unqueued kept =>
      have clear : OutboundQueue.Clear reached.outbound task.outbound.queued := by
        rw [kept.outbound]
        exact task.outbound.numbered
      refine ⟨?_, fun _ _ _ => clear⟩
      rintro - ⟨queued, changed, reply, queues⟩
      exact absurd queues (unqueued queued changed reply)
  | failed queued _ changed reply error queues driven =>
      have settles := queues.settles_iff
      simp only [driven] at settles
      rw [← settles]
      simp only [Except.error.injEq, forall_eq']
      exact ⟨fun clear _ => clear, fun clear => clear ⟨queued, changed, reply, queues⟩⟩
  | replied queued after changed reply progress queues driven =>
      have settles := queues.settles_iff
      simp only [driven, reduceCtorEq, false_implies, implies_true, true_iff] at settles
      simp [settles]

/-! ## A payload that is sent twice -/

namespace Scenario
open JqBle.Proof.LinkProfile.Scenario

def clientHost : ClientHost where
  shape := shaping
  shapeMulticast := fun _ => none
  preset := plainPreset
  selectedNeighborFromBackendRouteId := fun _ => some (node 2)
  admittedDeliveryIntent := fun _ _ _ => .error .deliveryAssumptionUnsupported

def quietRound (drained : List TransportIngressEvent) : ClientRound where
  sharedClock := id
  notifierSnapshot := 0
  drainRawIngress := .ok drained
  ingestTransportObservation := fun _ => .ok ()
  advanceRound := .ok { engineChange := .noChange, nextRoundHint := .hostDefault }
  dispatch := .ok ()

def quietRounds (drained : List TransportIngressEvent) : ClientRounds :=
  ⟨quietRound drained, quietRound []⟩

def activation (rounds : ClientRounds) : SendAnswers where
  activeRoute := fun _ => none
  forwardCached := fun _ => .ok ()
  activateRoute := .ok neighborRoute
  forwardActivated := fun _ => .ok ()
  sendTransport := .ok ()
  rounds := rounds

def timedOut : ClientRounds :=
  ⟨{ quietRound [] with advanceRound := .error (.transport .timedOut) }, quietRound []⟩

def spawned : ClientTask CopyingProjector := .spawn (node 1) firstTopology []

def linked : ClientTask CopyingProjector :=
  spawned.step clientHost (.bridgeRound (quietRounds [rawBleLinkObservedEvent (node 2)
    (gattEndpoint ⟨"peer"⟩)]))

end Scenario

theorem retried_payload_sent_twice :
    let failed := Scenario.linked.handleCommand Scenario.clientHost
      (Scenario.activation Scenario.timedOut) (.send (LinkProfile.Scenario.node 2) [7])
    let relayed := Demo.relayFramedPayload Scenario.clientHost (LinkProfile.Scenario.node 2) [7]
      Scenario.linked [⟨[], Scenario.activation Scenario.timedOut⟩,
        ⟨[], Scenario.activation (Scenario.quietRounds [])⟩]
    failed.2 = .error (.bridge (.route (.transport .timedOut))) ∧
      Demo.relayRetryable (.bridge (.route (.transport .timedOut))) = true ∧
      ¬ OutboundQueue.Clear failed.1.outbound Scenario.linked.outbound.queued ∧
      relayed.1.outbound.dispatched.map (fun entry => entry.command.payload) =
        [encodeClientPayload [7], encodeClientPayload [7]] := by
  intro failed relayed
  refine ⟨by decide +kernel, rfl, ?_, by decide +kernel⟩
  have left : failed.1.outbound.pending.map OutboundEntry.number = [0] := by decide +kernel
  have first : Scenario.linked.outbound.queued = 0 := by decide +kernel
  intro clear
  obtain ⟨entry, pending, number⟩ : ∃ entry ∈ failed.1.outbound.pending, entry.number = 0 := by
    simpa using List.mem_map.mp (left ▸ List.mem_singleton_self 0)
  have earlier := clear entry (List.mem_append_left _ pending)
  rw [first] at earlier
  exact Nat.not_lt_zero _ earlier

end JqBle.Proof.Client
