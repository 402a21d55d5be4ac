import JqBle.Client.Wakeup
import JqBle.Proof.Client.Bridge

/-!
# The parked loop is woken

The notifier is read before the mailbox is drained. From then on an event that is in the mailbox has
come after the drain, so its emit changes the notifier after the snapshot.
-/

namespace JqBle.Proof.Client
open Host Library Execution JqBle.LinkProfile JqBle.Client

variable {loop : ClientLoop} {shape : CastShaping}

/-! ## Snapshots in hand -/

/-- The value of the notifier that the stage has kept. -/
def keptSnapshot : LoopStage → Option Nat
  | .snapshotted _ _ snapshot | .drained _ _ snapshot _ | .checking _ snapshot | .sleeping snapshot
  | .parked snapshot => some snapshot
  | .waiting waitState => some waitState.notifierSnapshot
  | _ => none

def drainedSnapshot : LoopStage → Option Nat
  | .drained _ _ snapshot (.ok _) | .checking _ snapshot | .sleeping snapshot | .parked snapshot =>
      some snapshot
  | .waiting waitState => some waitState.notifierSnapshot
  | _ => none

/-- Every event in the mailbox is one whose emit has still to change the notifier, or it has changed
since the snapshot. -/
def WakesFrom (loop : ClientLoop) (snapshot : Nat) : Prop :=
  (∀ queued ∈ loop.mailbox.items, queued.number ∈ loop.unannounced) ∨ loop.notifier ≠ snapshot

structure Wakeful (loop : ClientLoop) : Prop where
  current : loop.notifier ∈ loop.spent
  kept : ∀ snapshot, keptSnapshot loop.stage = some snapshot → snapshot ∈ loop.spent
  wakes : ∀ snapshot, drainedSnapshot loop.stage = some snapshot → WakesFrom loop snapshot

theorem kept_of_drained {stage : LoopStage} {snapshot : Nat}
    (drained : drainedSnapshot stage = some snapshot) : keptSnapshot stage = some snapshot := by
  cases stage with
  | drained caller followUp taken rawEvents =>
      cases rawEvents with
      | error error => cases drained
      | ok rawEvents => exact drained
  | waiting | checking | sleeping | parked => exact drained
  | ready | advancing | snapshotted | recovering | stopped => cases drained

/-! ## Emits -/

theorem Wakeful.enqueue (wakeful : Wakeful loop) (event : TransportIngressEvent) :
    Wakeful (loop.enqueue event) := by
  obtain ⟨current, kept, wakes⟩ := wakeful
  unfold ClientLoop.enqueue
  split
  · exact ⟨current, kept, wakes⟩
  · rename_i mailbox pushed
    refine ⟨current, kept, fun snapshot drained => ?_⟩
    rcases wakes snapshot drained with all | changed
    · left
      have items : mailbox.items = loop.mailbox.items ++ [⟨loop.emitted, event⟩] := by
        unfold BoundedQueue.push at pushed
        split at pushed
        · rw [← Option.some.inj pushed]
        · cases pushed
      intro queued member
      simp only [items, List.mem_append, List.mem_singleton] at member ⊢
      rcases member with old | rfl
      · exact Or.inl (all queued old)
      · exact Or.inr rfl
    · exact Or.inr changed

theorem Wakeful.announce (wakeful : Wakeful loop) (number value : Nat) :
    Wakeful (loop.announce number value) := by
  obtain ⟨current, kept, wakes⟩ := wakeful
  unfold ClientLoop.announce
  split
  · rename_i announces
    refine ⟨List.mem_cons_self, fun snapshot held => List.mem_cons_of_mem _ (kept snapshot held),
      fun snapshot drained => Or.inr ?_⟩
    rintro rfl
    exact announces.2 (kept _ (kept_of_drained drained))
  · exact ⟨current, kept, wakes⟩

theorem Wakeful.emit (wakeful : Wakeful loop) (event : TransportIngressEvent) (value : Nat) :
    Wakeful (loop.emit event value) := by
  unfold ClientLoop.emit
  split
  · exact (wakeful.enqueue event).announce loop.emitted value
  · exact wakeful

/-! ## The loop -/

theorem Wakeful.stage {bridge : BleHostBridge BleRuntimeEffects} {stage : LoopStage}
    (wakeful : Wakeful loop)
    (same : ∀ snapshot, keptSnapshot stage = some snapshot →
      drainedSnapshot loop.stage = some snapshot) :
    Wakeful { loop with bridge := bridge, stage := stage } :=
  ⟨wakeful.current, fun snapshot held => wakeful.kept snapshot (kept_of_drained (same snapshot held)),
    fun snapshot drained => wakeful.wakes snapshot (same snapshot (kept_of_drained drained))⟩

theorem advanceRound_waiting {bridge : BleHostBridge BleRuntimeEffects}
    {answers : BridgeAnswers BleRuntimeEffects} {waitState : BleBridgeWaitState}
    (waiting : (bridge.advanceRound shape answers).2 = .ok (.waiting waitState)) :
    waitState.notifierSnapshot = answers.notifierSnapshot ∧
      ∃ rawEvents, answers.drainRawIngress = .ok rawEvents := by
  unfold BleHostBridge.advanceRound BleHostBridge.stageTransportIngress at waiting
  cases drained : answers.drainRawIngress with
  | error error => simp [drained] at waiting
  | ok rawEvents =>
      refine ⟨?_, rawEvents, rfl⟩
      simp only [drained] at waiting
      split at waiting
      · cases waiting
      · split at waiting
        · cases waiting
          rfl
        · cases waiting

theorem kept_afterRound {caller : RoundCaller} {followUp : Bool} {notifier snapshot : Nat}
    {result : Except BleBridgeError BleBridgeProgress}
    (kept : keptSnapshot (ClientLoop.afterRound caller followUp notifier result) = some snapshot) :
    ∃ waitState, result = .ok (.waiting waitState) ∧ waitState.notifierSnapshot = snapshot := by
  unfold ClientLoop.afterRound at kept
  split at kept
  · split at kept <;> cases kept
  · split at kept
    · cases kept
    · split at kept
      · cases kept
      · cases kept
      · exact ⟨_, rfl, Option.some.inj kept⟩

theorem kept_afterDecision {waitState : BleBridgeWaitState} {snapshot : Nat}
    (kept : keptSnapshot (ClientLoop.afterDecision waitState) = some snapshot) :
    waitState.notifierSnapshot = snapshot := by
  unfold ClientLoop.afterDecision waitDecision at kept
  split at kept
  · cases kept
  · rename_i decided
    exact Option.some.inj kept
  · rename_i blocked decided
    split at decided
    · cases decided
    · split at decided <;> cases decided
      exact Option.some.inj kept

theorem Wakeful.step (wakeful : Wakeful loop) (next : LoopStep) :
    Wakeful (loop.step shape next) := by
  have idle {stage : LoopStage} (none : keptSnapshot stage = none) :
      Wakeful { loop with stage := stage } := by
    refine wakeful.stage fun snapshot held => ?_
    rw [none] at held
    cases held
  cases next with
  | command drives =>
      simp only [ClientLoop.step]
      split
      · cases drives <;> exact idle rfl
      · exact wakeful
  | driveBridgeRound =>
      simp only [ClientLoop.step]
      split
      · exact idle rfl
      · exact wakeful
  | snapshot =>
      simp only [ClientLoop.step]
      split
      · refine ⟨wakeful.current, ?_, fun snapshot drained => nomatch drained⟩
        rintro snapshot ⟨⟩
        exact wakeful.current
      · exact wakeful
  | drain failure =>
      have kept := wakeful.kept
      simp only [ClientLoop.step]
      split
      · rename_i stage
        rw [stage] at kept
        exact ⟨wakeful.current, kept, fun snapshot drained => nomatch drained⟩
      · rename_i stage
        rw [stage] at kept
        refine ⟨wakeful.current, kept, fun snapshot drained => Or.inl ?_⟩
        simp [BoundedQueue.drop]
      · exact wakeful
  | finishRound answers =>
      simp only [ClientLoop.step]
      split
      · rename_i caller followUp taken rawEvents stage
        refine wakeful.stage fun snapshot held => ?_
        obtain ⟨waitState, result, rfl⟩ := kept_afterRound held
        obtain ⟨same, rawEvents, drained⟩ := advanceRound_waiting result
        simp only at same drained
        simp only [stage, drained, same]
        rfl
      · exact wakeful
  | waitForWork =>
      simp only [ClientLoop.step]
      split
      · rename_i waitState stage
        refine wakeful.stage fun snapshot held => ?_
        rw [stage, ← kept_afterDecision held]
        rfl
      · exact wakeful
  | check =>
      simp only [ClientLoop.step]
      split
      · rename_i ticks taken stage
        refine wakeful.stage fun snapshot held => ?_
        rw [stage]
        split at held
        · cases held
        · split at held <;> exact held
      · exact wakeful
  | elapsed =>
      simp only [ClientLoop.step]
      split
      · exact idle rfl
      · exact idle rfl
      · exact wakeful
  | changed =>
      simp only [ClientLoop.step]
      split
      · split
        · exact idle rfl
        · exact wakeful
      · split
        · exact idle rfl
        · exact wakeful
      · split
        · exact idle rfl
        · exact wakeful
      · exact wakeful
  | shutdown =>
      simp only [ClientLoop.step]
      split
      · exact idle rfl
      · exact wakeful
  | enqueue event => exact wakeful.enqueue event
  | announce number value => exact wakeful.announce number value
  | emit event value => exact wakeful.emit event value

theorem wakeful_start (localNodeId : NodeId) (tick : Tick) (ingressCapacity notifier : Nat) :
    Wakeful (.start localNodeId tick ingressCapacity notifier) where
  current := List.mem_singleton_self _
  kept := fun _ kept => nomatch kept
  wakes := fun _ drained => nomatch drained

/-! ## Emits that are one step -/

def Emits : LoopStep → Prop
  | .enqueue _ | .announce .. | .emit .. => True
  | _ => False

theorem step_frame (shape : CastShaping) (loop : ClientLoop) {next : LoopStep}
    (own : ¬ Emits next) : ∃ bridge stage mailbox,
      loop.step shape next = { loop with bridge := bridge, stage := stage, mailbox := mailbox } := by
  cases next with
  | enqueue | announce | emit => exact absurd trivial own
  | command | driveBridgeRound | snapshot | drain | finishRound | waitForWork | check | elapsed
  | shutdown =>
      simp only [ClientLoop.step]
      split <;> exact ⟨_, _, _, rfl⟩
  | changed =>
      simp only [ClientLoop.step]
      split
      · split <;> exact ⟨_, _, _, rfl⟩
      · split <;> exact ⟨_, _, _, rfl⟩
      · split <;> exact ⟨_, _, _, rfl⟩
      · exact ⟨_, _, _, rfl⟩

theorem emit_announced (announced : loop.unannounced = []) (event : TransportIngressEvent)
    (value : Nat) : (loop.emit event value).unannounced = [] := by
  unfold ClientLoop.emit
  split
  · rename_i emits
    obtain ⟨mailbox, pushed⟩ : ∃ mailbox, loop.mailbox.push ⟨loop.emitted, event⟩ = some mailbox := by
      rw [← Option.ne_none_iff_exists', ne_eq, BoundedQueue.push_eq_none, emits.1]
      exact Bool.false_ne_true
    simp [ClientLoop.enqueue, pushed, ClientLoop.announce, announced, emits.2]
  · exact announced

theorem announced_step (announced : loop.unannounced = []) {next : LoopStep}
    (whole : ∀ event, next ≠ .enqueue event) : (loop.step shape next).unannounced = [] := by
  by_cases emits : Emits next
  · cases next with
    | enqueue event => exact absurd rfl (whole event)
    | announce number value => simp [ClientLoop.step, ClientLoop.announce, announced]
    | emit event value => exact emit_announced announced event value
    | _ => cases emits
  · obtain ⟨bridge, stage, mailbox, same⟩ := step_frame shape loop emits
    rw [same]
    exact announced

/-- Whenever the loop is parked, the events in the mailbox are those whose emit has still to change the
notifier, or the notifier has changed since the snapshot; if emits are one step, there are none of the
former. -/
theorem parked_loop_wakes (shape : CastShaping) (localNodeId : NodeId) (tick : Tick)
    (ingressCapacity notifier : Nat) (steps : List LoopStep) (snapshot : Nat) :
    let loop := exec (ClientLoop.step shape) (.start localNodeId tick ingressCapacity notifier) steps
    loop.stage = .parked snapshot →
      ((∀ queued ∈ loop.mailbox.items, queued.number ∈ loop.unannounced) ∨
          loop.notifier ≠ snapshot) ∧
        ((∀ event, LoopStep.enqueue event ∉ steps) →
          loop.mailbox.items = [] ∨ loop.notifier ≠ snapshot) := by
  intro loop parked
  have wakeful : Wakeful loop :=
    exec_always (wakeful_start localNodeId tick ingressCapacity notifier)
      (fun _ next wakeful => wakeful.step next) steps
  have wakes := wakeful.wakes snapshot (by rw [parked]; rfl)
  refine ⟨wakes, fun whole => ?_⟩
  have meets : Meets (ClientLoop.step shape) (fun _ next => ∀ event, next ≠ .enqueue event)
      (.start localNodeId tick ingressCapacity notifier) steps := by
    apply meets_of_forall
    rintro _ member _ event rfl
    exact whole event member
  have announced : loop.unannounced = [] :=
    exec_invariant (P := fun loop : ClientLoop => loop.unannounced = []) rfl
      (fun _ _ announced whole => announced_step announced whole) meets
  rcases wakes with all | changed
  · left
    rw [announced] at all
    exact List.eq_nil_iff_forall_not_mem.mpr fun queued member => nomatch all queued member
  · exact Or.inr changed

/-! A quiet round, after which the loop parks, and an emit while it is parked. -/

def parking : List LoopStep :=
  [.driveBridgeRound, .snapshot, .drain none, .finishRound quietAnswers, .waitForWork, .check,
    .emit (.payloadReceived (LinkProfile.Scenario.node 2) (gattEndpoint ⟨"peer"⟩) [7]) 1]

theorem parked_loop_woken_by_payload :
    let loop := exec (ClientLoop.step LinkProfile.Scenario.shaping)
      (.start (LinkProfile.Scenario.node 1) 1 8 0) parking
    loop.stage = .parked 0 ∧ loop.mailbox.items.length = 1 ∧
      (loop.mailbox.items = [] ∨ loop.notifier ≠ 0) := by
  intro loop
  have parked : loop.stage = .parked 0 := rfl
  refine ⟨parked, rfl, (parked_loop_wakes _ _ _ _ _ parking 0 parked).2 ?_⟩
  intro event member
  simp [parking] at member

end JqBle.Proof.Client
