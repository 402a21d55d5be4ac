import JqBle.Client.Bridge
import JqBle.Proof.LinkProfile.Scenario
import Mathlib.Algebra.GroupWithZero.Nat

/-!
# Accounting for the raw ingress of a bridge

A round moves all pending observations out of the bridge before it calls the router. They come back
only in the report of a round that succeeds, so a call that fails after them loses them.
-/

namespace JqBle.Proof.Client
open Host Library Execution JqBle.LinkProfile JqBle.Client JqBle.Proof.LinkProfile

variable {κ : Type}

def reportedObservations : Except BleBridgeError BleBridgeProgress → List StagedObservation
  | .ok (.advanced report) => report.ingestedTransportObservations
  | .ok (.waiting _) => []
  | .error _ => []

def reportedDrops : Except BleBridgeError BleBridgeProgress → Nat
  | .ok (.advanced report) => report.droppedTransportObservations
  | .ok (.waiting state) => state.droppedTransportObservations
  | .error _ => 0

def listed (history : BridgeHistory κ) : List Nat :=
  (history.returned.flatMap reportedObservations ++
    history.bridge.pendingTransportObservations).map StagedObservation.arrival

def counted (history : BridgeHistory κ) : Nat :=
  (history.returned.map reportedDrops).sum + history.bridge.droppedTransportObservations

/-- Every raw event is listed once, or it is one of the others, and those are counted. -/
structure Accounted (history : BridgeHistory κ) : Prop where
  once : (listed history).Nodup
  arrived : ∀ arrival ∈ listed history, arrival < history.bridge.arrived
  complete : (listed history).length + counted history = history.bridge.arrived

/-! ## When a round keeps its ingress -/

def Serves (answers : BridgeAnswers κ) (kept : Nat) : Prop :=
  (∀ position < kept, answers.ingestTransportObservation position = .ok ()) ∧
    (∃ routerOutcome, answers.advanceRound = .ok routerOutcome) ∧
    ∃ flushed, answers.flushOutbound = .ok flushed

/-- A round whose drain succeeds either has nothing to hand over or fails nowhere, and the drops fit
the counter they go to: that of a report if the round succeeds, else that of the bridge. -/
def KeepsIngress (history : BridgeHistory κ) (answers : BridgeAnswers κ) : Prop :=
  ∀ rawEvents, answers.drainRawIngress = .ok rawEvents →
    let kept := min history.bridge.inboundCapacity rawEvents.length
    let dropped := history.bridge.droppedTransportObservations +
      (rawEvents.length - history.bridge.inboundCapacity)
    (Serves answers kept ∧ dropped ≤ u32Max) ∨
      (¬ Serves answers kept ∧ kept = 0 ∧ dropped ≤ usizeMax)

/-! ## Handing over -/

theorem ingestLoop_eq_ok (answers : BridgeAnswers κ) (position : Nat)
    (ingested : List StagedObservation) :
    (answers.ingestLoop position ingested).2 = .ok () ↔
      ∀ offset < ingested.length,
        answers.ingestTransportObservation (position + offset) = .ok () := by
  induction ingested generalizing position with
  | nil => simp [BridgeAnswers.ingestLoop]
  | cons first rest ih =>
      unfold BridgeAnswers.ingestLoop
      rw [List.length_cons, Nat.forall_lt_succ_left]
      cases answer : answers.ingestTransportObservation position with
      | error error => simp
      | ok accepted =>
          rw [ih]
          simp [Nat.add_assoc, Nat.add_comm 1]

theorem serves_iff (answers : BridgeAnswers κ) (ingested : List StagedObservation) :
    Serves answers ingested.length ↔ ∃ result, (answers.driveRouter ingested).2 = .ok result := by
  have loop := ingestLoop_eq_ok answers 0 ingested
  simp only [Nat.zero_add] at loop
  unfold Serves BridgeAnswers.driveRouter
  rw [← loop]
  obtain ⟨calls, result⟩ := answers.ingestLoop 0 ingested
  cases result <;> cases answers.advanceRound <;> cases answers.flushOutbound <;> simp

/-! ## Staging -/

section Rounds
variable [BleBridgeClock κ] (shape : CastShaping)

theorem stageEvent_of_full {bridge : BleHostBridge κ} {tick : Tick}
    (full : bridge.inboundCapacity ≤ bridge.pendingTransportObservations.length)
    (event : TransportIngressEvent) :
    bridge.stageEvent shape tick event =
      { bridge with
        arrived := bridge.arrived + 1
        droppedTransportObservations :=
          saturatingAdd usizeMax bridge.droppedTransportObservations 1 } := by
  unfold BleHostBridge.stageEvent
  simp only [if_pos full]

theorem stageEvent_of_room {bridge : BleHostBridge κ} {tick : Tick}
    (room : ¬ bridge.inboundCapacity ≤ bridge.pendingTransportObservations.length)
    (event : TransportIngressEvent) :
    ∃ clock observation, bridge.stageEvent shape tick event =
      { bridge with
        clock := clock
        arrived := bridge.arrived + 1
        pendingTransportObservations :=
          bridge.pendingTransportObservations ++ [⟨bridge.arrived, observation⟩] } := by
  unfold BleHostBridge.stageEvent
  simp only [if_neg room]
  cases event with
  | payloadReceived fromNodeId endpoint payload => exact ⟨_, _, rfl⟩
  | linkObserved nodeId link sourceClass evidenceClass origin => exact ⟨_, _, rfl⟩

theorem min_saturatingAdd (limit value amount : Nat) :
    min (saturatingAdd limit value 1 + amount) limit = min (value + (amount + 1)) limit := by
  unfold saturatingAdd
  omega

theorem stage_spec (tick : Tick) (events : List TransportIngressEvent) (bridge : BleHostBridge κ)
    (bounded : bridge.droppedTransportObservations ≤ usizeMax) :
    let room := bridge.inboundCapacity - bridge.pendingTransportObservations.length
    let staged := events.foldl (BleHostBridge.stageEvent shape tick) bridge
    staged.pendingTransportObservations.map StagedObservation.arrival =
        bridge.pendingTransportObservations.map StagedObservation.arrival ++
          List.range' bridge.arrived (min room events.length) ∧
      staged.droppedTransportObservations =
        min (bridge.droppedTransportObservations + (events.length - room)) usizeMax ∧
      staged.arrived = bridge.arrived + events.length ∧
      staged.inboundCapacity = bridge.inboundCapacity := by
  induction events generalizing bridge with
  | nil => simp [bounded]
  | cons event rest ih =>
      dsimp only at ih ⊢
      rw [List.foldl_cons]
      by_cases full : bridge.inboundCapacity ≤ bridge.pendingTransportObservations.length
      · rw [stageEvent_of_full shape full]
        have saturated : saturatingAdd usizeMax bridge.droppedTransportObservations 1 ≤
            usizeMax := Nat.min_le_right ..
        obtain ⟨pending, dropped, arrived, capacity⟩ := ih
          { bridge with
            arrived := bridge.arrived + 1
            droppedTransportObservations :=
              saturatingAdd usizeMax bridge.droppedTransportObservations 1 } saturated
        have noRoom : bridge.inboundCapacity - bridge.pendingTransportObservations.length = 0 :=
          Nat.sub_eq_zero_of_le full
        refine ⟨?_, ?_, ?_, capacity⟩
        · rw [pending]
          simp [noRoom]
        · rw [dropped, noRoom, Nat.sub_zero, Nat.sub_zero]
          exact min_saturatingAdd usizeMax bridge.droppedTransportObservations rest.length
        · rw [arrived]
          simp only [List.length_cons]
          omega
      · obtain ⟨clock, observation, staged⟩ := stageEvent_of_room shape full event
        rw [staged]
        obtain ⟨pending, dropped, arrived, capacity⟩ := ih
          { bridge with
            clock := clock
            arrived := bridge.arrived + 1
            pendingTransportObservations :=
              bridge.pendingTransportObservations ++ [⟨bridge.arrived, observation⟩] } bounded
        have less : min (bridge.inboundCapacity - bridge.pendingTransportObservations.length)
            (rest.length + 1) = min (bridge.inboundCapacity -
              (bridge.pendingTransportObservations.length + 1)) rest.length + 1 := by omega
        refine ⟨?_, ?_, ?_, capacity⟩
        · rw [pending]
          simp only [List.map_append, List.map_cons, List.map_nil, List.length_append,
            List.length_cons, List.length_nil, Nat.zero_add]
          rw [less, List.range'_succ, List.append_assoc, List.singleton_append]
        · rw [dropped]
          simp only [List.length_append, List.length_cons, List.length_nil]
          omega
        · rw [arrived]
          simp only [List.length_cons]
          omega

/-! ## A round -/

structure Idle (bridge : BleHostBridge κ) : Prop where
  nothingPending : bridge.pendingTransportObservations = []
  bounded : bridge.droppedTransportObservations ≤ usizeMax

/-- The bridge of a round when all raw events are staged. -/
def stagedBridge (bridge : BleHostBridge κ) (answers : BridgeAnswers κ)
    (rawEvents : List TransportIngressEvent) : BleHostBridge κ :=
  let (tick, clock) := BleBridgeClock.advanceTick (answers.sharedClock bridge.clock)
  rawEvents.foldl (BleHostBridge.stageEvent shape tick) { bridge with clock := clock }

theorem stage_stagedBridge {bridge : BleHostBridge κ} (idle : Idle bridge)
    (answers : BridgeAnswers κ) (rawEvents : List TransportIngressEvent) :
    let staged := stagedBridge shape bridge answers rawEvents
    staged.pendingTransportObservations.map StagedObservation.arrival =
        List.range' bridge.arrived (min bridge.inboundCapacity rawEvents.length) ∧
      staged.arrived = bridge.arrived + rawEvents.length ∧
      staged.inboundCapacity = bridge.inboundCapacity := by
  intro staged
  obtain ⟨pending, -, arrived, capacity⟩ := stage_spec shape
    (BleBridgeClock.advanceTick (answers.sharedClock bridge.clock)).1 rawEvents
    { bridge with clock := (BleBridgeClock.advanceTick (answers.sharedClock bridge.clock)).2 }
    idle.bounded
  refine ⟨pending.trans ?_, arrived, capacity⟩
  rw [idle.nothingPending]
  rfl

theorem dropped_stagedBridge {bridge : BleHostBridge κ} (idle : Idle bridge)
    (answers : BridgeAnswers κ)
    (rawEvents : List TransportIngressEvent) :
    (stagedBridge shape bridge answers rawEvents).droppedTransportObservations =
      min (bridge.droppedTransportObservations +
        (rawEvents.length - bridge.inboundCapacity)) usizeMax := by
  obtain ⟨-, counts, -⟩ := stage_spec shape
    (BleBridgeClock.advanceTick (answers.sharedClock bridge.clock)).1 rawEvents
    { bridge with clock := (BleBridgeClock.advanceTick (answers.sharedClock bridge.clock)).2 }
    idle.bounded
  rw [stagedBridge, counts, idle.nothingPending]
  rfl

theorem routerCalls_stagedBridge (bridge : BleHostBridge κ) (answers : BridgeAnswers κ)
    (rawEvents : List TransportIngressEvent) :
    (stagedBridge shape bridge answers rawEvents).routerCalls = bridge.routerCalls := by
  have staged (tick : Tick) (events : List TransportIngressEvent) (bridge : BleHostBridge κ) :
      (events.foldl (BleHostBridge.stageEvent shape tick) bridge).routerCalls =
        bridge.routerCalls := by
    induction events generalizing bridge with
    | nil => rfl
    | cons event rest ih =>
        rw [List.foldl_cons, ih]
        unfold BleHostBridge.stageEvent
        dsimp only
        split
        · rfl
        · cases event <;> rfl
  exact staged _ rawEvents _

theorem advanceRound_error {bridge : BleHostBridge κ} {answers : BridgeAnswers κ} {error : TransportError}
    (ingress : answers.drainRawIngress = .error error) :
    bridge.advanceRound shape answers =
      ({ bridge with clock := (BleBridgeClock.advanceTick (answers.sharedClock bridge.clock)).2 },
        .error (.transport error)) := by
  unfold BleHostBridge.advanceRound BleHostBridge.stageTransportIngress
  simp only [ingress]

/-- The staged events leave the bridge, and the drop count does when the round succeeds. -/
theorem advanceRound_driven (bridge : BleHostBridge κ) {answers : BridgeAnswers κ}
    {rawEvents : List TransportIngressEvent}
    (ingress : answers.drainRawIngress = .ok rawEvents) :
    let staged := stagedBridge shape bridge answers rawEvents
    let round := bridge.advanceRound shape answers
    let driven := answers.driveRouter staged.pendingTransportObservations
    let left := { staged with
      pendingTransportObservations := []
      routerCalls := staged.routerCalls ++ driven.1 }
    (∃ error, round = (left, .error error) ∧ driven.2 = .error error) ∨
    ∃ progress outcome flushed,
      round = ({ left with droppedTransportObservations := 0 }, .ok progress) ∧
      driven.2 = .ok (outcome, flushed) ∧
      ((∃ state, progress = .waiting state ∧ staged.pendingTransportObservations = [] ∧
          flushed = 0 ∧ staged.droppedTransportObservations = 0 ∧
          state.droppedTransportObservations = narrowCount 0) ∨
        progress = .advanced
          { routerOutcome := outcome
            ingestedTransportObservations := staged.pendingTransportObservations
            flushedTransportCommands := narrowCount flushed
            droppedTransportObservations := narrowCount staged.droppedTransportObservations }) := by
  intro staged round driven left
  have shaped : round = bridge.advanceRound shape answers := rfl
  unfold BleHostBridge.advanceRound BleHostBridge.stageTransportIngress at shaped
  have staging : rawEvents.foldl (BleHostBridge.stageEvent shape
      (BleBridgeClock.advanceTick (answers.sharedClock bridge.clock)).1)
      { bridge with clock := (BleBridgeClock.advanceTick (answers.sharedClock bridge.clock)).2 } =
    staged := rfl
  simp only [ingress, staging] at shaped
  have drives : answers.driveRouter staged.pendingTransportObservations = driven := rfl
  rw [drives] at shaped
  cases result : driven.2 with
  | error error =>
      rw [result] at shaped
      exact Or.inl ⟨error, shaped, rfl⟩
  | ok result' =>
      obtain ⟨outcome, flushed⟩ := result'
      simp only [result] at shaped
      right
      split at shaped
      · rename_i waits
        simp only [Bool.and_eq_true, List.isEmpty_iff, beq_iff_eq] at waits
        obtain ⟨⟨⟨empty, silent⟩, kept⟩, -⟩ := waits
        exact ⟨_, outcome, flushed, shaped, rfl, Or.inl ⟨_, rfl, empty, silent, kept,
          congrArg narrowCount kept⟩⟩
      · exact ⟨_, outcome, flushed, shaped, rfl, Or.inr rfl⟩

theorem advanceRound_of_drained {bridge : BleHostBridge κ} (idle : Idle bridge)
    {answers : BridgeAnswers κ} {rawEvents : List TransportIngressEvent}
    (drained : answers.drainRawIngress = .ok rawEvents) :
    let kept := min bridge.inboundCapacity rawEvents.length
    let dropped := min (bridge.droppedTransportObservations +
      (rawEvents.length - bridge.inboundCapacity)) usizeMax
    let round := bridge.advanceRound shape answers
    round.1.pendingTransportObservations = [] ∧
      round.1.arrived = bridge.arrived + rawEvents.length ∧
      round.1.inboundCapacity = bridge.inboundCapacity ∧
      ((Serves answers kept ∧ round.1.droppedTransportObservations = 0 ∧
        (reportedObservations round.2).map StagedObservation.arrival =
          List.range' bridge.arrived kept ∧ reportedDrops round.2 = narrowCount dropped) ∨
      (¬ Serves answers kept ∧ round.1.droppedTransportObservations = dropped ∧
        reportedObservations round.2 = [] ∧ reportedDrops round.2 = 0)) := by
  intro kept dropped round
  obtain ⟨arrivals, arrived, capacity⟩ := stage_stagedBridge shape idle answers rawEvents
  have counts := dropped_stagedBridge shape idle answers rawEvents
  have size : (stagedBridge shape bridge answers rawEvents).pendingTransportObservations.length =
      kept := by
    have lengths := congrArg List.length arrivals
    simpa using lengths
  have served := serves_iff answers
    (stagedBridge shape bridge answers rawEvents).pendingTransportObservations
  rw [size] at served
  rcases advanceRound_driven shape bridge drained with
    ⟨error, failed, driven⟩ | ⟨progress, outcome, flushed, succeeded, driven, returned⟩
  · have fails : ¬ Serves answers kept := by simp [served, driven]
    rw [show round = _ from failed]
    exact ⟨rfl, arrived, capacity, Or.inr ⟨fails, counts, rfl, rfl⟩⟩
  · have serves : Serves answers kept := served.mpr ⟨_, driven⟩
    rw [show round = _ from succeeded]
    refine ⟨rfl, arrived, capacity, Or.inl ⟨serves, rfl, ?_⟩⟩
    rcases returned with ⟨state, rfl, empty, -, none, reported⟩ | rfl
    · rw [empty] at arrivals
      refine ⟨arrivals, ?_⟩
      change state.droppedTransportObservations = _
      rw [reported, ← none, counts]
    · exact ⟨arrivals, congrArg narrowCount counts⟩

theorem Idle.advanceRound {bridge : BleHostBridge κ} (idle : Idle bridge)
    (answers : BridgeAnswers κ) : Idle (bridge.advanceRound shape answers).1 := by
  cases drained : answers.drainRawIngress with
  | error error =>
      unfold BleHostBridge.advanceRound BleHostBridge.stageTransportIngress
      simp only [drained]
      exact ⟨idle.nothingPending, idle.bounded⟩
  | ok rawEvents =>
      obtain ⟨pending, -, -, ⟨-, dropped, -⟩ | ⟨-, dropped, -⟩⟩ :=
        advanceRound_of_drained shape idle drained
      · exact ⟨pending, dropped ▸ Nat.zero_le _⟩
      · exact ⟨pending, dropped ▸ Nat.min_le_right ..⟩

/-! ## Sequences of rounds -/

theorem idle_run (localNodeId : NodeId) (clock : κ) (config : BleBridgeConfig)
    (rounds : List (BridgeAnswers κ)) :
    Idle (exec (BridgeHistory.step shape) (.start localNodeId clock config) rounds).bridge := by
  induction rounds using List.reverseRecOn with
  | nil => exact ⟨rfl, Nat.zero_le _⟩
  | append_singleton before answers ih =>
      rw [exec_snoc]
      exact ih.advanceRound shape answers

variable {history : BridgeHistory κ}

theorem listed_step (idle : Idle history.bridge) (answers : BridgeAnswers κ) :
    listed (history.step shape answers) = listed history ++
      (reportedObservations (history.bridge.advanceRound shape answers).2).map
        StagedObservation.arrival := by
  have idleAfter := idle.advanceRound shape answers
  unfold listed BridgeHistory.step
  rw [idleAfter.nothingPending, idle.nothingPending]
  simp

theorem counted_step (history : BridgeHistory κ) (answers : BridgeAnswers κ) :
    counted (history.step shape answers) + history.bridge.droppedTransportObservations =
      counted history + reportedDrops (history.bridge.advanceRound shape answers).2 +
        (history.bridge.advanceRound shape answers).1.droppedTransportObservations := by
  unfold counted BridgeHistory.step
  simp only [List.map_append, List.sum_append, List.map_cons, List.map_nil, List.sum_singleton]
  omega

theorem Accounted.step_iff (accounted : Accounted history) (idle : Idle history.bridge)
    {answers : BridgeAnswers κ} {kept added : Nat} (fits : kept ≤ added)
    (reported : (reportedObservations (history.bridge.advanceRound shape answers).2).map
      StagedObservation.arrival = List.range' history.bridge.arrived kept)
    (arrived : (history.bridge.advanceRound shape answers).1.arrived =
      history.bridge.arrived + added) :
    Accounted (history.step shape answers) ↔
      kept + counted (history.step shape answers) = counted history + added := by
  have lists := listed_step shape idle answers
  rw [reported] at lists
  have size : (listed (history.step shape answers)).length = (listed history).length + kept := by
    rw [lists, List.length_append, List.length_range']
  have complete := accounted.complete
  have grown : (history.step shape answers).bridge.arrived = history.bridge.arrived + added :=
    arrived
  constructor
  · intro after
    have completeAfter := after.complete
    omega
  · intro balanced
    refine ⟨?_, ?_, by omega⟩
    · rw [lists]
      refine List.nodup_append.mpr ⟨accounted.once, List.nodup_range', ?_⟩
      intro old earlier new later same
      have below := accounted.arrived old earlier
      have above := (List.mem_range'_1.mp later).1
      omega
    · intro arrival member
      rw [lists, List.mem_append] at member
      rcases member with old | new
      · have below := accounted.arrived arrival old
        omega
      · have below := (List.mem_range'_1.mp new).2
        omega

theorem narrowCount_min_eq (value : Nat) :
    narrowCount (min value usizeMax) = value ↔ value ≤ u32Max := by
  have wider : u32Max ≤ usizeMax := by decide
  unfold narrowCount
  generalize u32Max = narrow at *
  generalize usizeMax = wide at *
  omega

theorem accounted_step_iff (accounted : Accounted history) (idle : Idle history.bridge)
    (answers : BridgeAnswers κ) :
    Accounted (history.step shape answers) ↔ KeepsIngress history answers := by
  have counts := counted_step shape history answers
  cases drained : answers.drainRawIngress with
  | error error =>
      have keeps : KeepsIngress history answers := by
        intro rawEvents succeeded
        rw [drained] at succeeded
        cases succeeded
      have round : (history.bridge.advanceRound shape answers).1.arrived =
            history.bridge.arrived + 0 ∧
          (history.bridge.advanceRound shape answers).1.droppedTransportObservations =
            history.bridge.droppedTransportObservations ∧
          reportedObservations (history.bridge.advanceRound shape answers).2 = [] ∧
          reportedDrops (history.bridge.advanceRound shape answers).2 = 0 := by
        unfold BleHostBridge.advanceRound BleHostBridge.stageTransportIngress
        simp [drained, reportedObservations, reportedDrops]
      obtain ⟨arrived, dropped, reported, drops⟩ := round
      have nothing : (reportedObservations (history.bridge.advanceRound shape answers).2).map
          StagedObservation.arrival = List.range' history.bridge.arrived 0 := by
        rw [reported]
        rfl
      rw [accounted.step_iff shape idle (Nat.zero_le 0) nothing arrived]
      simp only [keeps, iff_true]
      omega
  | ok rawEvents =>
      obtain ⟨-, arrived, -, outcome⟩ := advanceRound_of_drained shape idle drained
      have keeps : KeepsIngress history answers ↔ _ :=
        ⟨fun keeps => keeps rawEvents drained, fun holds other succeeded => by
          rw [drained] at succeeded
          cases succeeded
          exact holds⟩
      rw [keeps]
      dsimp only
      have split : rawEvents.length = min history.bridge.inboundCapacity rawEvents.length +
          (rawEvents.length - history.bridge.inboundCapacity) := by omega
      rcases outcome with ⟨serves, dropped, reported, drops⟩ | ⟨fails, dropped, reported, drops⟩
      · rw [accounted.step_iff shape idle (Nat.min_le_right ..) reported arrived]
        simp only [serves, true_and, not_true_eq_false, false_and, or_false]
        rw [← narrowCount_min_eq]
        omega
      · have nothing : (reportedObservations (history.bridge.advanceRound shape answers).2).map
            StagedObservation.arrival = List.range' history.bridge.arrived 0 := by
          rw [reported]
          rfl
        rw [accounted.step_iff shape idle (Nat.zero_le _) nothing arrived]
        simp only [fails, false_and, false_or, not_false_eq_true, true_and]
        generalize usizeMax = limit at *
        omega

/-- Over any sequence of rounds every raw event stays accounted for, after every round, exactly when
every round keeps its ingress. -/
theorem ingress_accounted_iff (localNodeId : NodeId) (clock : κ)
    (config : BleBridgeConfig) (rounds : List (BridgeAnswers κ)) :
    Meets (BridgeHistory.step shape) KeepsIngress (.start localNodeId clock config) rounds ↔
      ∀ before, before <+: rounds →
        Accounted (exec (BridgeHistory.step shape) (.start localNodeId clock config) before) := by
  refine meets_iff_forall_prefix (P := fun before => Accounted
    (exec (BridgeHistory.step shape) (.start localNodeId clock config) before)) ?_ ?_
  · exact ⟨List.nodup_nil, (fun _ member => nomatch member), rfl⟩
  · intro before answers _ accounted
    rw [exec_snoc]
    exact accounted_step_iff shape accounted (idle_run shape localNodeId clock config before) answers

end Rounds

/-! ## Single rounds -/

def quietAnswers {κ : Type} : BridgeAnswers κ where
  sharedClock := id
  notifierSnapshot := 0
  drainRawIngress := .ok []
  ingestTransportObservation _ := .ok ()
  advanceRound := .ok { engineChange := .noChange, nextRoundHint := .hostDefault }
  flushOutbound := .ok 0
  pendingOutbound := 0

def failedRound : BridgeAnswers MonotonicBleTickSource where
  sharedClock := id
  notifierSnapshot := 1
  drainRawIngress := .ok [.payloadReceived (Scenario.node 2) (gattEndpoint ⟨"peer"⟩) [7]]
  ingestTransportObservation _ := .ok ()
  advanceRound := .error (.other 0)
  flushOutbound := .ok 0
  pendingOutbound := 0

theorem payload_lost_by_failed_round :
    let history := exec (BridgeHistory.step Scenario.shaping)
      (.start (Scenario.node 1) (.new 1) {}) [failedRound]
    history.bridge.arrived = 1 ∧ listed history = [] ∧ counted history = 0 ∧
      ¬ Accounted history := by
  intro history
  have lost : history.bridge.arrived = 1 ∧ listed history = [] ∧ counted history = 0 := by
    decide +kernel
  obtain ⟨arrived, nothing, uncounted⟩ := lost
  refine ⟨arrived, nothing, uncounted, ?_⟩
  intro accounted
  have complete := accounted.complete
  rw [arrived, nothing, uncounted] at complete
  cases complete

end JqBle.Proof.Client
