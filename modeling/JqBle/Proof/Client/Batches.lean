import JqBle.Proof.Client.Bridge
import Mathlib.Logic.Function.Iterate

/-!
# Bridge rounds as batch steps

A round stamps the first raw events of its batch and counts the others. Ticks and order stamps come
from two counters of the clock. The router may hold the same clock, but all that it can do to it is to
take order stamps of its own.
-/

namespace JqBle.Proof.Client
open Host Library Execution JqBle.LinkProfile JqBle.Client JqBle.Proof.LinkProfile

/-! ## Clocks that count -/

class CountingClock (κ : Type) [BleBridgeClock κ] where
  upcomingTick : κ → Tick
  lastOrder : κ → OrderStamp
  tick_advanceTick (clock : κ) : (BleBridgeClock.advanceTick clock).1 = upcomingTick clock
  upcomingTick_advanceTick (clock : κ) : upcomingTick (BleBridgeClock.advanceTick clock).2 =
    saturatingAdd u64Max (upcomingTick clock) 1
  lastOrder_advanceTick (clock : κ) :
    lastOrder (BleBridgeClock.advanceTick clock).2 = lastOrder clock
  order_nextOrderStamp (clock : κ) :
    (BleBridgeClock.nextOrderStamp clock).1 = saturatingAdd u64Max (lastOrder clock) 1
  lastOrder_nextOrderStamp (clock : κ) :
    lastOrder (BleBridgeClock.nextOrderStamp clock).2 = saturatingAdd u64Max (lastOrder clock) 1
  upcomingTick_nextOrderStamp (clock : κ) :
    upcomingTick (BleBridgeClock.nextOrderStamp clock).2 = upcomingTick clock

open CountingClock

instance : CountingClock MonotonicBleTickSource where
  upcomingTick := MonotonicBleTickSource.nextTick
  lastOrder := MonotonicBleTickSource.nextOrder
  tick_advanceTick _ := rfl
  upcomingTick_advanceTick _ := rfl
  lastOrder_advanceTick _ := rfl
  order_nextOrderStamp _ := rfl
  lastOrder_nextOrderStamp _ := rfl
  upcomingTick_nextOrderStamp _ := rfl

instance : CountingClock BleRuntimeEffects where
  upcomingTick := BleRuntimeEffects.nextTick
  lastOrder := BleRuntimeEffects.nextOrder
  tick_advanceTick _ := rfl
  upcomingTick_advanceTick _ := rfl
  lastOrder_advanceTick _ := rfl
  order_nextOrderStamp _ := rfl
  lastOrder_nextOrderStamp _ := rfl
  upcomingTick_nextOrderStamp _ := rfl

/-- Later values are larger, until the counter is at its limit. -/
def Increases (earlier later : Nat) : Prop := earlier < u64Max → earlier < later

def Keeps (earlier later : Nat) : Prop := earlier < u64Max → earlier ≤ later

theorem Keeps.refl (value : Nat) : Keeps value value := fun _ => Nat.le_refl value

theorem Increases.keeps {earlier later : Nat} (increases : Increases earlier later) :
    Keeps earlier later := fun below => Nat.le_of_lt (increases below)

theorem Keeps.saturatingAdd {earlier later : Nat} (keeps : Keeps earlier later) :
    Increases earlier (saturatingAdd u64Max later 1) := by
  intro below
  have larger := keeps below
  unfold Host.saturatingAdd
  omega

/-! ## Batches -/

def orderAfter (last : OrderStamp) : TransportIngressEvent → OrderStamp
  | .payloadReceived .. => last
  | .linkObserved .. => saturatingAdd u64Max last 1

/-- The events with the last order stamp given out when they are observed, for a link its own. -/
def stampOrders : OrderStamp → List TransportIngressEvent →
    List (TransportIngressEvent × OrderStamp)
  | _, [] => []
  | last, event :: rest => (event, orderAfter last event) :: stampOrders (orderAfter last event) rest

def stamped (shape : CastShaping) (localNodeId : NodeId) (tick : Tick) :
    TransportIngressEvent × OrderStamp → TransportObservation
  | (.payloadReceived fromNodeId endpoint payload, _) =>
      .payloadReceived fromNodeId endpoint payload tick
  | (.linkObserved remoteNodeId link sourceClass evidenceClass origin, order) =>
      linkObservationFromBleEvent shape localNodeId
        (.linkObserved remoteNodeId link sourceClass evidenceClass origin) tick order

def isLink : TransportIngressEvent → Bool
  | .payloadReceived .. => false
  | .linkObserved .. => true

structure RoundLog where
  tick : Tick
  batch : List (TransportIngressEvent × OrderStamp)

namespace RoundLog

def observations (shape : CastShaping) (localNodeId : NodeId) (log : RoundLog) :
    List TransportObservation :=
  log.batch.map (stamped shape localNodeId log.tick)

end RoundLog

theorem map_fst_stampOrders (last : OrderStamp) (events : List TransportIngressEvent) :
    (stampOrders last events).map Prod.fst = events := by
  induction events generalizing last with
  | nil => rfl
  | cons event rest ih => rw [stampOrders, List.map_cons, ih]

def linkOrders (batch : List (TransportIngressEvent × OrderStamp)) : List OrderStamp :=
  (batch.filter fun entry => isLink entry.1).map Prod.snd

def ordersAfter (last : OrderStamp) (events : List TransportIngressEvent) : OrderStamp :=
  events.foldl orderAfter last

theorem Keeps.orderAfter {earlier last : OrderStamp} (keeps : Keeps earlier last)
    (event : TransportIngressEvent) : Keeps earlier (orderAfter last event) := by
  cases event with
  | payloadReceived fromNodeId endpoint payload => exact keeps
  | linkObserved remoteNodeId link sourceClass evidenceClass origin =>
      exact keeps.saturatingAdd.keeps

theorem Keeps.ordersAfter {earlier last : OrderStamp} (keeps : Keeps earlier last)
    (events : List TransportIngressEvent) : Keeps earlier (ordersAfter last events) := by
  induction events generalizing last with
  | nil => exact keeps
  | cons event rest ih => exact ih (keeps.orderAfter event)

theorem mem_linkOrders_cons {last order : OrderStamp} {event : TransportIngressEvent}
    {rest : List TransportIngressEvent} :
    order ∈ linkOrders (stampOrders last (event :: rest)) ↔
      (isLink event = true ∧ order = orderAfter last event) ∨
        order ∈ linkOrders (stampOrders (orderAfter last event) rest) := by
  unfold linkOrders
  rw [stampOrders, List.filter_cons]
  cases isLink event with
  | false => simp
  | true => simp

theorem increases_orderAfter {earlier last : OrderStamp} {event : TransportIngressEvent}
    (keeps : Keeps earlier last) (link : isLink event = true) :
    Increases earlier (orderAfter last event) := by
  cases event with
  | payloadReceived fromNodeId endpoint payload => cases link
  | linkObserved remoteNodeId link sourceClass evidenceClass origin => exact keeps.saturatingAdd

theorem Keeps.linkOrders {earlier last : OrderStamp} (keeps : Keeps earlier last)
    (events : List TransportIngressEvent) :
    ∀ order ∈ linkOrders (stampOrders last events), Increases earlier order := by
  induction events generalizing last with
  | nil => intro order member; cases member
  | cons event rest ih =>
      intro order member
      rcases mem_linkOrders_cons.mp member with ⟨link, rfl⟩ | later
      · exact increases_orderAfter keeps link
      · exact ih (keeps.orderAfter event) order later

theorem keeps_of_mem_linkOrders {last order : OrderStamp} {events : List TransportIngressEvent}
    (member : order ∈ linkOrders (stampOrders last events)) :
    Keeps order (ordersAfter last events) := by
  induction events generalizing last with
  | nil => cases member
  | cons event rest ih =>
      rcases mem_linkOrders_cons.mp member with ⟨-, rfl⟩ | later
      · exact (Keeps.refl _).ordersAfter rest
      · exact ih later

theorem linkOrders_increase (last : OrderStamp) (events : List TransportIngressEvent) :
    (linkOrders (stampOrders last events)).Pairwise Increases := by
  induction events generalizing last with
  | nil => exact List.Pairwise.nil
  | cons event rest ih =>
      cases link : isLink event with
      | false =>
          have skipped : linkOrders (stampOrders last (event :: rest)) =
              linkOrders (stampOrders (orderAfter last event) rest) := by
            simp [linkOrders, stampOrders, link]
          rw [skipped]
          exact ih (orderAfter last event)
      | true =>
          have kept : linkOrders (stampOrders last (event :: rest)) = orderAfter last event ::
              linkOrders (stampOrders (orderAfter last event) rest) := by
            simp [linkOrders, stampOrders, link]
          rw [kept, List.pairwise_cons]
          exact ⟨(Keeps.refl _).linkOrders rest, ih (orderAfter last event)⟩

def observedAtTick : TransportObservation → Tick
  | .linkObserved _ observation => observation.observedAtTick
  | .payloadReceived _ _ _ tick => tick

theorem observedAtTick_stamped (shape : CastShaping) (localNodeId : NodeId) (tick : Tick)
    (entry : TransportIngressEvent × OrderStamp) :
    observedAtTick (stamped shape localNodeId tick entry) = tick := by
  obtain ⟨event, order⟩ := entry
  cases event with
  | payloadReceived fromNodeId endpoint payload => rfl
  | linkObserved remoteNodeId link sourceClass evidenceClass origin =>
      unfold stamped linkObservationFromBleEvent
      dsimp only
      split
      · rfl
      · rfl

/-! ## Calls of the router -/

section Calls
variable {κ : Type}

theorem calls_of_ingested (answers : BridgeAnswers κ) (position : Nat)
    (ingested : List StagedObservation)
    (accepted : (answers.ingestLoop position ingested).2 = .ok ()) :
    (answers.ingestLoop position ingested).1 =
      ingested.map fun staged => .ingestTransportObservation staged.observation := by
  induction ingested generalizing position with
  | nil => rfl
  | cons first rest ih =>
      unfold BridgeAnswers.ingestLoop at accepted ⊢
      cases answer : answers.ingestTransportObservation position with
      | error error => simp [answer] at accepted
      | ok accepts =>
          simp only [answer] at accepted ⊢
          rw [List.map_cons, ← ih (position + 1) accepted]

theorem driven_of_ok {answers : BridgeAnswers κ} {ingested : List StagedObservation}
    {outcome : RouterRoundOutcome} {flushed : Nat}
    (driven : (answers.driveRouter ingested).2 = .ok (outcome, flushed)) :
    (answers.driveRouter ingested).1 =
        ingested.map (fun staged => .ingestTransportObservation staged.observation) ++
          [.advanceRound] ∧
      answers.flushOutbound = .ok flushed := by
  have calls := calls_of_ingested answers 0 ingested
  unfold BridgeAnswers.driveRouter at driven ⊢
  generalize answers.ingestLoop 0 ingested = loop at calls driven ⊢
  obtain ⟨made, result⟩ := loop
  cases result with
  | error error => cases driven
  | ok accepted =>
      simp only at calls driven ⊢
      split at driven
      · cases driven
      · split at driven
        · cases driven
        · rename_i flushes
          cases driven
          rw [calls trivial]
          exact ⟨rfl, flushes⟩

end Calls

/-! ## Staging -/

section Rounds
variable {κ : Type} [BleBridgeClock κ] [CountingClock κ] (shape : CastShaping)

theorem stageEvent_stamps {bridge : BleHostBridge κ} (tick : Tick)
    (room : ¬ bridge.inboundCapacity ≤ bridge.pendingTransportObservations.length)
    (event : TransportIngressEvent) :
    ∃ clock, bridge.stageEvent shape tick event =
        { bridge with
          clock := clock
          arrived := bridge.arrived + 1
          pendingTransportObservations := bridge.pendingTransportObservations ++
            [⟨bridge.arrived, stamped shape bridge.localNodeId tick
              (event, orderAfter (lastOrder bridge.clock) event)⟩] } ∧
      lastOrder clock = orderAfter (lastOrder bridge.clock) event ∧
      upcomingTick clock = upcomingTick bridge.clock := by
  unfold BleHostBridge.stageEvent
  simp only [if_neg room]
  cases event with
  | payloadReceived fromNodeId endpoint payload => exact ⟨bridge.clock, rfl, rfl, rfl⟩
  | linkObserved remoteNodeId link sourceClass evidenceClass origin =>
      refine ⟨(BleBridgeClock.nextOrderStamp bridge.clock).2, ?_,
        lastOrder_nextOrderStamp bridge.clock, upcomingTick_nextOrderStamp bridge.clock⟩
      simp only [BleHostBridge.observeTransportIngress, stamped, orderAfter, order_nextOrderStamp]

theorem stage_stamps (tick : Tick) (events : List TransportIngressEvent)
    (bridge : BleHostBridge κ) :
    let room := bridge.inboundCapacity - bridge.pendingTransportObservations.length
    let staged := events.foldl (BleHostBridge.stageEvent shape tick) bridge
    staged.pendingTransportObservations.map StagedObservation.observation =
        bridge.pendingTransportObservations.map StagedObservation.observation ++
          (stampOrders (lastOrder bridge.clock) (events.take room)).map
            (stamped shape bridge.localNodeId tick) ∧
      lastOrder staged.clock = ordersAfter (lastOrder bridge.clock) (events.take room) ∧
      upcomingTick staged.clock = upcomingTick bridge.clock ∧
      staged.localNodeId = bridge.localNodeId := by
  induction events generalizing bridge with
  | nil => simp [stampOrders, ordersAfter]
  | cons event rest ih =>
      dsimp only at ih ⊢
      rw [List.foldl_cons]
      by_cases full : bridge.inboundCapacity ≤ bridge.pendingTransportObservations.length
      · rw [stageEvent_of_full shape full]
        obtain ⟨pending, order, upcoming, localNode⟩ := ih
          { bridge with
            arrived := bridge.arrived + 1
            droppedTransportObservations :=
              saturatingAdd usizeMax bridge.droppedTransportObservations 1 }
        have noRoom : bridge.inboundCapacity - bridge.pendingTransportObservations.length = 0 :=
          Nat.sub_eq_zero_of_le full
        simp only [noRoom, List.take_zero] at pending order ⊢
        exact ⟨pending, order, upcoming, localNode⟩
      · obtain ⟨clock, staged, order, upcoming⟩ := stageEvent_stamps shape tick full event
        obtain ⟨laterPending, laterOrder, laterUpcoming, localNode⟩ :=
          ih (bridge.stageEvent shape tick event)
        have room : bridge.inboundCapacity - bridge.pendingTransportObservations.length =
            bridge.inboundCapacity - (bridge.pendingTransportObservations.length + 1) + 1 := by
          omega
        rw [staged] at laterPending laterOrder laterUpcoming localNode ⊢
        simp only [List.length_append, List.length_cons, List.length_nil, Nat.zero_add,
          List.map_append, List.map_cons, List.map_nil, order] at laterPending laterOrder
        rw [room, List.take_succ_cons]
        refine ⟨?_, laterOrder, laterUpcoming.trans upcoming, localNode⟩
        rw [laterPending, stampOrders, List.map_cons, List.append_assoc, List.singleton_append]

/-! ## A round -/

def drained (answers : BridgeAnswers κ) : List TransportIngressEvent :=
  match answers.drainRawIngress with
  | .error _ => []
  | .ok rawEvents => rawEvents

def roundLog (bridge : BleHostBridge κ) (answers : BridgeAnswers κ) : RoundLog where
  tick := upcomingTick (answers.sharedClock bridge.clock)
  batch := stampOrders (lastOrder (answers.sharedClock bridge.clock))
    ((drained answers).take bridge.inboundCapacity)

def overflow (capacity : Nat) (answers : BridgeAnswers κ) : Nat :=
  (drained answers).length - capacity

/-- What a round that returns `progress` does with the raw events it drained, if `left` drops were
left over and `calls` was asked of the router before. -/
structure ExactRound (shape : CastShaping) (localNodeId : NodeId) (capacity left : Nat)
    (rawEvents : List TransportIngressEvent) (answers : BridgeAnswers κ) (log : RoundLog)
    (calls callsAfter : List RouterCall) (progress : BleBridgeProgress) : Prop where
  batch : log.batch.map Prod.fst = rawEvents.take (min capacity rawEvents.length)
  given : callsAfter = calls ++ ((log.observations shape localNodeId).map
    .ingestTransportObservation ++ [.advanceRound])
  ticks : ∀ observation ∈ log.observations shape localNodeId, observedAtTick observation = log.tick
  reported : ∀ report, progress = .advanced report →
    report.ingestedTransportObservations.map StagedObservation.observation =
      log.observations shape localNodeId ∧
    report.droppedTransportObservations =
      min (rawEvents.length - min capacity rawEvents.length + left) u32Max
  waits : ∀ state, progress = .waiting state →
    rawEvents = [] ∧ answers.flushOutbound = .ok 0 ∧ left = 0

variable {bridge : BleHostBridge κ}

theorem observations_stagedBridge (idle : Idle bridge) {answers : BridgeAnswers κ}
    {rawEvents : List TransportIngressEvent} (ingress : answers.drainRawIngress = .ok rawEvents) :
    (stagedBridge shape bridge answers rawEvents).pendingTransportObservations.map
        StagedObservation.observation =
      (roundLog bridge answers).observations shape bridge.localNodeId := by
  have taken : drained answers = rawEvents := by simp [drained, ingress]
  obtain ⟨stamps, -⟩ := stage_stamps shape
    (BleBridgeClock.advanceTick (answers.sharedClock bridge.clock)).1 rawEvents
    { bridge with clock := (BleBridgeClock.advanceTick (answers.sharedClock bridge.clock)).2 }
  rw [stagedBridge, stamps, idle.nothingPending, tick_advanceTick, lastOrder_advanceTick, ← taken]
  rfl

theorem advanceRound_exact (idle : Idle bridge) {left : Nat}
    (leftOver : bridge.droppedTransportObservations = min left usizeMax)
    (answers : BridgeAnswers κ) :
    let round := bridge.advanceRound shape answers
    (∃ error, round.2 = .error error ∧ round.1.droppedTransportObservations =
      min (left + overflow bridge.inboundCapacity answers) usizeMax) ∨
    ∃ progress rawEvents, round.2 = .ok progress ∧ round.1.droppedTransportObservations = 0 ∧
      answers.drainRawIngress = .ok rawEvents ∧
      ExactRound shape bridge.localNodeId bridge.inboundCapacity left rawEvents answers
        (roundLog bridge answers) bridge.routerCalls round.1.routerCalls progress := by
  intro round
  cases ingress : answers.drainRawIngress with
  | error error =>
      refine Or.inl ⟨_, congrArg Prod.snd (advanceRound_error shape ingress), ?_⟩
      have kept : round = _ := advanceRound_error shape ingress
      simp [kept, overflow, drained, ingress, leftOver]
  | ok rawEvents =>
      have taken : drained answers = rawEvents := by simp [drained, ingress]
      have images := observations_stagedBridge shape idle ingress
      have dropped := dropped_stagedBridge shape idle answers rawEvents
      have batch : (roundLog bridge answers).batch.map Prod.fst =
          rawEvents.take (min bridge.inboundCapacity rawEvents.length) := by
        rw [roundLog, map_fst_stampOrders, taken]
        simp
      have ticks : ∀ observation ∈ (roundLog bridge answers).observations shape bridge.localNodeId,
          observedAtTick observation = (roundLog bridge answers).tick := by
        intro observation member
        obtain ⟨entry, -, rfl⟩ := List.mem_map.mp member
        exact observedAtTick_stamped ..
      rw [leftOver] at dropped
      rcases advanceRound_driven shape bridge ingress with
        ⟨error, failed, -⟩ | ⟨progress, outcome, flushed, succeeded, driven, returned⟩
      · refine Or.inl ⟨error, congrArg Prod.snd failed, ?_⟩
        rw [show round = _ from failed, dropped, overflow, taken]
        omega
      · obtain ⟨calls, flushes⟩ := driven_of_ok driven
        refine Or.inr ⟨progress, rawEvents, congrArg Prod.snd succeeded, ?_, rfl, batch, ?_, ticks,
          ?_, ?_⟩
        · rw [show round = _ from succeeded]
        · rw [show round = _ from succeeded, ← images, List.map_map]
          dsimp only
          rw [calls, routerCalls_stagedBridge]
          rfl
        · rintro report rfl
          rcases returned with ⟨state, ⟨⟩, -⟩ | advanced
          cases advanced
          refine ⟨images, ?_⟩
          have wider : u32Max ≤ usizeMax := by decide
          change narrowCount (stagedBridge shape bridge answers rawEvents).droppedTransportObservations = _
          rw [dropped, narrowCount]
          omega
        · rintro state rfl
          rcases returned with ⟨state, -, empty, silent, kept, -⟩ | ⟨⟨⟩⟩
          rw [dropped] at kept
          rw [empty] at images
          have none : rawEvents.take (min bridge.inboundCapacity rawEvents.length) = [] := by
            rw [← batch, List.map_eq_nil_iff]
            exact List.map_eq_nil_iff.mp images.symm
          have positive : 0 < usizeMax := by decide
          have size := congrArg List.length none
          rw [List.length_take, List.length_nil] at size
          refine ⟨List.length_eq_zero_iff.mp (by omega), silent ▸ flushes, by omega⟩

/-! ## Clocks along a sequence of rounds -/

theorem advanceRound_counts (idle : Idle bridge) (answers : BridgeAnswers κ) :
    let round := (bridge.advanceRound shape answers).1
    upcomingTick round.clock = saturatingAdd u64Max (roundLog bridge answers).tick 1 ∧
      lastOrder round.clock = ordersAfter (lastOrder (answers.sharedClock bridge.clock))
        ((drained answers).take bridge.inboundCapacity) := by
  intro round
  cases ingress : answers.drainRawIngress with
  | error error =>
      have kept : bridge.advanceRound shape answers = _ := advanceRound_error shape ingress
      have none : drained answers = [] := by simp [drained, ingress]
      rw [show round = _ from congrArg Prod.fst kept, none]
      refine ⟨upcomingTick_advanceTick _, ?_⟩
      rw [List.take_nil]
      exact lastOrder_advanceTick _
  | ok rawEvents =>
      have taken : drained answers = rawEvents := by simp [drained, ingress]
      obtain ⟨-, order, upcoming, -⟩ := stage_stamps shape
        (BleBridgeClock.advanceTick (answers.sharedClock bridge.clock)).1 rawEvents
        { bridge with clock := (BleBridgeClock.advanceTick (answers.sharedClock bridge.clock)).2 }
      have same : round.clock = (stagedBridge shape bridge answers rawEvents).clock := by
        rcases advanceRound_driven shape bridge ingress with
          ⟨error, failed, -⟩ | ⟨progress, outcome, flushed, succeeded, -⟩
        · rw [show round = _ from congrArg Prod.fst failed]
        · rw [show round = _ from congrArg Prod.fst succeeded]
      rw [same, taken]
      constructor
      · exact upcoming.trans (upcomingTick_advanceTick _)
      · apply order.trans
        rw [idle.nothingPending, lastOrder_advanceTick]
        rfl

/-- Between two rounds the router can only take order stamps from a clock that it shares. -/
def TakesOrders (answers : BridgeAnswers κ) : Prop :=
  ∃ count, answers.sharedClock =
    Nat.iterate (fun clock => (BleBridgeClock.nextOrderStamp clock).2) count

theorem TakesOrders.upcomingTick {answers : BridgeAnswers κ} (takes : TakesOrders answers)
    (clock : κ) : upcomingTick (answers.sharedClock clock) = upcomingTick clock := by
  obtain ⟨count, shared⟩ := takes
  rw [shared]
  clear shared
  induction count generalizing clock with
  | zero => rfl
  | succ count ih => rw [Function.iterate_succ_apply, ih, upcomingTick_nextOrderStamp]

theorem TakesOrders.lastOrder {answers : BridgeAnswers κ} (takes : TakesOrders answers)
    {clock : κ} {earlier : OrderStamp} (keeps : Keeps earlier (lastOrder clock)) :
    Keeps earlier (lastOrder (answers.sharedClock clock)) := by
  obtain ⟨count, shared⟩ := takes
  rw [shared]
  clear shared
  induction count generalizing clock with
  | zero => exact keeps
  | succ count ih =>
      rw [Function.iterate_succ_apply]
      apply ih
      rw [lastOrder_nextOrderStamp]
      exact keeps.saturatingAdd.keeps

def roundLogs : BleHostBridge κ → List (BridgeAnswers κ) → List RoundLog
  | _, [] => []
  | bridge, answers :: rest =>
      roundLog bridge answers :: roundLogs (bridge.advanceRound shape answers).1 rest

theorem tick_of_mem_roundLogs {rounds : List (BridgeAnswers κ)}
    (shares : ∀ answers ∈ rounds, TakesOrders answers) (idle : Idle bridge) {earlier : Tick}
    (increases : Increases earlier (upcomingTick bridge.clock)) :
    ∀ log ∈ roundLogs shape bridge rounds, Increases earlier log.tick := by
  induction rounds generalizing bridge with
  | nil => intro log member; cases member
  | cons answers rest ih =>
      have shared : (roundLog bridge answers).tick = upcomingTick bridge.clock :=
        (shares answers (by simp)).upcomingTick bridge.clock
      obtain ⟨upcoming, -⟩ := advanceRound_counts shape idle answers
      intro log member
      rcases List.mem_cons.mp member with rfl | later
      · rw [shared]
        exact increases
      · refine ih (fun other member => shares other (by simp [member]))
          (idle.advanceRound shape answers) ?_ log later
        rw [upcoming, shared]
        exact increases.keeps.saturatingAdd

theorem ticks_increase {rounds : List (BridgeAnswers κ)}
    (shares : ∀ answers ∈ rounds, TakesOrders answers) (idle : Idle bridge) :
    ((roundLogs shape bridge rounds).map RoundLog.tick).Pairwise Increases := by
  induction rounds generalizing bridge with
  | nil => exact List.Pairwise.nil
  | cons answers rest ih =>
      have laterShares : ∀ other ∈ rest, TakesOrders other :=
        fun other member => shares other (by simp [member])
      obtain ⟨upcoming, -⟩ := advanceRound_counts shape idle answers
      rw [roundLogs, List.map_cons, List.pairwise_cons]
      refine ⟨?_, ih laterShares (idle.advanceRound shape answers)⟩
      intro later member
      obtain ⟨log, logged, rfl⟩ := List.mem_map.mp member
      refine tick_of_mem_roundLogs shape laterShares (idle.advanceRound shape answers) ?_ log logged
      rw [upcoming]
      exact (Keeps.refl _).saturatingAdd

theorem order_of_mem_roundLogs {rounds : List (BridgeAnswers κ)}
    (shares : ∀ answers ∈ rounds, TakesOrders answers) (idle : Idle bridge) {earlier : OrderStamp}
    (keeps : Keeps earlier (lastOrder bridge.clock)) :
    ∀ log ∈ roundLogs shape bridge rounds, ∀ order ∈ linkOrders log.batch,
      Increases earlier order := by
  induction rounds generalizing bridge with
  | nil => intro log member; cases member
  | cons answers rest ih =>
      have shared := (shares answers (by simp)).lastOrder keeps
      obtain ⟨-, last⟩ := advanceRound_counts shape idle answers
      intro log member
      rcases List.mem_cons.mp member with rfl | later
      · exact shared.linkOrders _
      · refine ih (fun other member => shares other (by simp [member]))
          (idle.advanceRound shape answers) ?_ log later
        rw [last]
        exact shared.ordersAfter _

theorem orders_increase {rounds : List (BridgeAnswers κ)}
    (shares : ∀ answers ∈ rounds, TakesOrders answers) (idle : Idle bridge) :
    ((roundLogs shape bridge rounds).flatMap fun log => linkOrders log.batch).Pairwise
      Increases := by
  induction rounds generalizing bridge with
  | nil => exact List.Pairwise.nil
  | cons answers rest ih =>
      have laterShares : ∀ other ∈ rest, TakesOrders other :=
        fun other member => shares other (by simp [member])
      obtain ⟨-, last⟩ := advanceRound_counts shape idle answers
      rw [roundLogs, List.flatMap_cons, List.pairwise_append]
      refine ⟨linkOrders_increase _ _, ih laterShares (idle.advanceRound shape answers), ?_⟩
      intro order stampedNow later member
      obtain ⟨log, logged, stampedLater⟩ := List.mem_flatMap.mp member
      refine order_of_mem_roundLogs shape laterShares (idle.advanceRound shape answers) ?_ log logged
        later stampedLater
      rw [last]
      exact keeps_of_mem_linkOrders stampedNow

/-! ## Sequences of rounds -/

/-- The drops of the rounds since the last that succeeded. -/
def leftover (capacity : Nat)
    (rounds : List (BridgeAnswers κ × Except BleBridgeError BleBridgeProgress)) : Nat :=
  rounds.foldl (fun left round =>
    match round.2 with
    | .ok _ => 0
    | .error _ => left + overflow capacity round.1) 0

theorem advanceRound_settings (idle : Idle bridge) (answers : BridgeAnswers κ) :
    (bridge.advanceRound shape answers).1.localNodeId = bridge.localNodeId ∧
      (bridge.advanceRound shape answers).1.inboundCapacity = bridge.inboundCapacity := by
  cases ingress : answers.drainRawIngress with
  | error error =>
      rw [advanceRound_error shape ingress]
      exact ⟨rfl, rfl⟩
  | ok rawEvents =>
      obtain ⟨-, -, capacity⟩ := stage_stagedBridge shape idle answers rawEvents
      have localNode : (stagedBridge shape bridge answers rawEvents).localNodeId =
          bridge.localNodeId := by
        obtain ⟨-, -, -, same⟩ := stage_stamps shape
          (BleBridgeClock.advanceTick (answers.sharedClock bridge.clock)).1 rawEvents
          { bridge with clock := (BleBridgeClock.advanceTick (answers.sharedClock bridge.clock)).2 }
        exact same
      rcases advanceRound_driven shape bridge ingress with
        ⟨error, failed, -⟩ | ⟨progress, outcome, flushed, succeeded, -⟩
      · rw [failed]
        exact ⟨localNode, capacity⟩
      · rw [succeeded]
        exact ⟨localNode, capacity⟩

/-- What a sequence of rounds from the start has left in the bridge. -/
structure BetweenRounds (localNodeId : NodeId) (config : BleBridgeConfig)
    (rounds : List (BridgeAnswers κ)) (history : BridgeHistory κ) : Prop where
  idle : Idle history.bridge
  localNodeId : history.bridge.localNodeId = localNodeId
  capacity : history.bridge.inboundCapacity = config.inboundCapacity
  returned : history.returned.length = rounds.length
  dropped : history.bridge.droppedTransportObservations =
    min (leftover config.inboundCapacity (rounds.zip history.returned)) usizeMax

theorem betweenRounds_run (localNodeId : NodeId) (clock : κ) (config : BleBridgeConfig)
    (rounds : List (BridgeAnswers κ)) :
    BetweenRounds localNodeId config rounds
      (exec (BridgeHistory.step shape) (.start localNodeId clock config) rounds) := by
  induction rounds using List.reverseRecOn with
  | nil => exact ⟨⟨rfl, Nat.zero_le _⟩, rfl, rfl, rfl, rfl⟩
  | append_singleton before answers ih =>
      rw [exec_snoc]
      generalize exec (BridgeHistory.step shape) (.start localNodeId clock config) before =
        history at ih
      obtain ⟨localNode, capacity⟩ := advanceRound_settings shape ih.idle answers
      refine ⟨ih.idle.advanceRound shape answers, localNode.trans ih.localNodeId,
        capacity.trans ih.capacity, by simp [BridgeHistory.step, ih.returned], ?_⟩
      have pairs : (before ++ [answers]).zip (history.step shape answers).returned =
          before.zip history.returned ++
            [(answers, (history.bridge.advanceRound shape answers).2)] :=
        List.zip_append ih.returned.symm
      rw [pairs, leftover, List.foldl_append, ← leftover]
      rcases advanceRound_exact shape ih.idle ih.dropped answers with
        ⟨error, failed, dropped⟩ | ⟨progress, rawEvents, succeeded, dropped, -⟩
      · rw [ih.capacity] at dropped
        simpa [failed, BridgeHistory.step] using dropped
      · simpa [succeeded, BridgeHistory.step] using dropped

theorem roundLogs_append (history : BridgeHistory κ) (before later : List (BridgeAnswers κ)) :
    roundLogs shape history.bridge (before ++ later) = roundLogs shape history.bridge before ++
      roundLogs shape (exec (BridgeHistory.step shape) history before).bridge later := by
  induction before generalizing history with
  | nil => rfl
  | cons answers rest ih =>
      rw [List.cons_append, roundLogs, roundLogs, List.cons_append, exec_cons]
      exact congrArg _ (ih (history.step shape answers))

theorem length_roundLogs (rounds : List (BridgeAnswers κ)) :
    (roundLogs shape bridge rounds).length = rounds.length := by
  induction rounds generalizing bridge with
  | nil => rfl
  | cons answers rest ih => rw [roundLogs, List.length_cons, ih, List.length_cons]

/-- Every round of a sequence that succeeds is an exact batch step, and over the whole sequence the
ticks and the order stamps of link observations increase until their counters are at the limit. -/
theorem bridge_rounds_exact (localNodeId : NodeId) (clock : κ) (config : BleBridgeConfig)
    (rounds : List (BridgeAnswers κ)) (shares : ∀ answers ∈ rounds, TakesOrders answers) :
    let logs := roundLogs shape (.withClock localNodeId clock config) rounds
    (∀ before answers, before ++ [answers] <+: rounds →
      let history := exec (BridgeHistory.step shape) (.start localNodeId clock config) before
      ∀ progress, (history.bridge.advanceRound shape answers).2 = .ok progress →
        ∃ log rawEvents, logs[before.length]? = some log ∧
          answers.drainRawIngress = .ok rawEvents ∧
          ExactRound shape localNodeId config.inboundCapacity
            (leftover config.inboundCapacity (before.zip history.returned)) rawEvents answers log
            history.bridge.routerCalls (history.bridge.advanceRound shape answers).1.routerCalls
            progress) ∧
      (logs.map RoundLog.tick).Pairwise Increases ∧
      (logs.flatMap fun log => linkOrders log.batch).Pairwise Increases := by
  intro logs
  have idle : Idle (BleHostBridge.withClock localNodeId clock config) := ⟨rfl, Nat.zero_le _⟩
  refine ⟨?_, ticks_increase shape shares idle, orders_increase shape shares idle⟩
  rintro before answers ⟨later, rfl⟩ history progress succeeded
  have between : BetweenRounds localNodeId config before history :=
    betweenRounds_run shape localNodeId clock config before
  have logged : logs[before.length]? = some (roundLog history.bridge answers) := by
    have split : logs = roundLogs shape (BleHostBridge.withClock localNodeId clock config) before ++
        roundLogs shape history.bridge (answers :: later) := by
      change roundLogs shape (BridgeHistory.start localNodeId clock config).bridge _ = _
      rw [List.append_assoc, roundLogs_append]
      rfl
    rw [split, ← length_roundLogs shape before, List.getElem?_append_right (Nat.le_refl _),
      Nat.sub_self]
    rfl
  rcases advanceRound_exact shape between.idle between.dropped answers with
    ⟨error, failed, -⟩ | ⟨returned, rawEvents, returns, -, ingress, exact⟩
  · cases failed.symm.trans succeeded
  · obtain rfl : returned = progress := Except.ok.inj (returns.symm.trans succeeded)
    rw [between.localNodeId, between.capacity] at exact
    exact ⟨_, rawEvents, logged, ingress, exact⟩

end Rounds

/-! ## A round after one that failed -/

def overflowingRound : BridgeAnswers MonotonicBleTickSource where
  sharedClock := id
  notifierSnapshot := 2
  drainRawIngress := .ok [
    rawBleLinkObservedEvent (Scenario.node 2) (gattEndpoint ⟨"peer"⟩),
    .payloadReceived (Scenario.node 2) (gattEndpoint ⟨"peer"⟩) [8]]
  ingestTransportObservation _ := .ok ()
  advanceRound := .ok { engineChange := .noChange, nextRoundHint := .hostDefault }
  flushOutbound := .ok 0
  pendingOutbound := 0

theorem takesOrders_of_owned {κ : Type} [BleBridgeClock κ] {answers : BridgeAnswers κ}
    (owned : answers.sharedClock = id) : TakesOrders answers := ⟨0, owned⟩

/-- The first round fails with one event staged and one dropped. The second reports its own drop and
the one that was left over. -/
theorem bridge_rounds_exact_after_failure :
    let first := { overflowingRound with flushOutbound := .error (.other 0) }
    let history := exec (BridgeHistory.step Scenario.shaping)
      (.start (Scenario.node 1) (.new 1) ⟨1⟩) [first]
    let image := stamped Scenario.shaping (Scenario.node 1) 2
      (rawBleLinkObservedEvent (Scenario.node 2) (gattEndpoint ⟨"peer"⟩), 2)
    ∃ report,
      (history.bridge.advanceRound Scenario.shaping overflowingRound).2 = .ok (.advanced report) ∧
      (history.bridge.advanceRound Scenario.shaping overflowingRound).1.routerCalls =
        history.bridge.routerCalls ++ [.ingestTransportObservation image, .advanceRound] ∧
      report.ingestedTransportObservations.map StagedObservation.observation = [image] ∧
      report.droppedTransportObservations = 2 := by
  intro first history image
  obtain ⟨exact, -, -⟩ := bridge_rounds_exact Scenario.shaping (Scenario.node 1)
    (MonotonicBleTickSource.new 1) ⟨1⟩ [first, overflowingRound] (by
      intro answers member
      rcases List.mem_pair.mp member with rfl | rfl
      · exact takesOrders_of_owned rfl
      · exact takesOrders_of_owned rfl)
  have advances : ∃ report, (history.bridge.advanceRound Scenario.shaping overflowingRound).2 =
      .ok (.advanced report) := ⟨_, rfl⟩
  obtain ⟨report, returned⟩ := advances
  obtain ⟨log, rawEvents, logged, ingress, round⟩ :=
    exact [first] overflowingRound List.prefix_rfl _ returned
  obtain rfl : roundLog history.bridge overflowingRound = log := Option.some.inj logged
  obtain rfl : _ = rawEvents := Except.ok.inj ingress
  obtain ⟨images, dropped⟩ := round.reported report rfl
  exact ⟨report, returned, round.given, images, dropped⟩

end JqBle.Proof.Client
