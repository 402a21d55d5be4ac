import JqBle.LinkProfile.Cast

/-!
# The host bridge (`bridge.rs`, the clock of `effects.rs`)

A round is driven with the answers that the router and the transport give during it. An observation
carries the number of the raw event it was made from: that number, `arrived` and the calls made to the
router are history and no decision reads them.
-/

namespace JqBle.Client
open Host JqBle.LinkProfile

inductive BleBridgeError
  | route (source : RouteError)
  | transport (source : TransportError)
deriving DecidableEq, Repr

/-! ## Clocks -/

class BleBridgeClock (κ : Type) where
  advanceTick : κ → Tick × κ
  nextOrderStamp : κ → OrderStamp × κ

structure MonotonicBleTickSource where
  nextTick : Tick
  nextOrder : Nat
deriving DecidableEq, Repr

def MonotonicBleTickSource.new (initialTick : Tick) : MonotonicBleTickSource := ⟨initialTick, 0⟩

instance : BleBridgeClock MonotonicBleTickSource where
  advanceTick clock :=
    (clock.nextTick, { clock with nextTick := saturatingAdd u64Max clock.nextTick 1 })
  nextOrderStamp clock :=
    let nextOrder := saturatingAdd u64Max clock.nextOrder 1
    (nextOrder, { clock with nextOrder := nextOrder })

structure BleRuntimeEffects where
  nowTick : Tick
  nextTick : Tick
  nextOrder : Nat
deriving DecidableEq, Repr

def BleRuntimeEffects.new (initialTick : Tick) : BleRuntimeEffects := ⟨initialTick, initialTick, 0⟩

instance : BleBridgeClock BleRuntimeEffects where
  advanceTick clock :=
    (clock.nextTick,
      { clock with
        nowTick := clock.nextTick
        nextTick := saturatingAdd u64Max clock.nextTick 1 })
  nextOrderStamp clock :=
    let nextOrder := saturatingAdd u64Max clock.nextOrder 1
    (nextOrder, { clock with nextOrder := nextOrder })

/-! ## Reports -/

structure StagedObservation where
  arrival : Nat
  observation : TransportObservation
deriving DecidableEq, Repr

def inboundCapacityMax : Nat := 1024

structure BleBridgeConfig where
  inboundCapacity : Nat := inboundCapacityMax
deriving DecidableEq, Repr

structure BleBridgeRoundReport where
  routerOutcome : RouterRoundOutcome
  ingestedTransportObservations : List StagedObservation
  flushedTransportCommands : Nat
  droppedTransportObservations : Nat
deriving DecidableEq, Repr

structure BleBridgeWaitState where
  nextRoundHint : RoutingTickHint
  pendingTransportObservations : Nat
  pendingTransportCommands : Nat
  droppedTransportObservations : Nat
  notifierSnapshot : Nat
deriving DecidableEq, Repr

inductive BleBridgeProgress
  | advanced (report : BleBridgeRoundReport)
  | waiting (state : BleBridgeWaitState)
deriving DecidableEq, Repr

inductive BleBridgeWaitDecision
  | advanceImmediately
  | waitUntilTick (ticks : Tick)
  | blockOnNotifier (snapshot : Nat)
deriving DecidableEq, Repr

def narrowCount (value : Nat) : Nat := min value u32Max

/-! ## Rounds -/

/-- What the router and the transport answer during a round. -/
structure BridgeAnswers (κ : Type) where
  /-- The client's router holds the same clock: what it has done to it since the last round. -/
  sharedClock : κ → κ
  notifierSnapshot : Nat
  drainRawIngress : Except TransportError (List TransportIngressEvent)
  /-- The answer to the observation at the given position of the round. -/
  ingestTransportObservation : Nat → Except RouteError Unit
  advanceRound : Except RouteError RouterRoundOutcome
  flushOutbound : Except TransportError Nat
  pendingOutbound : Nat

inductive RouterCall
  | ingestTransportObservation (observation : TransportObservation)
  | advanceRound
deriving DecidableEq, Repr

namespace BridgeAnswers
variable {κ : Type} (answers : BridgeAnswers κ)

/-- The calls that ingest the observations, of which only the last can fail. -/
def ingestLoop : Nat → List StagedObservation → List RouterCall × Except RouteError Unit
  | _, [] => ([], .ok ())
  | position, staged :: rest =>
      let call := RouterCall.ingestTransportObservation staged.observation
      match answers.ingestTransportObservation position with
      | .error error => ([call], .error error)
      | .ok () =>
          let (calls, result) := ingestLoop (position + 1) rest
          (call :: calls, result)

def driveRouter (ingested : List StagedObservation) :
    List RouterCall × Except BleBridgeError (RouterRoundOutcome × Nat) :=
  match answers.ingestLoop 0 ingested with
  | (calls, .error error) => (calls, .error (.route error))
  | (calls, .ok ()) =>
      let calls := calls ++ [.advanceRound]
      match answers.advanceRound with
      | .error error => (calls, .error (.route error))
      | .ok routerOutcome =>
          match answers.flushOutbound with
          | .error error => (calls, .error (.transport error))
          | .ok flushed => (calls, .ok (routerOutcome, flushed))

end BridgeAnswers

structure BleHostBridge (κ : Type) where
  localNodeId : NodeId
  clock : κ
  pendingTransportObservations : List StagedObservation
  inboundCapacity : Nat
  droppedTransportObservations : Nat
  arrived : Nat
  routerCalls : List RouterCall
deriving DecidableEq, Repr

namespace BleHostBridge
variable {κ : Type}

def withClock (localNodeId : NodeId) (clock : κ) (config : BleBridgeConfig) : BleHostBridge κ where
  localNodeId := localNodeId
  clock := clock
  pendingTransportObservations := []
  inboundCapacity := config.inboundCapacity
  droppedTransportObservations := 0
  arrived := 0
  routerCalls := []

variable [BleBridgeClock κ]

def observeTransportIngress (shape : CastShaping) (bridge : BleHostBridge κ)
    (event : TransportIngressEvent) (observedAtTick : Tick) :
    TransportObservation × BleHostBridge κ :=
  match event with
  | .payloadReceived .. => (event.observeAt observedAtTick, bridge)
  | .linkObserved .. =>
      let (order, clock) := BleBridgeClock.nextOrderStamp bridge.clock
      (linkObservationFromBleEvent shape bridge.localNodeId event observedAtTick order,
        { bridge with clock := clock })

def stageEvent (shape : CastShaping) (observedAtTick : Tick) (bridge : BleHostBridge κ)
    (event : TransportIngressEvent) : BleHostBridge κ :=
  let arrival := bridge.arrived
  let bridge := { bridge with arrived := arrival + 1 }
  if bridge.inboundCapacity ≤ bridge.pendingTransportObservations.length then
    { bridge with
      droppedTransportObservations :=
        saturatingAdd usizeMax bridge.droppedTransportObservations 1 }
  else
    let (observation, bridge) := bridge.observeTransportIngress shape event observedAtTick
    { bridge with
      pendingTransportObservations :=
        bridge.pendingTransportObservations ++ [⟨arrival, observation⟩] }

def stageTransportIngress (shape : CastShaping) (bridge : BleHostBridge κ)
    (answers : BridgeAnswers κ) (observedAtTick : Tick) :
    Except TransportError (BleHostBridge κ) :=
  match answers.drainRawIngress with
  | .error error => .error error
  | .ok rawEvents => .ok (rawEvents.foldl (stageEvent shape observedAtTick) bridge)

def advanceRound (shape : CastShaping) (bridge : BleHostBridge κ) (answers : BridgeAnswers κ) :
    BleHostBridge κ × Except BleBridgeError BleBridgeProgress :=
  let (observedAtTick, clock) := BleBridgeClock.advanceTick (answers.sharedClock bridge.clock)
  let bridge := { bridge with clock := clock }
  match bridge.stageTransportIngress shape answers observedAtTick with
  | .error error => (bridge, .error (.transport error))
  | .ok bridge =>
      let ingested := bridge.pendingTransportObservations
      let (calls, driven) := answers.driveRouter ingested
      let bridge := { bridge with
        pendingTransportObservations := []
        routerCalls := bridge.routerCalls ++ calls }
      match driven with
      | .error error => (bridge, .error error)
      | .ok (routerOutcome, flushed) =>
          let dropped := bridge.droppedTransportObservations
          let bridge := { bridge with droppedTransportObservations := 0 }
          if ingested.isEmpty && flushed == 0 && dropped == 0 &&
              routerOutcome.engineChange == .noChange then
            (bridge, .ok (.waiting
              { nextRoundHint := routerOutcome.nextRoundHint
                pendingTransportObservations :=
                  narrowCount bridge.pendingTransportObservations.length
                pendingTransportCommands := narrowCount answers.pendingOutbound
                droppedTransportObservations := narrowCount dropped
                notifierSnapshot := answers.notifierSnapshot }))
          else
            (bridge, .ok (.advanced
              { routerOutcome := routerOutcome
                ingestedTransportObservations := ingested
                flushedTransportCommands := narrowCount flushed
                droppedTransportObservations := narrowCount dropped }))

end BleHostBridge

def waitDecision (waitState : BleBridgeWaitState) : BleBridgeWaitDecision :=
  if 0 < waitState.pendingTransportObservations ∨ 0 < waitState.pendingTransportCommands then
    .advanceImmediately
  else
    match waitState.nextRoundHint with
    | .immediate => .advanceImmediately
    | .withinTicks ticks => .waitUntilTick ticks
    | .hostDefault => .blockOnNotifier waitState.notifierSnapshot

/-! ## Sequences of rounds -/

structure BridgeHistory (κ : Type) where
  bridge : BleHostBridge κ
  returned : List (Except BleBridgeError BleBridgeProgress)

namespace BridgeHistory
variable {κ : Type}

def start (localNodeId : NodeId) (clock : κ) (config : BleBridgeConfig) : BridgeHistory κ :=
  ⟨.withClock localNodeId clock config, []⟩

def step [BleBridgeClock κ] (shape : CastShaping) (history : BridgeHistory κ)
    (answers : BridgeAnswers κ) : BridgeHistory κ :=
  let round := history.bridge.advanceRound shape answers
  ⟨round.1, history.returned ++ [round.2]⟩

end BridgeHistory

end JqBle.Client
