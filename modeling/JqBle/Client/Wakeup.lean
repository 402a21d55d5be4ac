import JqBle.Client.Client
import JqBle.Library.BoundedQueue

/-!
# The client loop beside the ingress notifier

The loop of `client.rs` cut at the points where another task can run: the notifier is read, the mailbox
is drained, the router and the flush are awaited, the wait is decided, the notifier is read again, and
the loop parks. Whether a command comes to a bridge round and what the router and the transport answer
are inputs.

An emit puts its event into the mailbox and then changes the notifier, or does both at once. Events are
numbered, `unannounced` holds the numbers of those whose emit has not changed the notifier yet, and
`spent` every value that the notifier has had; no decision of the loop reads them.
-/

namespace JqBle.Client
open Host Library JqBle.LinkProfile

-- Who waits for the round: the loop itself or the command it handles.
inductive RoundCaller
  | loop
  | command
deriving DecidableEq, Repr

inductive LoopStage
  -- The top of the loop, or between two commands.
  | ready
  | advancing (caller : RoundCaller) (followUp : Bool)
  | snapshotted (caller : RoundCaller) (followUp : Bool) (notifierSnapshot : Nat)
  | drained (caller : RoundCaller) (followUp : Bool) (notifierSnapshot : Nat)
      (rawEvents : Except TransportError (List TransportIngressEvent))
  -- `wait_for_work`
  | waiting (waitState : BleBridgeWaitState)
  -- `wait_for_tick_or_work`, or without ticks `wait_for_notifier_or_work`, before the notifier is
  -- read.
  | checking (ticks : Option Tick) (notifierSnapshot : Nat)
  | sleeping (notifierSnapshot : Nat)
  | parked (notifierSnapshot : Nat)
  -- `wait_after_bridge_error`
  | recovering (notifierSnapshot : Nat)
  | stopped

structure MailboxEvent where
  number : Nat
  event : TransportIngressEvent
deriving DecidableEq, Repr

structure ClientLoop where
  bridge : BleHostBridge BleRuntimeEffects
  stage : LoopStage
  mailbox : BoundedQueue MailboxEvent
  emitted : Nat
  unannounced : List Nat
  notifier : Nat
  spent : List Nat

inductive LoopStep
  -- A command is taken from the queue; it may come to a round of the bridge.
  | command (drives : Bool)
  | driveBridgeRound
  | snapshot
  | drain (failure : Option TransportError)
  | finishRound (answers : BridgeAnswers BleRuntimeEffects)
  | waitForWork
  | check
  -- The sleep is over, or the notifier has changed since the snapshot.
  | elapsed
  | changed
  | shutdown
  | enqueue (event : TransportIngressEvent)
  | announce (number value : Nat)
  | emit (event : TransportIngressEvent) (value : Nat)

namespace ClientLoop

def start (localNodeId : NodeId) (tick : Tick) (ingressCapacity notifier : Nat) : ClientLoop where
  bridge := .withClock localNodeId (.new tick) {}
  stage := .ready
  mailbox := .empty ingressCapacity
  emitted := 0
  unannounced := []
  notifier := notifier
  spent := [notifier]

-- `has_changed_since`
def hasChangedSince (loop : ClientLoop) (notifierSnapshot : Nat) : Bool :=
  loop.notifier != notifierSnapshot

/-! ## Emitting -/

def enqueue (loop : ClientLoop) (event : TransportIngressEvent) : ClientLoop :=
  match loop.mailbox.push ⟨loop.emitted, event⟩ with
  | none => loop
  | some mailbox =>
      { loop with
        mailbox := mailbox
        emitted := loop.emitted + 1
        unannounced := loop.unannounced ++ [loop.emitted] }

-- A value that the notifier has had already is no change.
def announce (loop : ClientLoop) (number value : Nat) : ClientLoop :=
  if number ∈ loop.unannounced ∧ value ∉ loop.spent then
    { loop with
      unannounced := loop.unannounced.filter (· ≠ number)
      notifier := value
      spent := value :: loop.spent }
  else loop

/-- The two steps of an emit at once; a refused emit and one without a new value are no emits. -/
def emit (loop : ClientLoop) (event : TransportIngressEvent) (value : Nat) : ClientLoop :=
  if loop.mailbox.isFull = false ∧ value ∉ loop.spent then
    (loop.enqueue event).announce loop.emitted value
  else loop

/-! ## Rounds and waits -/

def afterRound (caller : RoundCaller) (followUp : Bool) (notifier : Nat) :
    Except BleBridgeError BleBridgeProgress → LoopStage
  | .error _ =>
      match caller with
      | .command => .ready
      | .loop => .recovering notifier
  | .ok progress =>
      if !followUp && ClientTask.runsFollowUp progress then .advancing caller true
      else
        match caller, progress with
        | .command, _ => .ready
        | .loop, .advanced _ => .ready
        | .loop, .waiting waitState => .waiting waitState

def afterDecision (waitState : BleBridgeWaitState) : LoopStage :=
  match waitDecision waitState with
  | .advanceImmediately => .ready
  | .waitUntilTick ticks => .checking (some ticks) waitState.notifierSnapshot
  | .blockOnNotifier snapshot => .checking none snapshot

def takesCommands : LoopStage → Bool
  | .ready | .sleeping _ | .parked _ | .recovering _ => true
  | _ => false

def finishRound (shape : CastShaping) (loop : ClientLoop) (caller : RoundCaller) (followUp : Bool)
    (answers : BridgeAnswers BleRuntimeEffects) : ClientLoop :=
  let round := loop.bridge.advanceRound shape answers
  { loop with bridge := round.1, stage := afterRound caller followUp loop.notifier round.2 }

-- A step that the stage does not wait for leaves the loop as it is.
def step (shape : CastShaping) (loop : ClientLoop) : LoopStep → ClientLoop
  | .command drives =>
      if takesCommands loop.stage then
        { loop with stage := if drives then .advancing .command false else .ready }
      else loop
  | .driveBridgeRound =>
      match loop.stage with
      | .ready => { loop with stage := .advancing .loop false }
      | _ => loop
  | .snapshot =>
      match loop.stage with
      | .advancing caller followUp =>
          { loop with stage := .snapshotted caller followUp loop.notifier }
      | _ => loop
  | .drain failure =>
      match loop.stage, failure with
      | .snapshotted caller followUp notifierSnapshot, some error =>
          { loop with stage := .drained caller followUp notifierSnapshot (.error error) }
      | .snapshotted caller followUp notifierSnapshot, none =>
          { loop with
            stage := .drained caller followUp notifierSnapshot
              (.ok (loop.mailbox.items.map MailboxEvent.event))
            mailbox := loop.mailbox.drop loop.mailbox.items.length }
      | _, _ => loop
  | .finishRound answers =>
      match loop.stage with
      | .drained caller followUp notifierSnapshot rawEvents =>
          loop.finishRound shape caller followUp { answers with
            notifierSnapshot := notifierSnapshot, drainRawIngress := rawEvents }
      | _ => loop
  | .waitForWork =>
      match loop.stage with
      | .waiting waitState => { loop with stage := afterDecision waitState }
      | _ => loop
  | .check =>
      match loop.stage with
      | .checking ticks notifierSnapshot =>
          { loop with
            stage :=
              if loop.hasChangedSince notifierSnapshot then .ready
              else if ticks.isSome then .sleeping notifierSnapshot
              else .parked notifierSnapshot }
      | _ => loop
  | .elapsed =>
      match loop.stage with
      | .sleeping _ | .recovering _ => { loop with stage := .ready }
      | _ => loop
  | .changed =>
      match loop.stage with
      | .sleeping snapshot | .parked snapshot | .recovering snapshot =>
          if loop.hasChangedSince snapshot then { loop with stage := .ready } else loop
      | _ => loop
  | .shutdown => if takesCommands loop.stage then { loop with stage := .stopped } else loop
  | .enqueue event => loop.enqueue event
  | .announce number value => loop.announce number value
  | .emit event value => loop.emit event value

end ClientLoop

end JqBle.Client
