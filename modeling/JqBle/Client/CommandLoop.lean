import JqBle.Client.Client
import JqBle.Library.BoundedQueue
import JqBle.Library.Execution

/-!
# Callers and the loop that serves them (`JacquardBleClient` and `ClientTask::run` of `client.rs`)

A call puts its command into the bounded queue, for which it awaits room, and awaits its reply. The loop
takes the commands from there, a limited number of them before each round of the bridge, and between
rounds it waits for a shutdown, a command, the notifier or a sleep, in that order. The client is gone
when a shutdown is requested, so there are no calls then. A panic ends the loop too, and calls made
after it fail at once. Reply channels are numbered by the calls; `replies` keeps what was sent on them
and `abandoned` the commands whose channel was closed instead.
-/

namespace JqBle.Client
open Host Library JqBle.LinkProfile

structure QueuedCommand where
  reply : Nat
  command : ClientCommand
deriving DecidableEq, Repr

inductive CommandStage
  | top
  | draining (left : Nat)
  -- `drain_ready_commands` goes on with what is left, or without it the loop does.
  | handling (queued : QueuedCommand) (left : Option Nat)
  | driving
  -- The select of a wait, or of `wait_after_bridge_error`.
  | waiting
  | stopped
deriving DecidableEq, Repr

structure CommandLoop (π : Type) where
  task : ClientTask π
  stage : CommandStage
  commands : BoundedQueue QueuedCommand
  calls : Nat
  replies : List (QueuedCommand × Except BleClientError ClientReply)
  abandoned : List QueuedCommand
  shutdown : Bool
  -- The client has dropped its end of the queue.
  disconnected : Bool

inductive CommandLoopStep
  | send (toNodeId : NodeId) (payload : List UInt8)
  | sendMulticast (groupId : MulticastGroupId) (receivers : List NodeId) (payload : List UInt8)
  -- The two halves of `request_runtime_shutdown`.
  | requestShutdown
  | dropCommands
  | checkShutdown
  | tryRecv
  | handleCommand (answers : SendAnswers)
  | driveBridgeRound (rounds : ClientRounds) (notified : Bool)
  | shutdownChanged
  | recv
  -- The notifier has changed, or the sleep is over.
  | wake

namespace CommandLoop

def defaultClientCommandCapacity : Nat := 64

def clientCommandDrainMax : Nat := defaultClientCommandCapacity

variable {π : Type}

def commandOf : CommandLoopStep → Option ClientCommand
  | .send toNodeId payload => some (.send toNodeId (encodeClientPayload payload))
  | .sendMulticast groupId receivers payload =>
      some (.sendMulticast groupId receivers (encodeClientPayload payload))
  | _ => none

def underway : CommandStage → List QueuedCommand
  | .handling queued _ => [queued]
  | _ => []

def pending (loop : CommandLoop π) : List QueuedCommand :=
  underway loop.stage ++ loop.commands.items

def call (loop : CommandLoop π) (command : ClientCommand) : Option (CommandLoop π) :=
  if loop.shutdown || loop.task.panicked then none
  else
    (loop.commands.push ⟨loop.calls, command⟩).map fun commands =>
      { loop with commands := commands, calls := loop.calls + 1 }

-- The receiver goes with the task, and with it the commands that are left and their reply channels.
def stop (loop : CommandLoop π) : CommandLoop π :=
  { loop with
    stage := .stopped
    commands := loop.commands.drop loop.commands.items.length
    abandoned := loop.abandoned ++ loop.pending }

def stageAfterRound (notified : Bool) : Except BleClientError BleBridgeProgress → CommandStage
  | .error _ => .waiting
  | .ok (.advanced _) => .top
  | .ok (.waiting waitState) =>
      match waitDecision waitState with
      | .advanceImmediately => .top
      | .waitUntilTick _ | .blockOnNotifier _ => if notified then .top else .waiting

def stageAfterCommand : Option Nat → CommandStage
  | some left => .draining left
  | none => .top

-- An empty queue whose sender is gone ends the loop.
def receive (loop : CommandLoop π) (left : Option Nat) (empty : Option (CommandLoop π)) :
    Option (CommandLoop π) :=
  match loop.commands.items with
  | queued :: _ =>
      some { loop with stage := .handling queued left, commands := loop.commands.drop 1 }
  | [] => if loop.disconnected then some loop.stop else empty

/-! ## What is seen of it -/

/-- The steps of the loop, as opposed to those of the callers and of the owner of the client. -/
def Own : CommandLoopStep → Prop
  | .send .. | .sendMulticast .. | .requestShutdown | .dropCommands => False
  | .checkShutdown | .tryRecv | .handleCommand _ | .driveBridgeRound .. | .shutdownChanged | .recv
  | .wake => True

instance : DecidablePred Own
  | .send .. | .sendMulticast .. | .requestShutdown | .dropCommands => instDecidableFalse
  | .checkShutdown | .tryRecv | .handleCommand _ | .driveBridgeRound .. | .shutdownChanged | .recv
  | .wake => instDecidableTrue

/-- What a step has the task do. -/
def served (loop : CommandLoop π) : CommandLoopStep → List ClientInput
  | .handleCommand answers =>
      match loop.stage with
      | .handling queued _ => [.command queued.command answers]
      | _ => []
  | .driveBridgeRound rounds _ =>
      match loop.stage with
      | .driving => [.bridgeRound rounds]
      | _ => []
  | _ => []

/-! ## The loop -/

variable [HostTopologyProjector π]

def spawn (localNodeId : NodeId) (topology : Observation Configuration)
    (engineCapabilities : List Nat) : CommandLoop π where
  task := .spawn localNodeId topology engineCapabilities
  stage := .top
  commands := .empty defaultClientCommandCapacity
  calls := 0
  replies := []
  abandoned := []
  shutdown := false
  disconnected := false

def next (host : ClientHost) (loop : CommandLoop π) : CommandLoopStep → Option (CommandLoop π)
  | .send toNodeId payload => loop.call (.send toNodeId (encodeClientPayload payload))
  | .sendMulticast groupId receivers payload =>
      loop.call (.sendMulticast groupId receivers (encodeClientPayload payload))
  | .requestShutdown => some { loop with shutdown := true }
  | .dropCommands => if loop.shutdown then some { loop with disconnected := true } else none
  | .checkShutdown =>
      match loop.stage with
      | .top =>
          some (if loop.shutdown then loop.stop
            else { loop with stage := .draining clientCommandDrainMax })
      | _ => none
  | .tryRecv =>
      match loop.stage with
      | .draining 0 => some { loop with stage := .driving }
      | .draining (left + 1) => loop.receive (some left) (some { loop with stage := .driving })
      | _ => none
  | .handleCommand answers =>
      match loop.stage with
      | .handling queued left =>
          let handled := loop.task.handleCommand host answers queued.command
          let loop := { loop with task := loop.task.settle handled.1 }
          some (if handled.1.panicked then loop.stop
            else { loop with
              replies := loop.replies ++ [(queued, handled.2)]
              stage := stageAfterCommand left })
      | _ => none
  | .driveBridgeRound rounds notified =>
      match loop.stage with
      | .driving =>
          let driven := loop.task.driveBridgeRound host rounds
          let loop := { loop with task := loop.task.settle driven.1 }
          some (if driven.1.panicked then loop.stop
            else { loop with stage := stageAfterRound notified driven.2 })
      | _ => none
  | .shutdownChanged =>
      match loop.stage with
      | .waiting => if loop.shutdown then some loop.stop else none
      | _ => none
  | .recv =>
      match loop.stage with
      | .waiting => if loop.shutdown then none else loop.receive none none
      | _ => none
  | .wake =>
      match loop.stage with
      | .waiting =>
          if loop.shutdown || !loop.commands.items.isEmpty then none
          else some { loop with stage := .top }
      | _ => none

def step (host : ClientHost) : CommandLoop π → CommandLoopStep → CommandLoop π :=
  Execution.attempt (next host)

def accepted (host : ClientHost) (loop : CommandLoop π) (input : CommandLoopStep) :
    List QueuedCommand :=
  match commandOf input with
  | some command => if (loop.next host input).isSome then [⟨loop.calls, command⟩] else []
  | none => []

/-- The input, if it is a step of the loop that the loop takes. -/
def ownStep (host : ClientHost) (loop : CommandLoop π) (input : CommandLoopStep) :
    List CommandLoopStep :=
  if Own input ∧ (loop.next host input).isSome then [input] else []

/-- The steps of the loop while the call with the given number awaits its reply. -/
def awaited (host : ClientHost) (number : Nat) (loop : CommandLoop π) (input : CommandLoopStep) :
    List CommandLoopStep :=
  if (loop.pending.map QueuedCommand.reply).contains number then loop.ownStep host input else []

/-- The steps of the loop while a shutdown is requested. -/
def closing (host : ClientHost) (loop : CommandLoop π) (input : CommandLoopStep) :
    List CommandLoopStep :=
  if loop.shutdown then loop.ownStep host input else []

end CommandLoop

def ClientInput.isCommand : ClientInput → Bool
  | .command .. => true
  | .bridgeRound _ => false

/-- What handling an input answers to its caller. -/
def ClientTask.answered {π : Type} [HostTopologyProjector π] (host : ClientHost)
    (task : ClientTask π) (input : ClientInput) :
    List (ClientCommand × Except BleClientError ClientReply) :=
  match input with
  | .command command answers =>
      if (task.step host input).panicked then []
      else [(command, (task.handleCommand host answers command).2)]
  | .bridgeRound _ => []

end JqBle.Client
