import JqBle.LinkProfile.Task
import JqBle.Library.BoundedQueue
import JqBle.Library.Execution

/-!
# The way of a command to the runtime (`transport.rs`, `flush_outbound` of `bridge.rs`)

The client queues commands in the dispatch mailbox of `jacquard_host_support` while the router works,
and the bridge hands over what is queued as one batch, for which it awaits room in the driver queue.
The runtime takes the batches from there in its select loop. The mailbox may refuse a command; what it
has accepted it gives back whole and in order.
-/

namespace JqBle.LinkProfile
open Host Library

/-- Before the loop the restored devices are handled, one after the other. -/
def restoredAfter (restored : List BleDevice) (event : RuntimeEvent) : Option (List BleDevice) :=
  match restored, event with
  | device :: rest, .restoredDevice other => if other = device then some rest else none
  | _ :: _, _ => none
  | [], .restoredDevice _ => none
  | [], _ => some []

structure OutboundPath (δ : Type) where
  mailbox : List BleOutboundCommand
  -- The batch for which `BleDriverControl::dispatch` awaits room.
  dispatching : Option (List BleOutboundCommand)
  commands : BoundedQueue BleDriverCommand
  task : BleRuntimeTask δ
  restored : List BleDevice
  stopped : Bool

inductive OutboundStep
  | sendTransportTo (intent : TransportDeliveryIntent) (payload : List UInt8) (accepted : Bool)
  | flushOutbound
  -- The awaited `send` of a batch returns.
  | dispatched
  | shutdown
  -- The select loop takes the next command of the driver queue, or another event.
  | recv (backend : Backend)
  | turn (turn : Turn)

namespace OutboundPath
variable {δ : Type}

/-- What `BleTransportComponents::new` starts around the runtime task. -/
def components (task : BleRuntimeTask δ) : OutboundPath δ where
  mailbox := []
  dispatching := none
  commands := .empty task.config.queue.commandCapacity
  task := task
  restored := task.restoredState.centralDevices
  stopped := false

def sendTransportTo (path : OutboundPath δ) (intent : TransportDeliveryIntent)
    (payload : List UInt8) (accepted : Bool) : Option (OutboundPath δ) :=
  if accepted then some { path with mailbox := path.mailbox ++ [⟨intent, payload⟩] } else none

def flushOutbound (path : OutboundPath δ) : Option (OutboundPath δ) :=
  match path.dispatching, path.mailbox with
  | none, command :: rest =>
      some { path with mailbox := [], dispatching := some (command :: rest) }
  | _, _ => none

-- A queue without its receiver refuses the batch, and with it the batch is gone.
def dispatched (path : OutboundPath δ) : Option (OutboundPath δ) :=
  match path.dispatching with
  | none => none
  | some batch =>
      if path.stopped then some { path with dispatching := none }
      else
        (path.commands.push (.dispatch batch)).map fun commands =>
          { path with dispatching := none, commands := commands }

def shutdown (path : OutboundPath δ) : Option (OutboundPath δ) :=
  if path.stopped then none
  else (path.commands.push .shutdown).map fun commands => { path with commands := commands }

def batchOf : BleDriverCommand → List BleOutboundCommand
  | .dispatch batch => batch
  | .shutdown => []

variable [PeerDirectory δ BlePeerKey DiscoveredPeerHint]

-- `handle_command` returns whether the loop is to break. What is left in the queue is dropped with its
-- receiver.
def recv (path : OutboundPath δ) (backend : Backend) : Option (OutboundPath δ) :=
  if path.stopped || !path.restored.isEmpty then none
  else
    match path.commands.items with
    | [] => none
    | command :: _ =>
        some { path with
          commands :=
            if command = .shutdown then .empty path.commands.capacity else path.commands.drop 1
          task := path.task.step ⟨.command command, backend⟩
          stopped := command = .shutdown }

def turnOf (path : OutboundPath δ) (turn : Turn) : Option (OutboundPath δ) :=
  match turn.event with
  | .command _ => none
  | _ =>
      if path.stopped then none
      else
        (restoredAfter path.restored turn.event).map fun rest =>
          { path with task := path.task.step turn, restored := rest }

def next (path : OutboundPath δ) : OutboundStep → Option (OutboundPath δ)
  | .sendTransportTo intent payload accepted => path.sendTransportTo intent payload accepted
  | .flushOutbound => path.flushOutbound
  | .dispatched => path.dispatched
  | .shutdown => path.shutdown
  | .recv backend => path.recv backend
  | .turn turn => path.turnOf turn

def step : OutboundPath δ → OutboundStep → OutboundPath δ := Execution.attempt next

/-! ## What a step moves -/

def accepted : OutboundPath δ → OutboundStep → List BleOutboundCommand
  | _, .sendTransportTo intent payload true => [⟨intent, payload⟩]
  | _, _ => []

def taken (path : OutboundPath δ) : OutboundStep → List BleOutboundCommand
  | .recv backend =>
      match path.recv backend with
      | some _ => path.commands.items.head?.toList.flatMap batchOf
      | none => []
  | _ => []

/-- What the runtime performs in the step, each effect with the task that performed it. -/
def performed (path : OutboundPath δ) (input : OutboundStep) : List (BleRuntimeTask δ × Effect) :=
  match input with
  | .recv _ | .turn _ =>
      match path.next input with
      | some reached => reached.task.outbox.map fun effect => (path.task, effect)
      | none => []
  | _ => []

/-- The commands on their way, in the order in which they will be taken. -/
def inFlight (path : OutboundPath δ) : List BleOutboundCommand :=
  path.commands.items.flatMap batchOf ++ path.dispatching.getD [] ++ path.mailbox

end OutboundPath

end JqBle.LinkProfile
