import JqBle.LinkProfile.DataPlane
import JqBle.Library.BoundedQueue

/-!
# The runtime task with the tasks of its channels (`l2cap.rs`, `task.rs`)

Every registered channel has a writer and a reader task, which report to the runtime through one
event queue. The answer of a send is read off the writer here, where `dispatchUnicastLoop` takes the
answers as given. A command is dispatched in one step: the runtime does nothing else meanwhile, and
what the other tasks do while a send waits comes before it.
-/

namespace JqBle.LinkProfile
open Host Library

/-! ## The tasks of one channel -/

inductive InboundReader
  | reading
  -- The loop is over and `ChannelClosed` is still to be sent.
  | closing
  | ended
deriving DecidableEq, Repr

-- `lane` is the way to the peer. Frames from the peer are inputs.
structure ChannelTasks where
  channelId : BleChannelId
  lane : Lane
  reader : InboundReader
deriving DecidableEq, Repr

def ChannelTasks.spawn (channelId : BleChannelId) : ChannelTasks := ⟨channelId, .opened, .reading⟩

-- The newest tasks come first. The table holds the sender of the newest tasks of an id.
def channelTasks? (channels : List ChannelTasks) (channelId : BleChannelId) : Option ChannelTasks :=
  channels.find? fun channel => channel.channelId = channelId

/-- The receiver that a send to the channel meets has not been dropped. -/
def receiverOpen (channels : List ChannelTasks) (channelId : BleChannelId) : Bool :=
  (channelTasks? channels channelId).any fun channel => channel.lane.accepts

-- The send waits while the queue is full.
def pushOutbound (channelId : BleChannelId) (payload : List UInt8) :
    List ChannelTasks → Option (List ChannelTasks)
  | [] => none
  | channel :: rest =>
      if channel.channelId = channelId then
        if channel.lane.hasRoom then
          some ({ channel with
            lane := { channel.lane with
              writerQueue := channel.lane.writerQueue ++ [payload] } } :: rest)
        else none
      else (pushOutbound channelId payload rest).map fun rest => channel :: rest

/-! ## Dispatch -/

namespace BleRuntimeTask
variable {δ : Type}

/-- `dispatch_unicast_command`, and the channel whose queue takes the payload. -/
def dispatchUnicastOver (isOpen : BleChannelId → Bool) (deviceId : DeviceId)
    (payload : List UInt8) : (fuel : Nat) → Option BleChannelId → BleRuntimeTask δ →
      BleRuntimeTask δ × Option BleChannelId
  | 0, _, task => (task, none)
  | fuel + 1, downgradedL2cap, task =>
      match task.egressSessionForDevice deviceId with
      | none => (task, none)
      | some (.gattCentral held) =>
          ((task.sendViaSession true (.gattCentral held) payload).1, none)
      | some (.l2cap held channelId) =>
          let sent := task.sendViaSession (isOpen channelId) (.l2cap held channelId) payload
          match sent.2 with
          | none => (sent.1, some channelId)
          | some channelId =>
              if downgradedL2cap = some channelId then (sent.1, none)
              else dispatchUnicastOver isOpen deviceId payload fuel (some channelId)
                (sent.1.handleL2capChannelClosed channelId)

end BleRuntimeTask

/-! ## The runtime -/

-- `batch` is what is left of the batch being dispatched.
structure ChannelRuntime (δ : Type) where
  task : BleRuntimeTask δ
  channels : List ChannelTasks
  l2capEvents : BoundedQueue L2capRuntimeEvent
  batch : List BleOutboundCommand

-- A position is that of a channel's tasks among all that were spawned, the newest first.
inductive ChannelStep
  -- A turn of the task other than a dispatch or an L2CAP event.
  | turn (turn : Turn)
  | dispatch (batch : List BleOutboundCommand)
  | sendNext
  | takeEvent
  | writerReceives (position : Nat)
  | writerWrites (position count : Nat)
  | peerReads (position count : Nat)
  | writeFails (position : Nat)
  | writerReports (position : Nat)
  | frameArrives (position : Nat) (payload : List UInt8)
  | readerCloses (position : Nat)
  | readerReports (position : Nat)

def spawnedChannels (effects : List Effect) : List ChannelTasks :=
  effects.filterMap fun
    | .spawnL2capChannelTasks channelId => some (.spawn channelId)
    | _ => none

namespace ChannelRuntime
variable {δ : Type} [PeerDirectory δ BlePeerKey DiscoveredPeerHint]

def launch (targetOs : TargetOs) (localNodeId : NodeId) (config : BleConfig)
    (restoredState : BleRestoredState) : ChannelRuntime δ where
  task := .launch targetOs localNodeId config restoredState
  channels := []
  l2capEvents := .empty config.queue.commandCapacity
  batch := []

def turn (runtime : ChannelRuntime δ) (turn : Turn) : Option (ChannelRuntime δ) :=
  match runtime.batch, turn.event with
  | [], .command (.dispatch _) | [], .l2cap _ => none
  | [], _ =>
      let task := runtime.task.step turn
      some { runtime with
        task := task
        channels := (spawnedChannels task.outbox).reverse ++ runtime.channels }
  | _ :: _, _ => none

def dispatch (runtime : ChannelRuntime δ) (batch : List BleOutboundCommand) :
    Option (ChannelRuntime δ) :=
  if runtime.batch.isEmpty then some { runtime with batch := batch } else none

def sendUnicast (runtime : ChannelRuntime δ) (endpoint : LinkEndpoint) (payload : List UInt8) :
    Option (ChannelRuntime δ) :=
  match deviceIdFromEndpoint endpoint with
  | none => some runtime
  | some deviceId =>
      let task := { runtime.task with outbox := [] }
      let sent := task.dispatchUnicastOver (receiverOpen runtime.channels) deviceId payload
        (task.sessions.size + 2) none
      match sent.2 with
      | none => some { runtime with task := sent.1 }
      | some channelId => (pushOutbound channelId payload runtime.channels).map fun channels =>
          { runtime with task := sent.1, channels := channels }

def sendNext (runtime : ChannelRuntime δ) : Option (ChannelRuntime δ) :=
  match runtime.batch with
  | [] => none
  | command :: rest =>
      let runtime := { runtime with batch := rest }
      match command.intent with
      | .unicast endpoint => runtime.sendUnicast endpoint command.payload
      | .multicast endpoint _ receivers =>
          let task := { runtime.task with outbox := [] }
          some { runtime with
            task := task.dispatchMulticastCommand endpoint receivers command.payload }
      | .broadcast _ => some runtime

def takeEvent (runtime : ChannelRuntime δ) : Option (ChannelRuntime δ) :=
  match runtime.batch, runtime.l2capEvents.items with
  | [], event :: _ =>
      let task := { runtime.task with outbox := [] }
      some { runtime with
        task := task.handleL2capRuntimeEvent event
        l2capEvents := runtime.l2capEvents.drop 1 }
  | _, _ => none

/-- The sender of these tasks' queue is still in the table. -/
def channelOpen (runtime : ChannelRuntime δ) (position : Nat) (channel : ChannelTasks) : Bool :=
  runtime.task.l2capChannels.contains channel.channelId &&
    (channelTasks? (runtime.channels.take position) channel.channelId).isNone

def updateChannel (runtime : ChannelRuntime δ) (position : Nat)
    (update : ChannelTasks → Option ChannelTasks) : Option (ChannelRuntime δ) :=
  runtime.channels[position]? >>= update |>.map fun channel =>
    { runtime with channels := runtime.channels.set position channel }

def report (runtime : ChannelRuntime δ) (event : L2capRuntimeEvent) : Option (ChannelRuntime δ) :=
  (runtime.l2capEvents.push event).map fun events => { runtime with l2capEvents := events }

def next (pipeCapacity : Nat) (runtime : ChannelRuntime δ) :
    ChannelStep → Option (ChannelRuntime δ)
  | .turn turn => runtime.turn turn
  | .dispatch batch => runtime.dispatch batch
  | .sendNext => runtime.sendNext
  | .takeEvent => runtime.takeEvent
  | .writerReceives position => runtime.updateChannel position fun channel =>
      (channel.lane.receive (runtime.channelOpen position channel)).map fun lane =>
        { channel with lane := lane }
  | .writerWrites position count => runtime.updateChannel position fun channel =>
      (channel.lane.write pipeCapacity count).map fun lane => { channel with lane := lane }
  | .peerReads position count => runtime.updateChannel position fun channel =>
      some { channel with lane := { channel.lane with pipe := channel.lane.pipe.drop count } }
  | .writeFails position => runtime.updateChannel position fun channel =>
      match channel.lane.writer with
      | .writing _ => some { channel with lane := { channel.lane with writer := .closing } }
      | _ => none
  | .writerReports position =>
      match runtime.channels[position]? with
      | some channel =>
          if channel.lane.writer = .closing then
            (runtime.report (.channelClosed channel.channelId)).bind fun runtime =>
              runtime.updateChannel position fun channel =>
                some { channel with lane := { channel.lane with writerQueue := [], writer := .ended } }
          else none
      | none => none
  | .frameArrives position payload =>
      match runtime.channels[position]? with
      | some channel =>
          if channel.reader = .reading ∧ payload.length ≤ l2capFrameMaxBytes then
            runtime.report (.frameReceived channel.channelId payload)
          else none
      | none => none
  | .readerCloses position => runtime.updateChannel position fun channel =>
      if channel.reader = .reading then some { channel with reader := .closing } else none
  | .readerReports position =>
      match runtime.channels[position]? with
      | some channel =>
          if channel.reader = .closing then
            (runtime.report (.channelClosed channel.channelId)).bind fun runtime =>
              runtime.updateChannel position fun channel =>
                some { channel with reader := .ended }
          else none
      | none => none

def step (pipeCapacity : Nat) : ChannelRuntime δ → ChannelStep → ChannelRuntime δ :=
  Execution.attempt (next pipeCapacity)

end ChannelRuntime

end JqBle.LinkProfile
