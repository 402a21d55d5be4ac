import JqBle.Demo.Relay
import Mathlib.Logic.Function.Basic

/-!
# A network of services (`demo/src/lib.rs`)

A service frames what it sends, and its pump surfaces or relays what its client has received. Calls of
`send` and the attempts of a relay go through the command channel of the client. A relay is a task of
its own and is cut where it awaits the reply to an attempt.
-/

namespace JqBle.Demo
open Host JqBle.Client Library

def defaultClientCommandCapacity : Nat := 64
def relayInflightMax : Nat := 64

/-! ## Application frames -/

def applicationFrameMagic : List UInt8 := "JQBLEAPP".toUTF8.toList

structure ApplicationFrame where
  fromNodeId : NodeId
  destinationNodeId : NodeId
  payload : List UInt8
deriving DecidableEq, Repr

def encodeApplicationFrame (fromNodeId destinationNodeId : NodeId) (payload : List UInt8) :
    List UInt8 :=
  applicationFrameMagic ++ (fromNodeId.bytes.toList ++ (destinationNodeId.bytes.toList ++ payload))

def copyFromSlice (slice : List UInt8) : NodeId := ⟨Vector.ofFn fun index => slice.getD index 0⟩

def decodeApplicationFrame (payload : List UInt8) : Option ApplicationFrame :=
  let headerLen := applicationFrameMagic.length + 32 + 32
  if payload.length < headerLen ∨ ¬ applicationFrameMagic.isPrefixOf payload then none
  else
    let destinationOffset := applicationFrameMagic.length + 32
    some {
      fromNodeId := copyFromSlice ((payload.drop applicationFrameMagic.length).take 32)
      destinationNodeId := copyFromSlice ((payload.drop destinationOffset).take 32)
      payload := payload.drop headerLen }

/-! ## One service -/

structure JacquardIncomingMessage where
  fromNodeId : NodeId
  transportFromNodeId : NodeId
  payload : List UInt8
deriving DecidableEq, Repr

structure JacquardRelayDrop where
  fromNodeId : NodeId
  destinationNodeId : NodeId
deriving DecidableEq, Repr

/-- A call of `relay_framed_payload` before its attempt of the given number. -/
structure RelayTask where
  relay : JacquardRelayDrop
  payload : List UInt8
  attempt : Nat
deriving DecidableEq, Repr

/-- `ClientCommand::Send`, with the relay that awaits the reply if it is not a caller of `send`. -/
structure SendRequest where
  toNodeId : NodeId
  payload : List UInt8
  relay : Option RelayTask
deriving DecidableEq, Repr

-- `transportIncoming` is the receiver of the pump from when it subscribes, and `awaitingPermit` what it
-- has taken from there to relay. `incoming` and `relayDrops` hold what was broadcast.
structure ServiceNode (π : Type) where
  client : ClientTask π
  commands : List SendRequest
  transportIncoming : Option (List (NodeId × List UInt8))
  awaitingPermit : Option RelayTask
  relays : List RelayTask
  incoming : List JacquardIncomingMessage
  relayDrops : List JacquardRelayDrop

inductive ServiceStep
  | send (destinationNodeId : NodeId) (payload : List UInt8)
  | handleCommand (answers : SendAnswers)
  | bridgeRound (rounds : ClientRounds)
  | subscribe
  | pump
  | relayAttempt (position : Nat)

namespace ServiceNode
variable {π : Type}

def fromSharedClient (client : ClientTask π) : ServiceNode π := ⟨client, [], none, none, [], [], []⟩

def localNodeId (node : ServiceNode π) : NodeId := node.client.localNodeId

/-! ### The client's side -/

-- A full channel makes the caller wait.
def clientSend (node : ServiceNode π) (toNodeId : NodeId) (payload : List UInt8)
    (relay : Option RelayTask) : Option (ServiceNode π) :=
  if node.commands.length < defaultClientCommandCapacity then
    some { node with
      commands := node.commands ++ [⟨toNodeId, encodeClientPayload payload, relay⟩] }
  else none

/-- What the client has published since then is in the receiver of the pump, which keeps only the last
messages when it lags. -/
def receive (node : ServiceNode π) (client : ClientTask π) : ServiceNode π :=
  { node with
    client := client
    transportIncoming := node.transportIncoming.map fun received =>
      let received := received ++ client.incoming.drop node.client.incoming.length
      received.drop (received.length - defaultClientCommandCapacity) }

def replied (maxAttempts : Nat) (node : ServiceNode π) (relay : Option RelayTask)
    (result : Except BleClientError JacquardBleSendReceipt) : ServiceNode π :=
  match relay, result with
  | none, _ => node
  | some _, .ok _ => node
  | some relay, .error error =>
      if relayRetryable error && relay.attempt + 1 < maxAttempts then
        { node with relays := node.relays ++ [{ relay with attempt := relay.attempt + 1 }] }
      else { node with relayDrops := node.relayDrops ++ [relay.relay] }

variable [HostTopologyProjector π]

def handleCommand (host : ClientHost) (maxAttempts : Nat) (node : ServiceNode π)
    (answers : SendAnswers) : Option (ServiceNode π) :=
  match node.commands with
  | [] => none
  | request :: rest =>
      let command := ClientCommand.send request.toNodeId request.payload
      some (({ node with commands := rest }.receive
        (node.client.step host (.command command answers))).replied maxAttempts request.relay
          (node.client.sendReply host request.toNodeId request.payload answers))

def bridgeRound (host : ClientHost) (node : ServiceNode π) (rounds : ClientRounds) :
    ServiceNode π :=
  node.receive (node.client.step host (.bridgeRound rounds))

/-! ### The service's side -/

def send (node : ServiceNode π) (destinationNodeId : NodeId) (payload : List UInt8) :
    Option (ServiceNode π) :=
  node.clientSend destinationNodeId
    (encodeApplicationFrame node.localNodeId destinationNodeId payload) none

/-- The relays that hold a permit. -/
def relayInflight (node : ServiceNode π) : Nat :=
  node.relays.length + node.commands.countP fun request => request.relay.isSome

-- The pump takes nothing more while it waits for a permit.
def pump (node : ServiceNode π) : Option (ServiceNode π) :=
  match node.awaitingPermit, node.transportIncoming with
  | some task, _ =>
      if node.relayInflight < relayInflightMax then
        some { node with awaitingPermit := none, relays := node.relays ++ [task] }
      else none
  | none, some ((transportFromNodeId, payload) :: rest) =>
      let taken := { node with transportIncoming := some rest }
      match decodeApplicationFrame payload with
      | none => some taken
      | some frame =>
          if frame.destinationNodeId = node.localNodeId then
            some { taken with
              incoming := node.incoming ++ [⟨frame.fromNodeId, transportFromNodeId, frame.payload⟩] }
          else
            some { taken with
              awaitingPermit := some ⟨⟨frame.fromNodeId, frame.destinationNodeId⟩, payload, 0⟩ }
  | none, _ => none

def relayAttempt (maxAttempts : Nat) (node : ServiceNode π) (position : Nat) :
    Option (ServiceNode π) :=
  match node.relays[position]? with
  | none => none
  | some task =>
      let waiting := { node with relays := node.relays.eraseIdx position }
      if task.attempt < maxAttempts then
        waiting.clientSend task.relay.destinationNodeId task.payload (some task)
      else some { waiting with relayDrops := node.relayDrops ++ [task.relay] }

def next (host : ClientHost) (maxAttempts : Nat) (node : ServiceNode π) :
    ServiceStep → Option (ServiceNode π)
  | .send destinationNodeId payload => node.send destinationNodeId payload
  | .handleCommand answers => node.handleCommand host maxAttempts answers
  | .bridgeRound rounds => some (node.bridgeRound host rounds)
  | .subscribe =>
      match node.transportIncoming with
      | some _ => none
      | none => some { node with transportIncoming := some [] }
  | .pump => node.pump
  | .relayAttempt position => node.relayAttempt maxAttempts position

def step (host : ClientHost) (maxAttempts : Nat) : ServiceNode π → ServiceStep → ServiceNode π :=
  Execution.attempt (next host maxAttempts)

end ServiceNode

/-! ## The network -/

/-- What each node brings: its router and presets, and its retry policy. -/
structure ServiceConfig where
  host : NodeId → ClientHost
  maxAttempts : NodeId → Nat

abbrev ServiceNetwork (π : Type) := NodeId → ServiceNode π

namespace ServiceNetwork
variable {π : Type} [HostTopologyProjector π]

def start (topology : NodeId → Observation Configuration)
    (engineCapabilities : NodeId → List Nat) : ServiceNetwork π :=
  fun nodeId => .fromSharedClient
    (.spawn nodeId (topology nodeId) (engineCapabilities nodeId))

def step (config : ServiceConfig) (network : ServiceNetwork π) (input : NodeId × ServiceStep) :
    ServiceNetwork π :=
  Function.update network input.1 ((network input.1).step (config.host input.1)
    (config.maxAttempts input.1) input.2)

end ServiceNetwork

end JqBle.Demo
