import JqBle.LinkProfile.Task
import JqBle.Library.Execution
import Mathlib.Logic.Function.Basic

/-!
# Two runtimes that read each other (`handle_device_connected`, `handle_restored_device`, `session.rs`)

The runtime awaits the reads of a handshake inside the handler, so it does not come back to its select
loop before they are answered. A read of the other runtime is forwarded to it as a
`PeripheralRequest::Read` and answered there by the select loop, or the radio gives it up. What a
handler does is what `BleRuntimeTask.step` does with the answers of its reads.
-/

namespace JqBle.LinkProfile
open Host Library

/-- A handler that awaits a read, with the answers that the radio has given it so far. -/
structure Handshake where
  turn : Turn
  deviceId : DeviceId
  charUuid : Uuid

structure HandshakeRuntime (δ : Type) where
  task : BleRuntimeTask δ
  restored : List BleDevice
  handshake : Option Handshake

structure HandshakePair (δ : Type) where
  runtime : Side → HandshakeRuntime δ

inductive HandshakeStep
  -- The runtime turns to its next event, with the answers of the radio apart from the reads.
  | take (side : Side) (turn : Turn)
  -- The select loop answers the read that the other runtime awaits.
  | serve (side : Side) (clientId : DeviceId) (backend : Backend)
  -- The radio ends the read: with an error, or with the answer of a third device.
  | complete (side : Side) (answer : Except BlewError (List UInt8))

def Backend.answering (backend : Backend) (deviceId : DeviceId) (charUuid : Uuid)
    (answer : Except BlewError (List UInt8)) : Backend :=
  { backend with
    readCharacteristic := fun otherId otherUuid =>
      if otherId = deviceId ∧ otherUuid = charUuid then answer
      else backend.readCharacteristic otherId otherUuid }

def responseOf : List Effect → Except BlewError (List UInt8)
  | [.respond value] => .ok value
  | _ => .error (.other 0)

namespace HandshakePair
variable {δ : Type} [PeerDirectory δ BlePeerKey DiscoveredPeerHint]

def start (tasks : Side → BleRuntimeTask δ) : HandshakePair δ where
  runtime side := ⟨tasks side, (tasks side).restoredState.centralDevices, none⟩

/-- The device whose identity the handler of the turn reads first of all. -/
def opensWith (turn : Turn) : Option DeviceId :=
  match turn.event with
  | .central (.deviceConnected deviceId) => some deviceId
  | .restoredDevice device =>
      if (parseDiscoveryHint device.services).isNone && turn.backend.claims then some device.id
      else none
  | _ => none

-- The identity that was read lets the handler go on to `install_resolved_peer`, which reads the
-- PSM.
def installs (task : BleRuntimeTask δ) (turn : Turn) (deviceId : DeviceId) : Bool :=
  match turn.backend.resolveRemoteNodeId deviceId with
  | .error _ => false
  | .ok nodeId =>
      match turn.event with
      | .restoredDevice _ => true
      | _ =>
          match PeerDirectory.identityState task.peers (BlePeerKey.ofDevice deviceId) with
          | some (.hint hint) => hintMatchesNodeId hint.nodeIdPrefix nodeId
          | _ => false

-- Before the loop the restored devices are handled, one after the other.
def takes (runtime : HandshakeRuntime δ) (turn : Turn) : Option (List BleDevice) :=
  match runtime.restored, turn.event with
  | device :: rest, .restoredDevice other => if other = device then some rest else none
  | _ :: _, _ => none
  | [], .restoredDevice _ => none
  | [], _ => some []

def begin (runtime : HandshakeRuntime δ) (turn : Turn) (restored : List BleDevice) :
    HandshakeRuntime δ :=
  match opensWith turn with
  | some deviceId => ⟨runtime.task, restored, some ⟨turn, deviceId, jacquardNodeIdCharUuid⟩⟩
  | none => ⟨runtime.task.step turn, restored, none⟩

def answered (runtime : HandshakeRuntime δ) (handshake : Handshake)
    (answer : Except BlewError (List UInt8)) : HandshakeRuntime δ :=
  let turn : Turn := { handshake.turn with
    backend := handshake.turn.backend.answering handshake.deviceId handshake.charUuid answer }
  if handshake.charUuid = jacquardNodeIdCharUuid && installs runtime.task turn handshake.deviceId then
    { runtime with handshake := some ⟨turn, handshake.deviceId, jacquardPsmCharUuid⟩ }
  else { runtime with task := runtime.task.step turn, handshake := none }

def set (pair : HandshakePair δ) (side : Side) (runtime : HandshakeRuntime δ) : HandshakePair δ :=
  ⟨Function.update pair.runtime side runtime⟩

def listens (runtime : HandshakeRuntime δ) : Bool :=
  runtime.handshake.isNone && runtime.restored.isEmpty

-- `addresses side` are the devices under which the runtime sees the other one.
def next (addresses : Side → DeviceId → Bool) (pair : HandshakePair δ) :
    HandshakeStep → Option (HandshakePair δ)
  | .take side turn =>
      let runtime := pair.runtime side
      match runtime.handshake, takes runtime turn with
      | none, some restored => some (pair.set side (begin runtime turn restored))
      | _, _ => none
  | .serve side clientId backend =>
      match (pair.runtime side.other).handshake with
      | none => none
      | some handshake =>
          let runtime := pair.runtime side
          if listens runtime && addresses side.other handshake.deviceId then
            let task := runtime.task.step
              ⟨.peripheralRequest (.read clientId handshake.charUuid), backend⟩
            let served := pair.set side { runtime with task := task }
            some (served.set side.other
              (answered (served.runtime side.other) handshake (responseOf task.outbox)))
          else none
  | .complete side answer =>
      match (pair.runtime side).handshake with
      | none => none
      | some handshake =>
          if addresses side handshake.deviceId && answer.isOk then none
          else some (pair.set side (answered (pair.runtime side) handshake answer))

def step (addresses : Side → DeviceId → Bool) : HandshakePair δ → HandshakeStep → HandshakePair δ :=
  Execution.attempt (next addresses)

/-! ## What a step performs -/

def concerns (side : Side) : HandshakeStep → Bool
  | .take taker _ | .complete taker _ => taker = side
  | .serve .. => true

/-- The effects of the handler of the side that returns in the step. -/
def performed (addresses : Side → DeviceId → Bool) (pair : HandshakePair δ) (side : Side)
    (input : HandshakeStep) : List Effect :=
  match next addresses pair input with
  | none => []
  | some reached =>
      let runtime := reached.runtime side
      if concerns side input && runtime.handshake.isNone then runtime.task.outbox else []

end HandshakePair

end JqBle.LinkProfile
