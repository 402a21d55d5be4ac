import JqBle.LinkProfile.Task
import JqBle.Library.Execution
import Mathlib.Logic.Function.Basic

/-!
# Two runtimes over one L2CAP channel (`l2cap.rs`, the dispatch of `task.rs`)

Each side has its runtime task, which dispatches batches and takes the events of the channel, and the
writer and the reader task of `spawn_l2cap_channel_tasks`. A lane is one direction of the channel: the
writer queue and the writer of one side, the pipe, and the reader of the other side. The link stays up.

A send into a full queue and a write into a full pipe wait, so they are not enabled. Payloads that are
taken from the event queue are emitted without waiting.
-/

namespace JqBle.LinkProfile
open Library

def l2capFrameMaxBytes : Nat := 1472

-- `DEFAULT_COMMAND_CAPACITY`
def writerQueueCapacity : Nat := 64

/-! ## Frames -/

def encodeFrame (payload : List UInt8) : List UInt8 :=
  UInt8.ofNat (payload.length % 256) :: UInt8.ofNat (payload.length / 256) :: payload

inductive Decoded
  | incomplete
  | tooLong
  | frame (payload rest : List UInt8)
deriving DecidableEq, Repr

def decodeFrame : List UInt8 → Decoded
  | low :: high :: bytes =>
      let length := low.toNat + 256 * high.toNat
      if l2capFrameMaxBytes < length then .tooLong
      else if bytes.length < length then .incomplete
      else .frame (bytes.take length) (bytes.drop length)
  | _ => .incomplete

/-! ## Lanes -/

inductive WriterTask
  | receiving
  | writing (rest : List UInt8)
  -- The write has failed and `ChannelClosed` is still to be sent. The task keeps the receiving end of
  -- its queue until then.
  | closing
  | ended
deriving DecidableEq, Repr

inductive LaneEvent
  | frameReceived (payload : List UInt8)
  | channelClosed
deriving DecidableEq, Repr

inductive ReaderTask
  | reading (buffer : List UInt8)
  | delivering (event : LaneEvent) (buffer : List UInt8)
  | ended
deriving DecidableEq, Repr

structure Lane where
  writerQueue : List (List UInt8)
  writer : WriterTask
  pipe : List UInt8
  reader : ReaderTask
deriving DecidableEq, Repr

namespace Lane

def opened : Lane := ⟨[], .receiving, [], .reading []⟩

/-- The receiving end of the writer queue has not been dropped. -/
def accepts (lane : Lane) : Bool :=
  match lane.writer with
  | .receiving | .writing _ | .closing => true
  | .ended => false

def hasRoom (lane : Lane) : Bool := lane.writerQueue.length < writerQueueCapacity

-- An oversized payload is refused by the codec. Without a sender the writer ends when the queue is
-- empty.
def receive (lane : Lane) (channelOpen : Bool) : Option Lane :=
  match lane.writer, lane.writerQueue with
  | .receiving, payload :: rest =>
      if payload.length ≤ l2capFrameMaxBytes then
        some { lane with writerQueue := rest, writer := .writing (encodeFrame payload) }
      else some { lane with writerQueue := rest, writer := .closing }
  | .receiving, [] => if channelOpen then none else some { lane with writer := .ended }
  | _, _ => none

def write (pipeCapacity : Nat) (lane : Lane) (count : Nat) : Option Lane :=
  match lane.writer with
  | .writing rest =>
      if 0 < count ∧ count ≤ rest.length ∧ lane.pipe.length + count ≤ pipeCapacity then
        some { lane with
          pipe := lane.pipe ++ rest.take count
          writer := if rest.drop count = [] then .receiving else .writing (rest.drop count) }
      else none
  | _ => none

-- The reader reads on only when its buffer holds no whole frame.
def read (lane : Lane) (count : Nat) : Option Lane :=
  match lane.reader with
  | .reading buffer =>
      if decodeFrame buffer = .incomplete ∧ 0 < count ∧ count ≤ lane.pipe.length then
        some { lane with
          pipe := lane.pipe.drop count
          reader := .reading (buffer ++ lane.pipe.take count) }
      else none
  | _ => none

def decode (lane : Lane) : Option Lane :=
  match lane.reader with
  | .reading buffer =>
      match decodeFrame buffer with
      | .incomplete => none
      | .tooLong => some { lane with reader := .delivering .channelClosed buffer }
      | .frame payload rest =>
          some { lane with reader := .delivering (.frameReceived payload) rest }
  | _ => none

def delivered (lane : Lane) : Option (LaneEvent × Lane) :=
  match lane.reader with
  | .delivering .channelClosed _ => some (.channelClosed, { lane with reader := .ended })
  | .delivering (.frameReceived payload) buffer =>
      some (.frameReceived payload, { lane with reader := .reading buffer })
  | _ => none

end Lane

/-! ## Both sides -/

structure PlaneConfig where
  commandCapacity : Side → Nat
  pipeCapacity : Side → Nat
  commandCapacity_pos : ∀ side, 0 < commandCapacity side
  pipeCapacity_pos : ∀ side, 0 < pipeCapacity side

-- The batch in progress is empty while the runtime waits in its select loop.
structure PlaneRuntime where
  commands : List (List (List UInt8))
  batch : List (List UInt8)
  channelOpen : Bool
  events : List LaneEvent
deriving DecidableEq, Repr

structure DataPlane where
  runtime : Side → PlaneRuntime
  lane : Side → Lane

inductive PlaneStep
  | dispatch (side : Side) (batch : List (List UInt8))
  | takeBatch (side : Side)
  | sendNext (side : Side)
  | takeEvent (side : Side)
  | receive (lane : Side)
  | write (lane : Side) (count : Nat)
  | reportClosed (lane : Side)
  | read (lane : Side) (count : Nat)
  | decode (lane : Side)
  | deliver (lane : Side)
deriving DecidableEq, Repr

namespace DataPlane

def start : DataPlane where
  runtime _ := ⟨[], [], true, []⟩
  lane _ := .opened

def setRuntime (plane : DataPlane) (side : Side) (runtime : PlaneRuntime) : DataPlane :=
  { plane with runtime := Function.update plane.runtime side runtime }

def setLane (plane : DataPlane) (side : Side) (lane : Lane) : DataPlane :=
  { plane with lane := Function.update plane.lane side lane }

def sendsL2cap (plane : DataPlane) (side : Side) : Bool :=
  (plane.runtime side).channelOpen && (plane.lane side).accepts

def takeBatch (plane : DataPlane) (side : Side) : Option DataPlane :=
  let runtime := plane.runtime side
  match runtime.batch, runtime.commands with
  | [], batch :: rest => some (plane.setRuntime side { runtime with commands := rest, batch := batch })
  | _, _ => none

-- `send_via_session`: a send that fails closes the channel and the payload goes over GATT.
def sendNext (plane : DataPlane) (side : Side) : Option DataPlane :=
  let runtime := plane.runtime side
  let lane := plane.lane side
  match runtime.batch with
  | [] => none
  | payload :: rest =>
      if plane.sendsL2cap side then
        if lane.hasRoom then
          some ((plane.setRuntime side { runtime with batch := rest }).setLane side
            { lane with writerQueue := lane.writerQueue ++ [payload] })
        else none
      else some (plane.setRuntime side { runtime with batch := rest, channelOpen := false })

def takeEvent (plane : DataPlane) (side : Side) : Option DataPlane :=
  let runtime := plane.runtime side
  match runtime.batch, runtime.events with
  | [], .frameReceived _ :: rest => some (plane.setRuntime side { runtime with events := rest })
  | [], .channelClosed :: rest =>
      some (plane.setRuntime side { runtime with events := rest, channelOpen := false })
  | _, _ => none

def offerEvent (config : PlaneConfig) (plane : DataPlane) (side : Side) (event : LaneEvent) :
    Option DataPlane :=
  let runtime := plane.runtime side
  if runtime.events.length < config.commandCapacity side then
    some (plane.setRuntime side { runtime with events := runtime.events ++ [event] })
  else none

def dispatch (config : PlaneConfig) (plane : DataPlane) (side : Side) (batch : List (List UInt8)) :
    Option DataPlane :=
  let runtime := plane.runtime side
  if runtime.commands.length < config.commandCapacity side then
    some (plane.setRuntime side { runtime with commands := runtime.commands ++ [batch] })
  else none

def reportClosed (config : PlaneConfig) (plane : DataPlane) (side : Side) : Option DataPlane :=
  let lane := plane.lane side
  match lane.writer with
  | .closing => (plane.offerEvent config side .channelClosed).map fun plane =>
      plane.setLane side { lane with writerQueue := [], writer := .ended }
  | _ => none

def deliver (config : PlaneConfig) (plane : DataPlane) (side : Side) : Option DataPlane :=
  match (plane.lane side).delivered with
  | some (event, lane) =>
      (plane.offerEvent config side.other event).map fun plane => plane.setLane side lane
  | none => none

def next (config : PlaneConfig) (plane : DataPlane) : PlaneStep → Option DataPlane
  | .dispatch side batch => plane.dispatch config side batch
  | .takeBatch side => plane.takeBatch side
  | .sendNext side => plane.sendNext side
  | .takeEvent side => plane.takeEvent side
  | .receive side =>
      ((plane.lane side).receive (plane.runtime side).channelOpen).map (plane.setLane side)
  | .write side count =>
      ((plane.lane side).write (config.pipeCapacity side) count).map (plane.setLane side)
  | .reportClosed side => plane.reportClosed config side
  | .read side count => ((plane.lane side).read count).map (plane.setLane side)
  | .decode side => (plane.lane side).decode.map (plane.setLane side)
  | .deliver side => plane.deliver config side

def step (config : PlaneConfig) : DataPlane → PlaneStep → DataPlane :=
  Execution.attempt (next config)

def Internal : PlaneStep → Prop
  | .dispatch .. => False
  | _ => True

/-! ### What a step moves -/

-- The payload that goes into the writer queue.
def sentOver (side : Side) (plane : DataPlane) : PlaneStep → List (List UInt8)
  | .sendNext here =>
      if here = side ∧ plane.sendsL2cap side = true ∧ (plane.lane side).hasRoom = true then
        (plane.runtime side).batch.take 1
      else []
  | _ => []

-- `handle_l2cap_runtime_event`: a frame of a channel that is not registered any more is dropped.
def emittedFrom (side : Side) (plane : DataPlane) : PlaneStep → List (List UInt8)
  | .takeEvent here =>
      let runtime := plane.runtime side
      match runtime.batch, runtime.events with
      | [], .frameReceived payload :: _ =>
          if here = side ∧ runtime.channelOpen = true then [payload] else []
      | _, _ => []
  | _ => []

end DataPlane

end JqBle.LinkProfile
