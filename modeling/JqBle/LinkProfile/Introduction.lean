import JqBle.LinkProfile.DataPlane
import JqBle.Host.Core

/-!
# The identity at the head of an L2CAP channel (`l2cap.rs`)

The runtime that opens a channel writes its node id before it spawns the writer, and the one that
accepts it reads the id before it spawns the reader. Both share the pipe with the frames that follow.
A write and a read move any number of bytes. The link stays up; a link that breaks moves no more bytes.
-/

namespace JqBle.LinkProfile
open Host

def l2capIdentitySizeBytes : Nat := 32

structure ChannelPipe where
  capacity : Nat
  capacity_pos : 0 < capacity

/-! ## One lane -/

inductive LaneStep
  | send (payload : List UInt8)
  | receive
  | write (count : Nat)
  | reportClosed
  | read (count : Nat)
  | decode
  | deliver
deriving DecidableEq, Repr

namespace Lane

-- The sender keeps the channel.
def next (channel : ChannelPipe) (lane : Lane) : LaneStep → Option Lane
  | .send payload =>
      if lane.accepts && lane.hasRoom then
        some { lane with writerQueue := lane.writerQueue ++ [payload] }
      else none
  | .receive => lane.receive true
  | .write count => lane.write channel.capacity count
  | .reportClosed =>
      if lane.writer = .closing then some { lane with writerQueue := [], writer := .ended } else none
  | .read count => lane.read count
  | .decode => lane.decode
  | .deliver => lane.delivered.map Prod.snd

def step (channel : ChannelPipe) : Lane → LaneStep → Lane := Library.Execution.attempt (next channel)

def sent (lane : Lane) : LaneStep → List (List UInt8)
  | .send payload => if lane.accepts && lane.hasRoom then [payload] else []
  | _ => []

def received (lane : Lane) : LaneStep → List (List UInt8)
  | .deliver =>
      match lane.reader with
      | .delivering (.frameReceived payload) _ => [payload]
      | _ => []
  | _ => []

end Lane

/-! ## The lane with the identity in front -/

/-- `unwritten` is what `write_all` has still to write, `identity` what `read_exact` has read. -/
structure IntroducedLane where
  unwritten : List UInt8
  identity : List UInt8
  lane : Lane
deriving DecidableEq, Repr

inductive IntroducedStep
  | writeIdentity (count : Nat)
  | readIdentity (count : Nat)
  | lane (step : LaneStep)
deriving DecidableEq, Repr

namespace IntroducedLane

def opened (localNodeId : NodeId) : IntroducedLane := ⟨localNodeId.bytes.toList, [], .opened⟩

def writeIdentity (channel : ChannelPipe) (introduced : IntroducedLane) (count : Nat) :
    Option IntroducedLane :=
  if 0 < count ∧ count ≤ introduced.unwritten.length ∧
      introduced.lane.pipe.length + count ≤ channel.capacity then
    some { introduced with
      unwritten := introduced.unwritten.drop count
      lane := { introduced.lane with
        pipe := introduced.lane.pipe ++ introduced.unwritten.take count } }
  else none

def readIdentity (introduced : IntroducedLane) (count : Nat) : Option IntroducedLane :=
  if 0 < count ∧ count ≤ introduced.lane.pipe.length ∧
      introduced.identity.length + count ≤ l2capIdentitySizeBytes then
    some { introduced with
      identity := introduced.identity ++ introduced.lane.pipe.take count
      lane := { introduced.lane with pipe := introduced.lane.pipe.drop count } }
  else none

/-- What `read_l2cap_identity` has returned. -/
def remoteNodeId (introduced : IntroducedLane) : Option NodeId :=
  if sized : introduced.identity.length = l2capIdentitySizeBytes then
    some ⟨⟨introduced.identity.toArray, sized⟩⟩
  else none

-- The tasks of the sides are spawned after `write_all` and after `read_exact`.
def allows (introduced : IntroducedLane) : LaneStep → Bool
  | .send _ | .receive | .write _ | .reportClosed => introduced.unwritten.isEmpty
  | .read _ | .decode | .deliver => introduced.identity.length = l2capIdentitySizeBytes

def next (channel : ChannelPipe) (introduced : IntroducedLane) :
    IntroducedStep → Option IntroducedLane
  | .writeIdentity count => introduced.writeIdentity channel count
  | .readIdentity count => introduced.readIdentity count
  | .lane step =>
      if introduced.allows step then
        (introduced.lane.next channel step).map fun lane => { introduced with lane := lane }
      else none

def step (channel : ChannelPipe) : IntroducedLane → IntroducedStep → IntroducedLane :=
  Library.Execution.attempt (next channel)

def sent (introduced : IntroducedLane) : IntroducedStep → List (List UInt8)
  | .lane step => if introduced.allows step then introduced.lane.sent step else []
  | _ => []

def received (introduced : IntroducedLane) : IntroducedStep → List (List UInt8)
  | .lane step => if introduced.allows step then introduced.lane.received step else []
  | _ => []

def Internal : IntroducedStep → Prop
  | .lane (.send _) => False
  | _ => True

end IntroducedLane

end JqBle.LinkProfile
