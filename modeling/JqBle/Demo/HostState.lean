import JqBle.Client.Client
import JqBle.Demo.Invite
import JqBle.Library.Threads
import Std.Data.ExtTreeSet

/-!
# The host state (`demo/src/lib.rs`)

The calls of a host run concurrently. A call of `start` locks the slot of the service twice and creates
its own service in between. A call of `introduce_peer` gets the service, records the peer under the lock
of the set and announces it when the lock is free again.
-/

namespace JqBle.Demo
open Std Host JqBle.Client Library

inductive JacquardBleServiceError
  | client (source : BleClientError)
  | invite (source : JacquardPeerInviteError)
  | notStarted
  | alreadyStarted (localNodeId : NodeId)
deriving DecidableEq, Repr

/-- An `Arc` of a service: which one it is and what of it never changes. -/
structure JacquardBleService where
  number : Nat
  localNodeId : NodeId
deriving DecidableEq, Repr

-- `introducedPeerUpdates` holds what was broadcast.
structure IntroducedPeers where
  introducedPeers : ExtTreeSet NodeId
  introducedPeerUpdates : List NodeId

structure JacquardBleHostState where
  service : Option JacquardBleService
  -- The number of services that were created, installed or not, and the peers of each.
  created : Nat
  peers : Nat → IntroducedPeers

inductive StartStage
  | called
  | creating
  | created (service : JacquardBleService)
  | returned (result : Except JacquardBleServiceError JacquardBleService)

/-- The argument of `introduce_peer` or of `introduce_peer_from_invite`. -/
inductive PeerArgument
  | node (nodeId : NodeId)
  | invite (text : String)

inductive IntroduceStage
  | called (peer : PeerArgument)
  | resolved (service : JacquardBleService) (peer : PeerArgument)
  | recorded (service : JacquardBleService) (nodeId : NodeId) (inserted : Bool)
  | returned (result : Except JacquardBleServiceError NodeId)

inductive HostCall
  | start (localNodeId : NodeId) (stage : StartStage)
  | introduce (stage : IntroduceStage)

def PeerArgument.nodeId (hex : HexCrate) : PeerArgument → Except JacquardBleServiceError NodeId
  | .node nodeId => .ok nodeId
  | .invite text => (decodePeerInvite hex text).mapError .invite

namespace JacquardBleHostState

def new : JacquardBleHostState := ⟨none, 0, fun _ => ⟨∅, []⟩⟩

/-- A call of `start` up to where it awaits next. -/
def start (state : JacquardBleHostState) (localNodeId : NodeId) (created : Except BleClientError Unit) :
    StartStage → Option (JacquardBleHostState × StartStage)
  | .called =>
      match state.service with
      | some service => some (state, .returned (.error (.alreadyStarted service.localNodeId)))
      | none => some (state, .creating)
  | .creating =>
      match created with
      | .error error => some (state, .returned (.error (.client error)))
      | .ok _ =>
          some ({ state with created := state.created + 1 }, .created ⟨state.created, localNodeId⟩)
  | .created service =>
      match state.service with
      | some existing => some (state, .returned (.error (.alreadyStarted existing.localNodeId)))
      | none => some ({ state with service := some service }, .returned (.ok service))
  | .returned _ => none

def updatePeers (state : JacquardBleHostState) (number : Nat)
    (update : IntroducedPeers → IntroducedPeers) : JacquardBleHostState :=
  { state with
    peers := fun other => if other = number then update (state.peers number) else state.peers other }

def introducePeer (hex : HexCrate) (state : JacquardBleHostState) :
    IntroduceStage → Option (JacquardBleHostState × IntroduceStage)
  | .called peer =>
      match state.service with
      | none => some (state, .returned (.error .notStarted))
      | some service => some (state, .resolved service peer)
  | .resolved service peer =>
      match peer.nodeId hex with
      | .error error => some (state, .returned (.error error))
      | .ok nodeId =>
          let inserted := !(state.peers service.number).introducedPeers.contains nodeId
          some (state.updatePeers service.number fun peers =>
            { peers with introducedPeers := peers.introducedPeers.insert nodeId },
            .recorded service nodeId inserted)
  | .recorded service nodeId inserted =>
      let announced :=
        if inserted then
          state.updatePeers service.number fun peers =>
            { peers with introducedPeerUpdates := peers.introducedPeerUpdates ++ [nodeId] }
        else state
      some (announced, .returned (.ok nodeId))
  | .returned _ => none

-- `created` is the answer of `JacquardBleService::new` if it is awaited.
def call (hex : HexCrate) (state : JacquardBleHostState) (call : HostCall)
    (created : Except BleClientError Unit) : Option (JacquardBleHostState × HostCall) :=
  match call with
  | .start localNodeId stage =>
      (state.start localNodeId created stage).map fun moved => (moved.1, .start localNodeId moved.2)
  | .introduce stage => (state.introducePeer hex stage).map fun moved => (moved.1, .introduce moved.2)

end JacquardBleHostState

inductive HostStep
  | start (localNodeId : NodeId)
  | introducePeer (peer : PeerArgument)
  | proceed (position : Nat) (created : Except BleClientError Unit)

def HostStep.threadStep : HostStep → ThreadStep HostCall (Except BleClientError Unit)
  | .start localNodeId => .spawn (.start localNodeId .called)
  | .introducePeer peer => .spawn (.introduce (.called peer))
  | .proceed position created => .run position created

/-- The host state and the calls in flight or returned, in the order in which they were made. -/
def hostAfter (hex : HexCrate) (steps : List HostStep) : Threads JacquardBleHostState HostCall :=
  Execution.exec (Threads.step (JacquardBleHostState.call hex)) (.start .new)
    (steps.map HostStep.threadStep)

end JqBle.Demo
