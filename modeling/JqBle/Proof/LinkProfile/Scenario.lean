import JqBle.LinkProfile.Task
import JqBle.Library.Execution

/-!
# Runs on concrete peers

Names for the nodes, devices and radio answers of the runs that the proofs show.
-/

namespace JqBle.Proof.LinkProfile.Scenario
open Std Host Library JqBle.LinkProfile

def node (byte : UInt8) : NodeId := ⟨Vector.replicate 32 byte⟩

def launched (targetOs : TargetOs) : BleRuntimeTask PeerMap :=
  .launch targetOs (node 1) {} {}

theorem new_launched (targetOs : TargetOs) :
    BleRuntimeTask.new targetOs (node 1) {} {} = .ok (launched targetOs) := rfl

/-- A powered radio without L2CAP whose peers answer a read with their node id and their PSM. -/
def radio (identity : DeviceId → Option NodeId) (psm : DeviceId → Option Psm) : Backend where
  peripheralIsPowered := .ok true
  centralIsPowered := .ok true
  l2capListener := .error .notSupported
  addService := .ok ()
  startAdvertising := .ok ()
  startScan := .ok ()
  claimPending := false
  tryClaim := true
  readCharacteristic deviceId charUuid :=
    if charUuid = jacquardNodeIdCharUuid then
      ((identity deviceId).map fun nodeId => nodeId.bytes.toList).elim (.error (.other 0)) .ok
    else if charUuid = jacquardPsmCharUuid then
      ((psm deviceId).map psmBytes).elim (.error (.other 0)) .ok
    else .error (.other 0)
  openL2capChannel := .ok ()
  writeL2capIdentity := true
  readL2capIdentity := none
  l2capSend := fun _ _ => true

def shaping : CastShaping := fun observed =>
  ⟨observed.sender, observed.receiver, observed.payloadBytesMax,
    observed.directionalConfidencePermille, observed.directionalConfidencePermille⟩

def silent : Backend := radio (fun _ => none) fun _ => none

def discover (deviceId : DeviceId) (nodeId : NodeId) : Turn :=
  ⟨.central (.deviceDiscovered ⟨deviceId, [discoveryServiceUuid nodeId]⟩), silent⟩

/-- The connection that reads the peer's identity and, if it has one, its PSM. -/
def connect (deviceId : DeviceId) (nodeId : NodeId) (psm : Option Psm) : Turn :=
  ⟨.central (.deviceConnected deviceId), radio (fun _ => some nodeId) fun _ => psm⟩

def meet (deviceId : DeviceId) (nodeId : NodeId) (psm : Option Psm) : List Turn :=
  [discover deviceId nodeId, connect deviceId nodeId psm]

/-- One node met through two devices, as after a change of address, the second with L2CAP. -/
def addressRotation : List Turn :=
  meet ⟨"old"⟩ (node 2) none ++ meet ⟨"new"⟩ (node 2) (some ⟨129⟩)

/-- One node met through two devices, the first with L2CAP: the second is resolved and the first keeps
the session. -/
def returnedAddress : List Turn :=
  meet ⟨"new"⟩ (node 2) (some ⟨129⟩) ++ meet ⟨"old"⟩ (node 2) none

def disconnect (deviceId : DeviceId) : Turn :=
  ⟨.central (.deviceDisconnected deviceId .linkLoss), silent⟩

def leftBehind : List Turn := returnedAddress ++ [disconnect ⟨"old"⟩]

def subscription (deviceId : DeviceId) (subscribed : Bool) : Turn :=
  ⟨.peripheralState (.subscriptionChanged deviceId jacquardP2cCharUuid subscribed), silent⟩

def reached (targetOs : TargetOs) (turns : List Turn) : BleRuntimeTask PeerMap :=
  Execution.exec BleRuntimeTask.step (launched targetOs) turns

abbrev FinitePeers := FinitePeerMap BlePeerKey DiscoveredPeerHint

def launchedFinite : BleRuntimeTask FinitePeers := .launch .other (node 1) {} {}

theorem new_launchedFinite :
    BleRuntimeTask.new .other (node 1) {} {} = .ok launchedFinite := rfl

def reachedFinite (turns : List Turn) : BleRuntimeTask FinitePeers :=
  Execution.exec BleRuntimeTask.step launchedFinite turns

def restores (turn : Turn) : Bool :=
  match turn.event with
  | .restoredDevice _ => true
  | _ => false

theorem runOf_looped {restored : List BleDevice} (turns : List Turn)
    (looped : turns.all (fun turn => !restores turn) = true) : RunOf restored turns := by
  refine ⟨[], turns, rfl, List.nil_prefix, ?_⟩
  intro turn member device event
  have looping := List.all_eq_true.mp looped turn member
  simp [restores, event] at looping

end JqBle.Proof.LinkProfile.Scenario
