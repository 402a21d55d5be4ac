import JqBle.LinkProfile.Gatt

/-!
# Transport surface types and peer sessions (`transport.rs`, `session.rs`)
-/

namespace JqBle.LinkProfile
open Std Host

/-! ## Configuration -/

structure BleQueueConfig where
  ingressCapacity : Nat := 1024
  commandCapacity : Nat := 64
deriving DecidableEq, Repr

structure BleScanConfig where
  scanServiceUuids : List Uuid := []
  scanMode : ScanMode := .lowLatency
deriving DecidableEq, Repr

structure BleConfig where
  queue : BleQueueConfig := {}
  scan : BleScanConfig := {}
deriving DecidableEq, Repr

def BleConfig.scanFilter (config : BleConfig) : ScanFilter :=
  ⟨config.scan.scanServiceUuids, config.scan.scanMode⟩

structure BleRestoredState where
  centralDevices : List BleDevice := []
  peripheralServiceUuids : List Uuid := []
deriving DecidableEq, Repr

inductive BleLinkError
  | blew (error : BlewError)
  | zeroIngressCapacity
  | zeroCommandCapacity
deriving DecidableEq, Repr

/-! ## Peers -/

structure DiscoveredPeerHint where
  deviceId : DeviceId
  nodeIdPrefix : NodeIdPrefix
  advertisedGatt : Bool
  advertisedL2cap : Bool
deriving DecidableEq, Repr

structure BlePeerKey where
  value : String
deriving DecidableEq, Repr

instance : Ord BlePeerKey := ⟨compareOn BlePeerKey.value⟩
instance : TransOrd BlePeerKey := inferInstanceAs (TransCmp (compareOn BlePeerKey.value))
instance : LawfulEqOrd BlePeerKey where
  eq_of_compare {a b} equal := by
    cases a
    cases b
    simpa [compare, compareOn] using LawfulEqOrd.eq_of_compare (α := String) equal

def BlePeerKey.ofDevice (deviceId : DeviceId) : BlePeerKey := ⟨deviceId.str⟩

@[simp] theorem BlePeerKey.ofDevice_inj {a b : DeviceId} :
    BlePeerKey.ofDevice a = BlePeerKey.ofDevice b ↔ a = b := by
  cases a
  cases b
  simp [BlePeerKey.ofDevice]

abbrev PeerMap := ExtTreeMap BlePeerKey (PeerIdentityState DiscoveredPeerHint)

structure BleChannelId where
  value : Nat
deriving DecidableEq, Repr

instance : Ord BleChannelId := ⟨compareOn BleChannelId.value⟩
instance : TransOrd BleChannelId := inferInstanceAs (TransCmp (compareOn BleChannelId.value))
instance : LawfulEqOrd BleChannelId where
  eq_of_compare {a b} equal := by
    cases a
    cases b
    simpa [compare, compareOn] using LawfulEqOrd.eq_of_compare (α := Nat) equal

/-! ## Sessions -/

inductive BleSession
  | gattCentral (deviceId : DeviceId)
  | l2cap (deviceId : DeviceId) (channelId : BleChannelId)
deriving DecidableEq, Repr

namespace BleSession

def deviceId : BleSession → DeviceId
  | gattCentral deviceId | l2cap deviceId _ => deviceId

def endpoint : BleSession → LinkEndpoint
  | gattCentral deviceId => gattEndpoint deviceId
  | l2cap deviceId _ => l2capEndpoint deviceId

def isL2cap : BleSession → Bool
  | gattCentral _ => false
  | l2cap _ _ => true

@[simp] theorem deviceIdFromEndpoint_endpoint (session : BleSession) :
    deviceIdFromEndpoint session.endpoint = some session.deviceId := by
  cases session <;> simp [endpoint, deviceId]

theorem endpoint_ne_gattNotifyFanoutEndpoint (session : BleSession) :
    session.endpoint ≠ gattNotifyFanoutEndpoint := by
  intro equal
  have located := deviceIdFromEndpoint_endpoint session
  rw [equal, deviceIdFromEndpoint_gattNotifyFanoutEndpoint] at located
  cases located

end BleSession

structure BleNotifySubscriber where
  deviceId : DeviceId
deriving DecidableEq, Repr

inductive PeerSessionState
  | disconnected
  | gattOnly (ingress egress : BleSession)
  | l2capPreferred (session : BleSession) (fallback : Option BleSession)
deriving DecidableEq, Repr

structure PeerSessions where
  state : PeerSessionState
  notifySubscribers : List BleNotifySubscriber
deriving DecidableEq, Repr

def pushUniqueEndpoint (endpoints : List LinkEndpoint) (endpoint : LinkEndpoint) :
    List LinkEndpoint :=
  if endpoint ∈ endpoints then endpoints else endpoints ++ [endpoint]

namespace PeerSessions

def gattOnly (session : BleSession) : PeerSessions := ⟨.gattOnly session session, []⟩

def gattWithFallback (session : BleSession) : PeerSessions := gattOnly session

def gattNotifyFanout (subscriber : BleNotifySubscriber) : PeerSessions :=
  ⟨.disconnected, [subscriber]⟩

def l2capPreferred (session : BleSession) (fallback : Option BleSession) : PeerSessions :=
  ⟨.l2capPreferred session fallback, []⟩

-- The first subscriber of the same device is replaced in place; a new device goes to the end.
def installSubscriber (subscriber : BleNotifySubscriber) :
    List BleNotifySubscriber → List BleNotifySubscriber
  | [] => [subscriber]
  | existing :: rest =>
      if existing.deviceId = subscriber.deviceId then subscriber :: rest
      else existing :: installSubscriber subscriber rest

def installGattSubscription (sessions : PeerSessions) (subscriber : BleNotifySubscriber) :
    PeerSessions :=
  { sessions with notifySubscribers := installSubscriber subscriber sessions.notifySubscribers }

def removeGattSubscription (sessions : PeerSessions) (deviceId : DeviceId) : PeerSessions × Bool :=
  let kept := sessions.notifySubscribers.filter fun subscriber => subscriber.deviceId ≠ deviceId
  ({ sessions with notifySubscribers := kept },
    decide (sessions.notifySubscribers.length ≠ kept.length))

def notifySubscriberDeviceId (sessions : PeerSessions) : Option DeviceId :=
  sessions.notifySubscribers.head?.map BleNotifySubscriber.deviceId

def installGattCentral (sessions : PeerSessions) (session : BleSession) : PeerSessions :=
  match sessions.state with
  | .disconnected | .gattOnly _ _ => { sessions with state := .gattOnly session session }
  | .l2capPreferred preferred fallback =>
      { sessions with state := .l2capPreferred preferred (some (fallback.getD session)) }

def iterSessions (sessions : PeerSessions) : List BleSession :=
  match sessions.state with
  | .disconnected => []
  | .gattOnly ingress egress => [ingress, egress]
  | .l2capPreferred session fallback => session :: fallback.toList

def preferredEgress (sessions : PeerSessions) : Option BleSession :=
  match sessions.state with
  | .disconnected => none
  | .gattOnly _ egress => some egress
  | .l2capPreferred session _ => some session

def firstGattFallback (sessions : PeerSessions) : Option BleSession :=
  sessions.iterSessions.find? fun session => !session.isL2cap

def promoteL2cap (sessions : PeerSessions) (session : BleSession) : PeerSessions :=
  { sessions with state := .l2capPreferred session sessions.firstGattFallback }

def downgradeL2cap (sessions : PeerSessions) (channelId : BleChannelId) :
    PeerSessions × Option BleSession :=
  match sessions.state with
  | .l2capPreferred (.l2cap _ current) fallback =>
      if current = channelId then
        match fallback with
        | some fallback => ({ sessions with state := .gattOnly fallback fallback }, some fallback)
        | none => ({ sessions with state := .disconnected }, none)
      else (sessions, sessions.preferredEgress)
  | _ => (sessions, sessions.preferredEgress)

def egressForDevice (sessions : PeerSessions) (deviceId : DeviceId) : Option BleSession :=
  sessions.preferredEgress.filter fun session => session.deviceId = deviceId

def endpointsForDevice (sessions : PeerSessions) (deviceId : DeviceId) : List LinkEndpoint :=
  let unicast := (sessions.iterSessions.filter fun session => session.deviceId = deviceId).foldl
    (fun endpoints session => pushUniqueEndpoint endpoints session.endpoint) []
  (sessions.notifySubscribers.filter fun subscriber => subscriber.deviceId = deviceId).foldl
    (fun endpoints _ => pushUniqueEndpoint endpoints gattNotifyFanoutEndpoint) unicast

def referencesDevice (sessions : PeerSessions) (deviceId : DeviceId) : Bool :=
  (sessions.iterSessions.any fun session => session.deviceId = deviceId) ||
    sessions.notifySubscribers.any fun subscriber => subscriber.deviceId = deviceId

end PeerSessions

/-! ## Commands -/

structure BleOutboundCommand where
  intent : TransportDeliveryIntent
  payload : List UInt8
deriving DecidableEq, Repr

inductive BleDriverCommand
  | dispatch (batch : List BleOutboundCommand)
  | shutdown
deriving DecidableEq, Repr

end JqBle.LinkProfile
