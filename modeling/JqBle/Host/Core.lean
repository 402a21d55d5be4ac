import JqBle.Library.EntryMap
import Mathlib.Algebra.Group.Nat.Defs

/-!
# Values shared with `jacquard_core`, `jacquard_host_support` and `blew`

The crates of the repository build on three libraries that are not part of it. This file has the
data types of theirs that the repository reads and builds. An enumeration of theirs keeps the
variants the repository names; `other` stands for the rest of it.
-/

namespace JqBle.Host
open Std Library

/-! ## Identifiers -/

structure NodeId where
  bytes : Vector UInt8 32
deriving DecidableEq, Repr

/-- Byte order, as derived for the byte array. -/
instance : Ord NodeId := ⟨compareOn NodeId.bytes⟩
instance : TransOrd NodeId := inferInstanceAs (TransCmp (compareOn NodeId.bytes))
instance : LawfulEqOrd NodeId where
  eq_of_compare {a b} equal := by
    cases a
    cases b
    simpa [compare, compareOn] using LawfulEqOrd.eq_of_compare (α := Vector UInt8 32) equal

structure DeviceId where
  str : String
deriving DecidableEq, Repr

abbrev Uuid := BitVec 128

structure Psm where
  value : UInt16
deriving DecidableEq, Repr

abbrev Tick := Nat
abbrev OrderStamp := Nat

def u64Max : Nat := 2 ^ 64 - 1
def u32Max : Nat := 2 ^ 32 - 1

/-- `usize` on the 64-bit targets of the repository. -/
def usizeMax : Nat := 2 ^ 64 - 1

def saturatingAdd (max value amount : Nat) : Nat := min (value + amount) max

/-! ## Links -/

inductive TransportKind
  | bleGatt
  | bleL2cap
  | other (code : Nat)
deriving DecidableEq, Repr

inductive EndpointLocator
  | scopedBytes (scope : String) (bytes : List UInt8)
  | other (code : Nat)
deriving DecidableEq, Repr

structure LinkEndpoint where
  transportKind : TransportKind
  locator : EndpointLocator
  mtuBytes : Nat
deriving DecidableEq, Repr

inductive LinkRuntimeState
  | active
  | degraded
  | faulted
  | other (code : Nat)
deriving DecidableEq, Repr

inductive RepairCapability
  | transportRetransmit
  | other (code : Nat)
deriving DecidableEq, Repr

inductive PartitionRecoveryClass
  | localReconnect
  | other (code : Nat)
deriving DecidableEq, Repr

structure LinkQuality where
  lossPermille : Nat
  deliveryConfidencePermille : Nat
  symmetryPermille : Nat
deriving DecidableEq, Repr

structure LinkRuntimeObservation where
  medianRttMs : Nat
  transferRate : Nat
  stabilityHorizonMs : Nat
  observedAtTick : Tick
deriving DecidableEq, Repr

structure Link where
  endpoint : LinkEndpoint
  rttEstimateMs : Nat
  repair : RepairCapability
  recovery : PartitionRecoveryClass
  state : LinkRuntimeState
  observation : Option LinkRuntimeObservation
  quality : Option LinkQuality
deriving DecidableEq, Repr

inductive FactSourceClass
  | local
  | other (code : Nat)
deriving DecidableEq, Repr

inductive RoutingEvidenceClass
  | directObservation
  | other (code : Nat)
deriving DecidableEq, Repr

inductive OriginAuthenticationClass
  | unauthenticated
  | controlled
  | other (code : Nat)
deriving DecidableEq, Repr

/-! ## Transport events, observations and delivery intents -/

inductive TransportIngressEvent
  | linkObserved (remoteNodeId : NodeId) (link : Link) (sourceClass : FactSourceClass)
      (evidenceClass : RoutingEvidenceClass) (originAuthentication : OriginAuthenticationClass)
  | payloadReceived (fromNodeId : NodeId) (endpoint : LinkEndpoint) (payload : List UInt8)
deriving DecidableEq, Repr

structure Observation (α : Type) where
  value : α
  sourceClass : FactSourceClass
  evidenceClass : RoutingEvidenceClass
  originAuthentication : OriginAuthenticationClass
  observedAtTick : Tick
deriving DecidableEq, Repr

inductive TransportObservation
  | linkObserved (remoteNodeId : NodeId) (observation : Observation Link)
  | payloadReceived (fromNodeId : NodeId) (endpoint : LinkEndpoint) (payload : List UInt8)
      (observedAtTick : Tick)
deriving DecidableEq, Repr

def TransportIngressEvent.observeAt (tick : Tick) : TransportIngressEvent → TransportObservation
  | .linkObserved remoteNodeId link sourceClass evidenceClass originAuthentication =>
      .linkObserved remoteNodeId
        ⟨link, sourceClass, evidenceClass, originAuthentication, tick⟩
  | .payloadReceived fromNodeId endpoint payload =>
      .payloadReceived fromNodeId endpoint payload tick

structure MulticastGroupId where
  bytes : Vector UInt8 16
deriving DecidableEq, Repr

inductive TransportDeliveryIntent
  | unicast (endpoint : LinkEndpoint)
  | multicast (endpoint : LinkEndpoint) (groupId : MulticastGroupId) (receivers : List NodeId)
  | broadcast (endpoint : LinkEndpoint)
deriving DecidableEq, Repr

def TransportDeliveryIntent.endpoint : TransportDeliveryIntent → LinkEndpoint
  | .unicast endpoint | .multicast endpoint _ _ | .broadcast endpoint => endpoint

inductive TransportDeliveryMode
  | unicast
  | multicast
  | broadcast
deriving DecidableEq, Repr

def TransportDeliveryIntent.mode : TransportDeliveryIntent → TransportDeliveryMode
  | .unicast _ => .unicast
  | .multicast .. => .multicast
  | .broadcast _ => .broadcast

inductive TransportDeliverySupport
  | multicast (endpoint : LinkEndpoint) (groupId : MulticastGroupId) (receivers : List NodeId)
  | other (code : Nat)
deriving DecidableEq, Repr

/-! ## Routing -/

inductive TransportError
  | unavailable
  | timedOut
  | other (code : Nat)
deriving DecidableEq, Repr

inductive RouteSelectionError
  | noCandidate
  | other (code : Nat)
deriving DecidableEq, Repr

inductive RouteAdmissionRejection
  | deliveryAssumptionUnsupported
  | other (code : Nat)
deriving DecidableEq, Repr

inductive RouteError
  | selection (source : RouteSelectionError)
  | transport (source : TransportError)
  | other (code : Nat)
deriving DecidableEq, Repr

inductive RoutingTickChange
  | noChange
  | other (code : Nat)
deriving DecidableEq, Repr

inductive RoutingTickHint
  | immediate
  | withinTicks (ticks : Tick)
  | hostDefault
deriving DecidableEq, Repr

inductive RouterCanonicalMutation
  | none
  | other (code : Nat)
deriving DecidableEq, Repr

structure RouterRoundOutcome where
  topologyEpoch : Nat := 1
  canonicalMutation : RouterCanonicalMutation := .none
  engineChange : RoutingTickChange
  nextRoundHint : RoutingTickHint
deriving DecidableEq, Repr

/-! ## The radio -/

inductive BlewError
  | notSupported
  | alreadyAdvertising
  | gatt (deviceId : DeviceId) (source : String)
  | other (code : Nat)
deriving DecidableEq, Repr

structure BleDevice where
  id : DeviceId
  services : List Uuid
deriving DecidableEq, Repr

inductive DisconnectCause
  | adapterOff
  | linkLoss
  | localClose
  | remoteClose
  | timeout
  | gatt133
  | unknown (code : Nat)
deriving DecidableEq, Repr

inductive CharacteristicProperty
  | read
  | write
  | writeWithoutResponse
  | notify
deriving DecidableEq, Repr

inductive AttributePermission
  | read
  | write
deriving DecidableEq, Repr

structure GattCharacteristic where
  uuid : Uuid
  properties : List CharacteristicProperty
  permissions : List AttributePermission
  value : List UInt8
deriving DecidableEq, Repr

structure GattService where
  uuid : Uuid
  primary : Bool
  characteristics : List GattCharacteristic
deriving DecidableEq, Repr

structure AdvertisingConfig where
  localName : String
  serviceUuids : List Uuid
deriving DecidableEq, Repr

inductive ScanMode
  | lowLatency
  | lowPower
deriving DecidableEq, Repr

structure ScanFilter where
  services : List Uuid
  mode : ScanMode
deriving DecidableEq, Repr

/-! ## The peer directory -/

inductive PeerIdentityState (η : Type)
  | hint (hint : η)
  | resolved (nodeId : NodeId)
deriving DecidableEq, Repr

/-- What is known of each peer key: a hint or its node. The runtime owns a value of such a type; the
laws are what it relies on. A hint may replace a resolved identity, and resolving one key may forget
another, as it does with the address that the node had before. -/
class PeerDirectory (δ : Type) (κ η : outParam Type) [DecidableEq κ] where
  new : δ
  identityState : δ → κ → Option (PeerIdentityState η)
  upsertHint : δ → κ → η → δ
  resolve : δ → κ → NodeId → δ
  remove : δ → κ → Option (PeerIdentityState η) × δ
  identityState_new : ∀ key, identityState new key = none
  identityState_upsertHint : ∀ peers key hint,
    identityState (upsertHint peers key hint) key = some (.hint hint) ∨
      identityState (upsertHint peers key hint) key = identityState peers key ∧
        ∃ nodeId, identityState peers key = some (.resolved nodeId)
  identityState_upsertHint_of_ne : ∀ peers key hint other, other ≠ key →
    identityState (upsertHint peers key hint) other = identityState peers other
  identityState_resolve : ∀ peers key nodeId,
    identityState (resolve peers key nodeId) key = some (.resolved nodeId)
  identityState_resolve_of_ne : ∀ peers key nodeId other, other ≠ key →
    identityState (resolve peers key nodeId) other = identityState peers other ∨
      identityState (resolve peers key nodeId) other = none
  remove_fst : ∀ peers key, (remove peers key).1 = identityState peers key
  identityState_remove : ∀ peers key other,
    identityState (remove peers key).2 other =
      if other = key then none else identityState peers other

attribute [simp] PeerDirectory.identityState_new PeerDirectory.identityState_resolve
  PeerDirectory.remove_fst PeerDirectory.identityState_remove

/-- The directory is a finite map: resolving a key is about that key only, and a hint never takes the
place of a resolved identity. -/
structure FiniteMapDirectory (δ : Type) {κ η : Type} [DecidableEq κ] [PeerDirectory δ κ η] :
    Prop where
  resolve : ∀ (peers : δ) (key : κ) (nodeId : NodeId) (other : κ), other ≠ key →
    PeerDirectory.identityState (PeerDirectory.resolve peers key nodeId) other =
      PeerDirectory.identityState peers other
  upsertHint : ∀ (peers : δ) (key : κ) (hint : η) (nodeId : NodeId),
    PeerDirectory.identityState peers key = some (.resolved nodeId) →
      PeerDirectory.identityState (PeerDirectory.upsertHint peers key hint) key =
        some (.resolved nodeId)

section
variable {κ η : Type} [DecidableEq κ] [Ord κ] [TransOrd κ] [LawfulEqOrd κ]

/-- An ordered map that keeps one key for each node, and the last hint for a key. -/
instance [DecidableEq η] : PeerDirectory (ExtTreeMap κ (PeerIdentityState η)) κ η where
  new := ∅
  identityState peers key := peers[key]?
  upsertHint peers key hint := peers.insert key (.hint hint)
  resolve peers key nodeId :=
    (peers.filter fun _ identity => identity ≠ .resolved nodeId).insert key (.resolved nodeId)
  remove peers key := (peers[key]?, peers.erase key)
  identityState_new _ := ExtTreeMap.getElem?_empty
  identityState_upsertHint _ _ _ := Or.inl (EntryMap.getElem?_insert .. |>.trans (if_pos rfl))
  identityState_upsertHint_of_ne _ _ _ _ different :=
    EntryMap.getElem?_insert .. |>.trans (if_neg different)
  identityState_resolve _ _ _ := EntryMap.getElem?_insert .. |>.trans (if_pos rfl)
  identityState_resolve_of_ne peers key nodeId other different := by
    rw [EntryMap.getElem?_insert, if_neg different, ExtTreeMap.getElem?_filter']
    cases peers[other]? with
    | none => exact Or.inl rfl
    | some identity =>
        rw [Option.filter_some]
        split_ifs
        · exact Or.inl rfl
        · exact Or.inr rfl
  remove_fst _ _ := rfl
  identityState_remove _ _ _ := EntryMap.getElem?_erase ..

/-- An ordered map that keeps every resolved key. -/
structure FinitePeerMap (κ η : Type) [Ord κ] where
  entries : ExtTreeMap κ (PeerIdentityState η)

instance : PeerDirectory (FinitePeerMap κ η) κ η where
  new := ⟨∅⟩
  identityState peers key := peers.entries[key]?
  upsertHint peers key hint :=
    match peers.entries[key]? with
    | some (.resolved _) => peers
    | _ => ⟨peers.entries.insert key (.hint hint)⟩
  resolve peers key nodeId := ⟨peers.entries.insert key (.resolved nodeId)⟩
  remove peers key := (peers.entries[key]?, ⟨peers.entries.erase key⟩)
  identityState_new _ := ExtTreeMap.getElem?_empty
  identityState_upsertHint peers key hint := by
    split
    · rename_i nodeId known
      exact Or.inr ⟨rfl, nodeId, known⟩
    · exact Or.inl (EntryMap.getElem?_insert .. |>.trans (if_pos rfl))
  identityState_upsertHint_of_ne peers key hint other different := by
    split
    · rfl
    · exact EntryMap.getElem?_insert .. |>.trans (if_neg different)
  identityState_resolve _ _ _ := EntryMap.getElem?_insert .. |>.trans (if_pos rfl)
  identityState_resolve_of_ne _ _ _ _ different :=
    Or.inl (EntryMap.getElem?_insert .. |>.trans (if_neg different))
  remove_fst _ _ := rfl
  identityState_remove _ _ _ := EntryMap.getElem?_erase ..

theorem finiteMapDirectory_finitePeerMap : FiniteMapDirectory (FinitePeerMap κ η) where
  resolve _ _ _ _ different := EntryMap.getElem?_insert .. |>.trans (if_neg different)
  upsertHint peers key hint nodeId known := by
    have known : peers.entries[key]? = some (.resolved nodeId) := known
    simp only [PeerDirectory.upsertHint, PeerDirectory.identityState, known]

end

end JqBle.Host
