import JqBle.Proof.LinkProfile.Startup
import Mathlib.Data.List.GetD
import Mathlib.Data.List.Induction

/-!
# Advertising and discovery

A discovery hint decodes to the prefix it encodes (`parseHintUuid_discoveryServiceUuid`), so a node
that advertised its hint would be discovered under its own prefix. What the runtime advertises is
the identity service of the other namespace, which no runtime takes for a hint.
-/

namespace JqBle.Proof.LinkProfile
open Std Host JqBle.LinkProfile

/-! ## Hints decode to what they encode -/

def pushByte (encoded : Uuid) (byte : UInt8) : Uuid :=
  (encoded <<< 8) ||| byte.toBitVec.setWidth 128

theorem fromBeBytes_snoc (bytes : List UInt8) (byte : UInt8) :
    fromBeBytes (bytes ++ [byte]) = pushByte (fromBeBytes bytes) byte := by
  simp [fromBeBytes, pushByte]

theorem extract_pushByte_zero (encoded : Uuid) (byte : UInt8) :
    (pushByte encoded byte).extractLsb' 0 8 = byte.toBitVec := by
  ext i inByte
  simp only [pushByte, BitVec.getElem_extractLsb', BitVec.getLsbD_or, BitVec.getLsbD_shiftLeft,
    BitVec.getLsbD_setWidth]
  simp [inByte]
  omega

theorem extract_pushByte_succ (encoded : Uuid) (byte : UInt8) (k : Nat) (bound : k < 15) :
    (pushByte encoded byte).extractLsb' (8 * (k + 1)) 8 = encoded.extractLsb' (8 * k) 8 := by
  ext i inByte
  have above : ¬ 8 * (k + 1) + i < 8 := by omega
  have below : 8 * (k + 1) + i < 128 := by omega
  have shifted : 8 * (k + 1) + i - 8 = 8 * k + i := by omega
  have padding : byte.toBitVec.getLsbD (8 * (k + 1) + i) = false :=
    BitVec.getLsbD_of_ge _ _ (by omega)
  simp [pushByte, above, below, shifted, padding, ← BitVec.getLsbD_eq_getElem]

theorem extract_fromBeBytes (bytes : List UInt8) (k : Nat) (inside : k < bytes.length)
    (bound : k < 16) :
    (fromBeBytes bytes).extractLsb' (8 * k) 8 =
      (bytes.getD (bytes.length - 1 - k) 0).toBitVec := by
  induction bytes using List.reverseRecOn generalizing k with
  | nil => simp at inside
  | append_singleton bytes byte ih =>
      rw [fromBeBytes_snoc]
      cases k with
      | zero => simp [extract_pushByte_zero]
      | succ k =>
          have remaining : k < bytes.length := by simpa using inside
          have index : (bytes ++ [byte]).length - 1 - (k + 1) = bytes.length - 1 - k := by
            simp only [List.length_append, List.length_singleton]
            omega
          rw [extract_pushByte_succ _ _ _ (by omega), ih k remaining (by omega), index,
            List.getD_append _ _ _ _ (by omega)]

theorem toBeByte_fromBeBytes (bytes : List UInt8) (index : Nat) (sized : bytes.length = 16)
    (inside : index < 16) : toBeByte (fromBeBytes bytes) index = bytes.getD index 0 := by
  have position : bytes.length - 1 - (15 - index) = index := by omega
  unfold toBeByte
  rw [extract_fromBeBytes bytes (15 - index) (by omega) (by omega), position]

theorem toBeByte_or (a b : Uuid) (index : Nat) :
    toBeByte (a ||| b) index = toBeByte a index ||| toBeByte b index := by
  unfold toBeByte
  rw [BitVec.extractLsb'_or]
  rfl

theorem toBeByte_discoveryServiceUuid (nodeId : NodeId) (index : Nat) (inside : index < 16) :
    toBeByte (discoveryServiceUuid nodeId) index = toBeByte discoveryHintNamespacePrefix index |||
      (hintMarker ++ (nodeIdPrefix nodeId).toList ++ [0, 0, 0, 0, 0, 0]).getD index 0 := by
  rw [discoveryServiceUuid, toBeByte_or, toBeByte_fromBeBytes _ index (by simp [hintMarker]) inside]

theorem marker_discoveryServiceUuid (nodeId : NodeId) :
    (toBeBytes (discoveryServiceUuid nodeId)).take 4 = hintMarker := by
  have bytes : (toBeBytes (discoveryServiceUuid nodeId)).take 4 =
      [toBeByte (discoveryServiceUuid nodeId) 0, toBeByte (discoveryServiceUuid nodeId) 1,
        toBeByte (discoveryServiceUuid nodeId) 2, toBeByte (discoveryServiceUuid nodeId) 3] := rfl
  have byte := toBeByte_discoveryServiceUuid nodeId
  rw [bytes, byte 0 (by omega), byte 1 (by omega), byte 2 (by omega), byte 3 (by omega)]
  simp only [hintMarker, List.cons_append, List.getD_cons_zero, List.getD_cons_succ]
  decide

theorem prefixByte_discoveryServiceUuid (nodeId : NodeId) (index : Nat) (inside : index < 6) :
    toBeByte (discoveryServiceUuid nodeId) (index + 4) = (nodeIdPrefix nodeId)[index] := by
  have clear : ∀ position < 16, 4 ≤ position →
      toBeByte discoveryHintNamespacePrefix position = 0 := by decide
  rw [toBeByte_discoveryServiceUuid nodeId _ (by omega), clear _ (by omega) (by omega),
    UInt8.zero_or, List.append_assoc, List.getD_append_right _ _ _ _ (by simp [hintMarker]),
    List.getD_append _ _ _ _ (by simp [hintMarker]; omega)]
  simp [hintMarker, inside]

theorem parseHintUuid_discoveryServiceUuid (nodeId : NodeId) :
    parseHintUuid (discoveryServiceUuid nodeId) = some (nodeIdPrefix nodeId) := by
  unfold parseHintUuid
  rw [if_neg (not_not.mpr (marker_discoveryServiceUuid nodeId)), Option.some.injEq]
  apply Vector.ext
  intro index inside
  have decoded := prefixByte_discoveryServiceUuid nodeId index inside
  rcases index with _ | _ | _ | _ | _ | _ | index
  iterate 6 exact decoded
  omega

/-! ## What is advertised is not a hint -/

theorem parseDiscoveryHint_identityService :
    parseDiscoveryHint [jacquardIdentityServiceUuid] = none := by decide

theorem advertisingConfig_of_tryStartAdvertising {δ : Type} {task : BleRuntimeTask δ}
    {backend : Backend} {config : AdvertisingConfig}
    (advertised : (task.tryStartAdvertising backend).outbox =
      task.outbox ++ [.startAdvertising config]) : config = task.advertisingConfig := by
  unfold BleRuntimeTask.tryStartAdvertising at advertised
  split at advertised
  · simp at advertised
  · simp at advertised
  all_goals
    dsimp only at advertised
    split_ifs at advertised
    · simp at advertised
    · simpa [BleRuntimeTask.perform] using advertised.symm

section
variable {δ : Type} [PeerDirectory δ BlePeerKey DiscoveredPeerHint]

/-- A device that reports these services is taken for a hint of the node, and every runtime that
has not resolved the device yet records it as such. -/
def DiscoveredAs (δ : Type) [PeerDirectory δ BlePeerKey DiscoveredPeerHint] (nodeId : NodeId)
    (services : List Uuid) : Prop :=
  parseDiscoveryHint services = some (nodeIdPrefix nodeId) ∧
    ∀ (scanner : BleRuntimeTask δ) (backend : Backend) (device : BleDevice),
      device.services = services → scanner.resolvedNodeIdForDevice device.id = none →
        ∃ hint, PeerDirectory.identityState (scanner.handleDeviceDiscovered backend device).peers
            (BlePeerKey.ofDevice device.id) = some (.hint hint) ∧
          hintMatchesNodeId hint.nodeIdPrefix nodeId = true

theorem discoveredAs_advertisedHintService (nodeId : NodeId) :
    DiscoveredAs δ nodeId [(advertisedHintService nodeId).uuid] := by
  have parsed : parseDiscoveryHint [(advertisedHintService nodeId).uuid] =
      some (nodeIdPrefix nodeId) := by
    simp [parseDiscoveryHint, advertisedHintService, parseHintUuid_discoveryServiceUuid]
  refine ⟨parsed, ?_⟩
  intro scanner backend device reported unresolved
  refine ⟨⟨device.id, nodeIdPrefix nodeId, true, false⟩, ?_, by simp [hintMatchesNodeId]⟩
  have recorded : PeerDirectory.identityState (PeerDirectory.upsertHint scanner.peers
      (BlePeerKey.ofDevice device.id) ⟨device.id, nodeIdPrefix nodeId, true, false⟩)
      (BlePeerKey.ofDevice device.id) =
        some (.hint ⟨device.id, nodeIdPrefix nodeId, true, false⟩) := by
    unfold BleRuntimeTask.resolvedNodeIdForDevice at unresolved
    rcases PeerDirectory.identityState_upsertHint scanner.peers (BlePeerKey.ofDevice device.id)
      ⟨device.id, nodeIdPrefix nodeId, true, false⟩ with recorded | ⟨-, other, known⟩
    · exact recorded
    · simp [known] at unresolved
  unfold BleRuntimeTask.handleDeviceDiscovered
  rw [reported, parsed]
  dsimp only
  split <;> exact recorded

/-- Whatever the node id and the listener's PSM, the services that are advertised are discovered by
no runtime: the device report is ignored. -/
theorem advertised_never_discovered (task : BleRuntimeTask δ) (backend : Backend)
    (config : AdvertisingConfig)
    (advertised : (task.tryStartAdvertising backend).outbox =
      task.outbox ++ [.startAdvertising config]) :
    ¬ DiscoveredAs δ task.localNodeId config.serviceUuids ∧
      ∀ (scanner : BleRuntimeTask δ) (answers : Backend) (device : BleDevice),
        device.services = config.serviceUuids →
          scanner.handleDeviceDiscovered answers device = scanner := by
  obtain rfl := advertisingConfig_of_tryStartAdvertising advertised
  have ignored : parseDiscoveryHint task.advertisingConfig.serviceUuids = none := by
    rw [BleRuntimeTask.advertisingConfig, startupGattService_uuid,
      parseDiscoveryHint_identityService]
  constructor
  · rintro ⟨parsed, -⟩
    rw [ignored] at parsed
    cases parsed
  · intro scanner answers device reported
    unfold BleRuntimeTask.handleDeviceDiscovered
    rw [reported, ignored]

end

/-! A node with a started identity service, with and without a PSM. -/

def advertiser (psm : Option Psm) : BleRuntimeTask PeerMap :=
  { Scenario.launched .other with
    localPsm := psm
    startup := { l2capListener := .started, gattService := .started } }

theorem advertised_never_discovered_with_psm :
    ¬ DiscoveredAs PeerMap (Scenario.node 1)
      (advertiser (some ⟨0x1001⟩)).advertisingConfig.serviceUuids :=
  (advertised_never_discovered (advertiser (some ⟨0x1001⟩)) Scenario.silent
    (advertiser (some ⟨0x1001⟩)).advertisingConfig rfl).1

theorem advertised_not_discovered :
    ((advertiser none).tryStartAdvertising Scenario.silent).outbox =
        [.startAdvertising ⟨"jq-ble", [jacquardIdentityServiceUuid]⟩] ∧
      parseDiscoveryHint [jacquardIdentityServiceUuid] = none ∧
      PeerDirectory.identityState ((Scenario.launched .other).handleDeviceDiscovered Scenario.silent
        ⟨⟨"peer"⟩, [jacquardIdentityServiceUuid]⟩).peers (BlePeerKey.ofDevice ⟨"peer"⟩) = none ∧
      ¬ DiscoveredAs PeerMap (Scenario.node 1) [jacquardIdentityServiceUuid] := by
  refine ⟨rfl, by decide, by decide +kernel, ?_⟩
  rintro ⟨parsed, -⟩
  rw [parseDiscoveryHint_identityService] at parsed
  cases parsed

end JqBle.Proof.LinkProfile
