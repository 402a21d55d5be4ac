import JqBle.Host.Core

/-!
# GATT service shape, UUIDs and locators (`gatt.rs`)
-/

namespace JqBle.LinkProfile
open Host

def jacquardIdentityServiceUuid : Uuid := 0x6a6171008e454c2cb3a5331f3098b5c2#128
def jacquardNodeIdCharUuid : Uuid := 0x6a6171018e454c2cb3a5331f3098b5c2#128
def jacquardC2pCharUuid : Uuid := 0x6a6171028e454c2cb3a5331f3098b5c2#128
def jacquardP2cCharUuid : Uuid := 0x6a6171038e454c2cb3a5331f3098b5c2#128
def jacquardPsmCharUuid : Uuid := 0x6a6171048e454c2cb3a5331f3098b5c2#128

def discoveryHintNamespacePrefix : Uuid := 0x6a617200000000000000000000000000#128

/-! ## Bytes of a UUID -/

def toBeByte (uuid : Uuid) (index : Nat) : UInt8 :=
  UInt8.ofBitVec (uuid.extractLsb' (8 * (15 - index)) 8)

def toBeBytes (uuid : Uuid) : List UInt8 := (List.range 16).map (toBeByte uuid)

def fromBeBytes (bytes : List UInt8) : Uuid :=
  bytes.foldl (fun encoded byte => (encoded <<< 8) ||| byte.toBitVec.setWidth 128) 0

/-! ## Discovery hints -/

abbrev NodeIdPrefix := Vector UInt8 6

def nodeIdPrefix (nodeId : NodeId) : NodeIdPrefix :=
  #v[nodeId.bytes[0], nodeId.bytes[1], nodeId.bytes[2], nodeId.bytes[3], nodeId.bytes[4],
    nodeId.bytes[5]]

def hintMarker : List UInt8 := [0x6a, 0x61, 0x72, 0]

def discoveryServiceUuid (nodeId : NodeId) : Uuid :=
  let encoded := fromBeBytes (hintMarker ++ (nodeIdPrefix nodeId).toList ++ [0, 0, 0, 0, 0, 0])
  discoveryHintNamespacePrefix ||| encoded

def parseHintUuid (uuid : Uuid) : Option NodeIdPrefix :=
  if (toBeBytes uuid).take 4 ≠ hintMarker then none
  else some #v[toBeByte uuid 4, toBeByte uuid 5, toBeByte uuid 6, toBeByte uuid 7,
    toBeByte uuid 8, toBeByte uuid 9]

def parseDiscoveryHint (services : List Uuid) : Option NodeIdPrefix :=
  services.findSome? parseHintUuid

def hintMatchesNodeId (hint : NodeIdPrefix) (nodeId : NodeId) : Bool :=
  hint == nodeIdPrefix nodeId

def advertisedHintService (nodeId : NodeId) : GattService where
  uuid := discoveryServiceUuid nodeId
  primary := false
  characteristics := []

/-! ## The identity and transport service -/

def nodeIdCharacteristic (nodeId : NodeId) : GattCharacteristic where
  uuid := jacquardNodeIdCharUuid
  properties := [.read]
  permissions := [.read]
  value := nodeId.bytes.toList

def psmBytes (psm : Psm) : List UInt8 := [psm.value.toUInt8, (psm.value >>> 8).toUInt8]

def transportGattService (nodeId : NodeId) (psm : Option Psm) : GattService where
  uuid := jacquardIdentityServiceUuid
  primary := true
  characteristics :=
    [nodeIdCharacteristic nodeId,
      { uuid := jacquardC2pCharUuid
        properties := [.write, .writeWithoutResponse]
        permissions := [.write]
        value := [] },
      { uuid := jacquardP2cCharUuid
        properties := [.notify]
        permissions := [.read]
        value := [] }] ++
    match psm with
    | none => []
    | some psm =>
        [{ uuid := jacquardPsmCharUuid
           properties := [.read]
           permissions := [.read]
           value := psmBytes psm }]

def gattFallbackService (nodeId : NodeId) : GattService := transportGattService nodeId none

def gattL2capService (nodeId : NodeId) (psm : Psm) : GattService :=
  transportGattService nodeId (some psm)

def parsePsmValue : List UInt8 → Option Psm
  | low :: high :: _ =>
      let psm := low.toUInt16 ||| (high.toUInt16 <<< 8)
      if psm = 0 then none else some ⟨psm⟩
  | _ => none

/-! ## Endpoints -/

def bleLocator (deviceId : DeviceId) : EndpointLocator :=
  .scopedBytes "ble" deviceId.str.toUTF8.data.toList

def gattEndpoint (deviceId : DeviceId) : LinkEndpoint := ⟨.bleGatt, bleLocator deviceId, 512⟩

def l2capEndpoint (deviceId : DeviceId) : LinkEndpoint := ⟨.bleL2cap, bleLocator deviceId, 1472⟩

def gattNotifyFanoutEndpoint : LinkEndpoint :=
  ⟨.bleGatt, .scopedBytes "ble-notify" (toBeBytes jacquardP2cCharUuid), 512⟩

/-- Reverses `bleLocator` (`session.rs`). -/
def deviceIdFromEndpoint (endpoint : LinkEndpoint) : Option DeviceId :=
  match endpoint.locator with
  | .scopedBytes scope bytes =>
      if scope = "ble" then (String.fromUTF8? bytes.toByteArray).map DeviceId.mk else none
  | .other _ => none

theorem fromUTF8?_toUTF8 (text : String) :
    String.fromUTF8? text.toUTF8.data.toList.toByteArray = some text := by
  have bytes : text.toUTF8.data.toList.toByteArray = text.toByteArray :=
    ByteArray.ext (by simp)
  rw [bytes, String.fromUTF8?, dif_pos text.isValidUTF8]
  rfl

theorem deviceIdFromEndpoint_of_bleLocator (endpoint : LinkEndpoint) (deviceId : DeviceId)
    (located : endpoint.locator = bleLocator deviceId) :
    deviceIdFromEndpoint endpoint = some deviceId := by
  simp only [deviceIdFromEndpoint, located, bleLocator, if_true, fromUTF8?_toUTF8, Option.map_some]

@[simp] theorem deviceIdFromEndpoint_gattEndpoint (deviceId : DeviceId) :
    deviceIdFromEndpoint (gattEndpoint deviceId) = some deviceId :=
  deviceIdFromEndpoint_of_bleLocator _ _ rfl

@[simp] theorem deviceIdFromEndpoint_l2capEndpoint (deviceId : DeviceId) :
    deviceIdFromEndpoint (l2capEndpoint deviceId) = some deviceId :=
  deviceIdFromEndpoint_of_bleLocator _ _ rfl

@[simp] theorem deviceIdFromEndpoint_gattNotifyFanoutEndpoint :
    deviceIdFromEndpoint gattNotifyFanoutEndpoint = none := by
  simp [deviceIdFromEndpoint, gattNotifyFanoutEndpoint]

end JqBle.LinkProfile
