import JqBle.Host.Core
import JqBle.Library.Text

/-!
# Peer invites (`demo/src/lib.rs`)

The `hex` crate is a parameter. A string is split and trimmed as the list of its characters.
-/

namespace JqBle.Demo
open Host Library.Text

/-! ## The `hex` crate -/

structure FromHexError where
  code : Nat
deriving DecidableEq, Repr

structure HexCrate where
  encode : List UInt8 → String
  decode : String → Except FromHexError (List UInt8)
  encode_length : ∀ bytes, (encode bytes).toList.length = 2 * bytes.length
  decode_encode : ∀ bytes, decode (encode bytes) = .ok bytes
  -- Digits of either case, two for each byte.
  decode_digits : ∀ text bytes, hexBytes text.toList = some bytes → decode text = .ok bytes
  decode_invalid : ∀ text, (∃ digit ∈ text.toList, ¬ IsHexDigit digit) →
    ∃ error, decode text = .error error

/-- The crate's two functions on the digits of the library. -/
def lowerHexCrate : HexCrate where
  encode bytes := String.ofList (lowerHex bytes)
  decode text := (hexBytes text.toList).elim (.error ⟨0⟩) .ok
  encode_length bytes := by
    rw [String.toList_ofList, (hexBytes_sound (hexBytes_lowerHex bytes)).2]
  decode_encode bytes := by
    rw [String.toList_ofList, hexBytes_lowerHex]
    rfl
  decode_digits text bytes denotes := by
    rw [denotes]
    rfl
  decode_invalid text invalid := by
    obtain ⟨digit, member, other⟩ := invalid
    cases denotes : hexBytes text.toList with
    | none => exact ⟨⟨0⟩, rfl⟩
    | some bytes => exact absurd ((hexBytes_sound denotes).1 digit member) other

/-! ## Strings -/

-- The `White_Space` property of Unicode, which `str::trim` removes at both ends.
def isWhitespace (character : Char) : Bool :=
  let code := character.toNat
  (0x9 ≤ code && code ≤ 0xD) || code == 0x20 || code == 0x85 || code == 0xA0 || code == 0x1680 ||
    (0x2000 ≤ code && code ≤ 0x200A) || code == 0x2028 || code == 0x2029 || code == 0x202F ||
    code == 0x205F || code == 0x3000

-- `str::len` counts bytes.
def utf8Len (text : List Char) : Nat :=
  text.foldr (fun character length => character.utf8Size + length) 0

/-! ## Invites -/

def jacquardBleInviteScheme : String := "jq-ble"

def inviteActionPath : String := "/add-peer/"

inductive JacquardPeerInviteError
  | empty
  | invalidScheme (expected found : String)
  | invalidFormat
  | invalidNodeIdLength (found : Nat)
  | invalidNodeIdHex (source : FromHexError)
deriving DecidableEq, Repr

def encodePeerInvite (hex : HexCrate) (nodeId : NodeId) : String :=
  jacquardBleInviteScheme ++ "://" ++ inviteActionPath ++ hex.encode nodeId.bytes.toList

-- The text that the rest of the parser takes for the node id.
def inviteNodeIdHex (trimmed : List Char) : Except JacquardPeerInviteError (List Char) :=
  match splitOnce "://".toList trimmed with
  | some (scheme, remainder) =>
      if scheme ≠ jacquardBleInviteScheme.toList then
        .error (.invalidScheme jacquardBleInviteScheme (String.ofList scheme))
      else
        let path := if ['/'].isPrefixOf remainder then remainder else '/' :: remainder
        match inviteActionPath.toList.isPrefixOf? path with
        | none => .error .invalidFormat
        | some nodeIdHex => .ok (trim isWhitespace nodeIdHex)
  | none => .ok trimmed

theorem size_of_length {bytes : List UInt8} (sized : bytes.length = 32) :
    bytes.toArray.size = 32 := by
  rw [List.size_toArray, sized]

-- `u64::try_from` of a length cannot fail: `usize` has at most 64 bits.
def decodeNodeIdHex (hex : HexCrate) (nodeIdHex : List Char) :
    Except JacquardPeerInviteError NodeId :=
  if utf8Len nodeIdHex ≠ 64 then .error (.invalidNodeIdLength (utf8Len nodeIdHex))
  else
    match hex.decode (String.ofList nodeIdHex) with
    | .error source => .error (.invalidNodeIdHex source)
    | .ok bytes =>
        if sized : bytes.length = 32 then .ok ⟨⟨bytes.toArray, size_of_length sized⟩⟩
        else .error (.invalidNodeIdLength (utf8Len nodeIdHex))

def decodePeerInvite (hex : HexCrate) (invite : String) : Except JacquardPeerInviteError NodeId :=
  let trimmed := trim isWhitespace invite.toList
  if trimmed.isEmpty then .error .empty
  else
    match inviteNodeIdHex trimmed with
    | .error error => .error error
    | .ok nodeIdHex => decodeNodeIdHex hex nodeIdHex

end JqBle.Demo
