import JqBle.Proof.LinkProfile.Authentication
import JqBle.Proof.LinkProfile.Performed

/-!
# Channels are opened on the PSM that the peer listens on

A runtime opens an L2CAP channel to the other one in the very step in which the select loop of the other
one answers the read of its PSM. The other one listens on that PSM then, and has been read its own id
before.
-/

namespace JqBle.Proof.LinkProfile
open Std Host Library Execution JqBle.LinkProfile

/-! ## The characteristic of the PSM -/

theorem psm_of_bytes (value : UInt16) :
    value.toUInt8.toUInt16 ||| ((value >>> 8).toUInt8.toUInt16 <<< 8) = value := by
  have bounded := value.toNat_lt
  have high : value.toNat / 256 % 256 * 256 % 65536 = 2 ^ 8 * (value.toNat / 256) := by omega
  have joined := Nat.two_pow_add_eq_or_of_lt (show value.toNat % 256 < 2 ^ 8 by omega)
    (value.toNat / 256)
  apply UInt16.toNat_inj.mp
  simp only [UInt16.toNat_or, UInt8.toNat_toUInt16, UInt16.toNat_toUInt8, UInt16.toNat_shiftLeft,
    UInt16.toNat_shiftRight, Nat.shiftLeft_eq, Nat.shiftRight_eq_div_pow]
  show value.toNat % 256 ||| value.toNat / 256 % 256 * 256 % 65536 = value.toNat
  rw [high, Nat.or_comm, ← joined]
  omega

/-- What is read of a published PSM is that PSM, and PSM zero is none. -/
theorem parsePsmValue_psmBytes (psm : Psm) :
    parsePsmValue (psmBytes psm) = if psm.value = 0 then none else some psm := by
  simp only [parsePsmValue, psmBytes, psm_of_bytes]

variable {δ : Type} [PeerDirectory δ BlePeerKey DiscoveredPeerHint]
  {runtime : HandshakeRuntime δ} {handshake : Handshake} {turn : Turn} {deviceId : DeviceId} {psm : Psm}

/-! ## One runtime -/

theorem opened_of_step {task : BleRuntimeTask δ}
    (opened : .openL2capChannel deviceId psm ∈ (task.step turn).outbox) :
    HandshakePair.opensWith turn = some deviceId ∧ HandshakePair.installs task turn deviceId = true ∧
      turn.backend.resolveRemotePsm deviceId = some psm := by
  have member : .openL2capChannel deviceId psm ∈ ofKind opensChannel (task.step turn) :=
    List.mem_filter.mpr ⟨opened, rfl⟩
  rw [openings_step] at member
  split at member
  · rename_i reads
    split at member
    · rename_i installs
      simp only [openings, List.mem_map, Option.mem_toList, Effect.openL2capChannel.injEq] at member
      obtain ⟨read, found, rfl, rfl⟩ := member
      exact ⟨reads, installs, found⟩
    · cases member
  · cases member

/-- The identity is awaited, or the PSM of the peer that the identity has led to. -/
structure Stage (task : BleRuntimeTask δ) (handshake : Handshake) : Prop where
  opens : HandshakePair.opensWith handshake.turn = some handshake.deviceId
  awaits : handshake.charUuid = jacquardNodeIdCharUuid ∨ handshake.charUuid = jacquardPsmCharUuid ∧
    HandshakePair.installs task handshake.turn handshake.deviceId = true

theorem stage_answered (stage : Stage runtime.task handshake) (answer : Except BlewError (List UInt8)) :
    ∀ later ∈ (HandshakePair.answered runtime handshake answer).handshake,
      Stage (HandshakePair.answered runtime handshake answer).task later := by
  intro later held
  unfold HandshakePair.answered at held ⊢
  dsimp only at held ⊢
  split at held
  · rename_i installs
    obtain ⟨-, installs⟩ := Bool.and_eq_true_iff.mp installs
    obtain rfl := Option.some.inj held
    rw [if_pos ‹_›]
    exact ⟨stage.opens, Or.inr ⟨rfl, installs⟩⟩
  · cases held

/-- The channel that is opened when an answer ends the handshake is opened to its peer, on the PSM that
the answer has brought. -/
theorem opened_of_answered (stage : Stage runtime.task handshake)
    {answer : Except BlewError (List UInt8)}
    (ended : (HandshakePair.answered runtime handshake answer).handshake = none)
    (opened : .openL2capChannel deviceId psm ∈
      (HandshakePair.answered runtime handshake answer).task.outbox) :
    handshake.deviceId = deviceId ∧ handshake.charUuid = jacquardPsmCharUuid ∧
      HandshakePair.installs runtime.task handshake.turn deviceId = true ∧
      answer.toOption >>= parsePsmValue = some psm := by
  unfold HandshakePair.answered at ended opened
  dsimp only at ended opened
  split at ended
  · cases ended
  · rename_i unfinished
    rw [if_neg unfinished] at opened
    obtain ⟨opens, installs, read⟩ := opened_of_step opened
    obtain rfl := Option.some.inj (stage.opens.symm.trans opens)
    rcases stage.awaits with identity | ⟨awaited, before⟩
    · exact absurd (Bool.and_eq_true_iff.mpr ⟨decide_eq_true identity, installs⟩) unfinished
    · refine ⟨rfl, awaited, before, ?_⟩
      simpa [Backend.resolveRemotePsm, Backend.answering, awaited] using read

theorem stage_begin {rest : List BleDevice} :
    ∀ held ∈ (HandshakePair.begin runtime turn rest).handshake,
      Stage (HandshakePair.begin runtime turn rest).task held := by
  intro held begun
  unfold HandshakePair.begin at begun ⊢
  split at begun
  · rename_i deviceId opens
    obtain rfl := Option.some.inj begun
    exact ⟨opens, Or.inl rfl⟩
  · cases begun

theorem not_opened_of_begin {rest : List BleDevice}
    (ended : (HandshakePair.begin runtime turn rest).handshake = none) :
    .openL2capChannel deviceId psm ∉ (HandshakePair.begin runtime turn rest).task.outbox := by
  intro opened
  unfold HandshakePair.begin at ended opened
  split at ended
  · cases ended
  · rename_i opens
    rw [opens] at opened
    obtain ⟨reads, -⟩ := opened_of_step opened
    rw [opens] at reads
    cases reads

theorem respond_psm (task : BleRuntimeTask δ) (clientId : DeviceId) (backend : Backend) :
    responseOf (task.step ⟨.peripheralRequest (.read clientId jacquardPsmCharUuid), backend⟩).outbox =
      (task.localPsm.elim (.error (.other 0)) fun psm => .ok (psmBytes psm)) := by
  have differs : jacquardPsmCharUuid ≠ jacquardNodeIdCharUuid := by decide
  simp only [BleRuntimeTask.step, BleRuntimeTask.handle, BleRuntimeTask.handlePeripheralRequest,
    if_neg differs, if_true]
  cases task.localPsm with
  | none => rfl
  | some psm => rfl

/-! ## Both runtimes -/

variable {addresses : Side → DeviceId → Bool} {tasks : Side → BleRuntimeTask δ}
  {side : Side} {pair : HandshakePair δ}

def pairAfter (addresses : Side → DeviceId → Bool) (tasks : Side → BleRuntimeTask δ)
    (inputs : List HandshakeStep) : HandshakePair δ :=
  exec (HandshakePair.step addresses) (.start tasks) inputs

/-- The runtime has asked the other one for its PSM, as the peer whose id it has read, and the other one
has answered with the PSM that it listens on. -/
structure AnsweredWithPsm (pair : HandshakePair δ) (side : Side) (deviceId : DeviceId) (psm : Psm)
    (handshake : Handshake) : Prop where
  awaited : (pair.runtime side).handshake = some handshake
  device : handshake.deviceId = deviceId
  charUuid : handshake.charUuid = jacquardPsmCharUuid
  installs : HandshakePair.installs (pair.runtime side).task handshake.turn deviceId = true
  listened : (pair.runtime side.other).task.localPsm = some psm

theorem listened_of_response {task : BleRuntimeTask δ} {clientId : DeviceId} {backend : Backend}
    (read : (responseOf (task.step ⟨.peripheralRequest (.read clientId jacquardPsmCharUuid),
      backend⟩).outbox).toOption >>= parsePsmValue = some psm) : task.localPsm = some psm := by
  rw [respond_psm] at read
  cases listened : task.localPsm with
  | none =>
      rw [listened] at read
      cases read
  | some published =>
      rw [listened] at read
      have parsed : parsePsmValue (psmBytes published) = some psm := read
      rw [parsePsmValue_psmBytes] at parsed
      split at parsed
      · cases parsed
      · exact parsed

def Staged (pair : HandshakePair δ) (side : Side) : Prop :=
  ∀ handshake ∈ (pair.runtime side).handshake, Stage (pair.runtime side).task handshake

theorem stage_of_move {input : HandshakeStep} (staged : Staged pair side)
    (move : SideMove addresses pair side input runtime) :
    ∀ held ∈ runtime.handshake, Stage runtime.task held := by
  cases move with
  | kept => exact staged
  | began turn rest idle takes => exact stage_begin
  | served clientId backend charUuid listens =>
      -- The one that answers awaits nothing.
      have idle := Option.isNone_iff_eq_none.mp (Bool.and_eq_true_iff.mp listens).1
      intro held awaits
      rw [idle] at awaits
      cases awaits
  | answered server clientId backend handshake other awaited listens known =>
      exact stage_answered (staged handshake awaited) _
  | completed answer handshake awaited allowed => exact stage_answered (staged handshake awaited) answer

theorem staged_run (addresses : Side → DeviceId → Bool) (tasks : Side → BleRuntimeTask δ)
    (inputs : List HandshakeStep) : Staged (pairAfter addresses tasks inputs) side := by
  apply exec_always (P := fun pair : HandshakePair δ => Staged pair side)
  · intro handshake held
    cases held
  · intro pair input staged
    exact attempt_cases (P := fun pair : HandshakePair δ => Staged pair side) (fun _ => staged)
      fun reached taken => stage_of_move staged (sideMove_next taken side)

theorem answered_of_performed {input : HandshakeStep} (staged : Staged pair side)
    (addressed : addresses side deviceId = true)
    (opened : .openL2capChannel deviceId psm ∈ pair.performed addresses side input) :
    ∃ clientId backend handshake, input = .serve side.other clientId backend ∧
      AnsweredWithPsm pair side deviceId psm handshake := by
  unfold HandshakePair.performed at opened
  split at opened
  · cases opened
  · rename_i reached taken
    dsimp only at opened
    split at opened
    · rename_i returns
      obtain ⟨concerned, ended⟩ := Bool.and_eq_true_iff.mp returns
      have ended := Option.isNone_iff_eq_none.mp ended
      have move := sideMove_next taken side
      generalize reached.runtime side = became at move ended opened
      cases move with
      | kept _ elsewhere =>
          rw [elsewhere] at concerned
          cases concerned
      | began turn rest idle takes => exact absurd opened (not_opened_of_begin ended)
      | served clientId backend charUuid listens =>
          -- The one that answers opens nothing.
          obtain ⟨reads, -⟩ := opened_of_step opened
          cases reads
      | answered server clientId backend handshake other awaited listens known =>
          obtain ⟨device, charUuid, installs, read⟩ :=
            opened_of_answered (staged handshake awaited) ended opened
          rw [charUuid] at read
          have answers : side.other = server := by rw [other, Side.other_other]
          refine ⟨clientId, backend, handshake, by rw [answers], awaited, device, charUuid, installs, ?_⟩
          rw [answers]
          exact listened_of_response read
      | completed answer handshake awaited allowed =>
          obtain ⟨device, -, -, read⟩ := opened_of_answered (staged handshake awaited) ended opened
          -- The radio makes up no answer of the other runtime.
          rw [device, addressed] at allowed
          cases answer with
          | error error => cases read
          | ok value => exact absurd rfl allowed
    · cases opened

-- The right one listens before the left one connects, and answers the first of its reads.
def Scenario.listenedConnect : List HandshakeStep :=
  .take .right ⟨.startup, { silent with l2capListener := .ok ⟨129⟩ }⟩ :: servedConnect.dropLast

end JqBle.Proof.LinkProfile
