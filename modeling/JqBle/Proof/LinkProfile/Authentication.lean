import JqBle.Proof.LinkProfile.Handshake
import JqBle.Proof.LinkProfile.Integrity
import JqBle.Proof.LinkProfile.Startup

/-!
# Two runtimes know each other by their own ids

What a runtime learns about the device under which it sees the other one is what the select loop of
the other one answered. That answer is the id the other one was created with, whatever both have done
before and in whatever order.
-/

namespace JqBle.Proof.LinkProfile
open Std Host Library Execution JqBle.LinkProfile

/-! ## Turns that read the peer -/

/-- If the turn begins a handshake with the peer and reads an id, it is the id of the peer. -/
def HonestTurn (addressed : DeviceId → Bool) (peerId : NodeId) (turn : Turn) : Prop :=
  ∀ deviceId nodeId, HandshakePair.opensWith turn = some deviceId → addressed deviceId = true →
    turn.backend.resolveRemoteNodeId deviceId = .ok nodeId → nodeId = peerId

variable {δ : Type} [PeerDirectory δ BlePeerKey DiscoveredPeerHint]
  {addressed : DeviceId → Bool} {peerId nodeId : NodeId} {deviceId : DeviceId}
  {task initial : BleRuntimeTask δ} {turn : Turn} {turns : List Turn}

theorem opensWith_of_admits (admits : Admits task turn deviceId nodeId) :
    HandshakePair.opensWith turn = some deviceId := by
  obtain ⟨-, ⟨event, -⟩ | ⟨device, event, rfl, unhinted, claims⟩⟩ := admits
  · rw [HandshakePair.opensWith, event]
  · rw [HandshakePair.opensWith, event]
    simp [unhinted, claims]

theorem HonestTurn.admits (honest : HonestTurn addressed peerId turn)
    (admits : Admits task turn deviceId nodeId) (addresses : addressed deviceId = true) :
    nodeId = peerId :=
  honest deviceId nodeId (opensWith_of_admits admits) addresses admits.1

theorem associated_of_honest {targetOs : TargetOs} {localNodeId : NodeId} {config : BleConfig}
    {restoredState : BleRestoredState}
    (created : BleRuntimeTask.new targetOs localNodeId config restoredState = .ok initial)
    (honest : ∀ turn ∈ turns, HonestTurn addressed peerId turn)
    (addresses : addressed deviceId = true)
    (associated : Associated (exec BleRuntimeTask.step initial turns) nodeId deviceId) :
    nodeId = peerId := by
  obtain ⟨earlier, reader, later, rfl, ⟨admits, -⟩, -⟩ := admitted_of_associated created associated
  exact (honest reader (by simp)).admits admits addresses

theorem emitted_of_honest {targetOs : TargetOs} {localNodeId : NodeId} {config : BleConfig}
    {restoredState : BleRestoredState}
    (created : BleRuntimeTask.new targetOs localNodeId config restoredState = .ok initial)
    (honest : ∀ turn ∈ turns, HonestTurn addressed peerId turn)
    (addresses : addressed deviceId = true) {effect : Effect}
    (member : effect ∈ (exec BleRuntimeTask.step initial turns).outbox)
    (attributes : Attributes nodeId deviceId effect) : nodeId = peerId := by
  cases turns using List.reverseRecOn with
  | nil =>
      obtain rfl := eq_launch_of_new created
      cases member
  | append_singleton before turn =>
      rw [exec_snoc] at member
      obtain ⟨earlier, later, split⟩ := List.append_of_mem member
      rcases (turnSourced_step _ turn).emitted earlier effect later split nodeId deviceId attributes with
        associated | ⟨admits, -⟩
      · exact associated_of_honest created (fun turn member => honest turn (by simp [member])) addresses
          (associated_of_outbox.mp associated)
      · exact (honest turn (by simp)).admits admits addresses

/-! ## One runtime -/

structure HonestHandshake (addressed : DeviceId → Bool) (peerId : NodeId) (handshake : Handshake) :
    Prop where
  opens : HandshakePair.opensWith handshake.turn = some handshake.deviceId
  read : handshake.charUuid = jacquardNodeIdCharUuid ∨ HonestTurn addressed peerId handshake.turn

/-- The task is where honest turns have led it, and the handler it is in, if any, is honest so far. -/
structure KnowsPeer (addressed : DeviceId → Bool) (peerId : NodeId) (initial : BleRuntimeTask δ)
    (runtime : HandshakeRuntime δ) (turns : List Turn) : Prop where
  task : runtime.task = exec BleRuntimeTask.step initial turns
  honest : ∀ turn ∈ turns, HonestTurn addressed peerId turn
  handshake : ∀ handshake ∈ runtime.handshake, HonestHandshake addressed peerId handshake

theorem parseNodeId_bytes (deviceId : DeviceId) (nodeId : NodeId) :
    parseNodeId deviceId nodeId.bytes.toList = .ok nodeId := by
  obtain ⟨⟨bytes, sized⟩⟩ := nodeId
  simp [parseNodeId, sized]

theorem honestTurn_answering {handshake : Handshake} {answer : Except BlewError (List UInt8)}
    (honest : HonestHandshake addressed peerId handshake)
    (answers : addressed handshake.deviceId = true → handshake.charUuid = jacquardNodeIdCharUuid →
      ∀ value, answer = .ok value → value = peerId.bytes.toList) :
    HonestTurn addressed peerId { handshake.turn with
      backend := handshake.turn.backend.answering handshake.deviceId handshake.charUuid answer } := by
  intro deviceId nodeId opens addresses resolved
  obtain rfl : handshake.deviceId = deviceId := Option.some.inj (honest.opens.symm.trans opens)
  by_cases identity : handshake.charUuid = jacquardNodeIdCharUuid
  · cases answer with
    | error error =>
        simp [Backend.resolveRemoteNodeId, Backend.answering, identity] at resolved
        cases resolved
    | ok value =>
        obtain rfl := answers addresses identity value rfl
        have read : parseNodeId handshake.deviceId peerId.bytes.toList = .ok nodeId := by
          simp only [Backend.resolveRemoteNodeId, Backend.answering, identity, and_self,
            if_true] at resolved
          exact resolved
        rw [parseNodeId_bytes] at read
        exact (Except.ok.inj read).symm
  · have earlier := honest.read.resolve_left identity
    apply earlier handshake.deviceId nodeId honest.opens addresses
    simpa [Backend.resolveRemoteNodeId, Backend.answering, Ne.symm identity] using resolved

namespace KnowsPeer
variable {runtime : HandshakeRuntime δ}

theorem begin (knows : KnowsPeer addressed peerId initial runtime turns) (turn : Turn)
    (rest : List BleDevice) :
    ∃ turns, KnowsPeer addressed peerId initial (HandshakePair.begin runtime turn rest) turns := by
  unfold HandshakePair.begin
  split
  · rename_i deviceId opens
    refine ⟨turns, knows.task, knows.honest, ?_⟩
    intro handshake held
    obtain rfl := Option.some.inj held
    exact ⟨opens, Or.inl rfl⟩
  · rename_i opens
    refine ⟨turns ++ [turn], by rw [exec_snoc, ← knows.task], ?_, by simp⟩
    intro other member
    rcases List.mem_append.mp member with old | new
    · exact knows.honest other old
    · intro deviceId nodeId opened
      rw [List.mem_singleton.mp new, opens] at opened
      cases opened

theorem answered (knows : KnowsPeer addressed peerId initial runtime turns) {handshake : Handshake}
    (awaited : runtime.handshake = some handshake) {answer : Except BlewError (List UInt8)}
    (answers : addressed handshake.deviceId = true → handshake.charUuid = jacquardNodeIdCharUuid →
      ∀ value, answer = .ok value → value = peerId.bytes.toList) :
    ∃ turns, KnowsPeer addressed peerId initial (HandshakePair.answered runtime handshake answer)
      turns := by
  have before := knows.handshake handshake awaited
  have honest := honestTurn_answering before answers
  unfold HandshakePair.answered
  dsimp only
  split
  · refine ⟨turns, knows.task, knows.honest, ?_⟩
    intro later held
    obtain rfl := Option.some.inj held
    exact ⟨before.opens, Or.inr honest⟩
  · refine ⟨turns ++ [{ handshake.turn with
      backend := handshake.turn.backend.answering handshake.deviceId handshake.charUuid answer }],
      by rw [exec_snoc, ← knows.task], ?_, by simp⟩
    intro other member
    rcases List.mem_append.mp member with old | new
    · exact knows.honest other old
    · rw [List.mem_singleton.mp new]
      exact honest

theorem serve (knows : KnowsPeer addressed peerId initial runtime turns) (clientId : DeviceId)
    (charUuid : Uuid) (backend : Backend) :
    ∃ turns, KnowsPeer addressed peerId initial { runtime with
      task := runtime.task.step ⟨.peripheralRequest (.read clientId charUuid), backend⟩ } turns := by
  refine ⟨turns ++ [⟨.peripheralRequest (.read clientId charUuid), backend⟩],
    by rw [exec_snoc, ← knows.task], ?_, knows.handshake⟩
  intro other member
  rcases List.mem_append.mp member with old | new
  · exact knows.honest other old
  · intro deviceId nodeId opened
    rw [List.mem_singleton.mp new] at opened
    cases opened

end KnowsPeer

/-! ## Both runtimes -/

/-- The runtime takes the device for the node: it is resolved to it, a session or channel of the node
is on it, or something was just emitted for the node from it. -/
inductive KnownAs (task : BleRuntimeTask δ) (nodeId : NodeId) (deviceId : DeviceId) : Prop
  | resolved (known : task.resolvedNodeIdForDevice deviceId = some nodeId) :
      KnownAs task nodeId deviceId
  | mentioned (mentioned : MentionedFor task nodeId deviceId) : KnownAs task nodeId deviceId
  | emitted (effect : Effect) (member : effect ∈ task.outbox)
      (attributes : Attributes nodeId deviceId effect) : KnownAs task nodeId deviceId

theorem respond_identity (task : BleRuntimeTask δ) (clientId : DeviceId) (backend : Backend) :
    (task.step ⟨.peripheralRequest (.read clientId jacquardNodeIdCharUuid), backend⟩).outbox =
      [.respond task.localNodeId.bytes.toList] := by
  simp [BleRuntimeTask.step, BleRuntimeTask.handle, BleRuntimeTask.handlePeripheralRequest,
    BleRuntimeTask.perform]

variable {addresses : Side → DeviceId → Bool} {tasks : Side → BleRuntimeTask δ}

theorem knowsPeer_step {pair : HandshakePair δ} (input : HandshakeStep)
    (knows : ∀ side, ∃ turns, KnowsPeer (addresses side) (tasks side.other).localNodeId (tasks side)
      (pair.runtime side) turns) :
    ∀ side, ∃ turns, KnowsPeer (addresses side) (tasks side.other).localNodeId (tasks side)
      ((pair.step addresses input).runtime side) turns := by
  intro side
  refine attempt_cases (P := fun after : HandshakePair δ => ∃ turns, KnowsPeer (addresses side)
    (tasks side.other).localNodeId (tasks side) (after.runtime side) turns) (fun _ => knows side) ?_
  intro reached taken
  have move := sideMove_next taken side
  generalize reached.runtime side = became at move ⊢
  obtain ⟨turns, known⟩ := knows side
  cases move with
  | kept => exact ⟨turns, known⟩
  | began turn rest idle takes => exact known.begin turn rest
  | served clientId backend charUuid listens => exact known.serve clientId charUuid backend
  | answered server clientId backend handshake other awaited listens addressed =>
      apply known.answered awaited
      intro _ identity value answered
      obtain ⟨others, server_knows⟩ := knows server
      rw [identity, respond_identity, responseOf, Except.ok.injEq] at answered
      rw [← answered, server_knows.task, localNodeId_exec, other, Side.other_other]
  | completed answer handshake awaited allowed =>
      apply known.answered awaited
      -- The radio makes up no answer of the other runtime.
      intro addressed _ value answered
      rw [answered, addressed] at allowed
      exact absurd rfl allowed

theorem knowsPeer_exec (addresses : Side → DeviceId → Bool) (tasks : Side → BleRuntimeTask δ)
    (inputs : List HandshakeStep) :
    ∀ side, ∃ turns, KnowsPeer (addresses side) (tasks side.other).localNodeId (tasks side)
      ((exec (HandshakePair.step addresses) (.start tasks) inputs).runtime side) turns := by
  apply exec_always (P := fun pair : HandshakePair δ => ∀ side, ∃ turns, KnowsPeer (addresses side)
    (tasks side.other).localNodeId (tasks side) (pair.runtime side) turns)
  · intro side
    exact ⟨[], rfl, by simp, by simp [HandshakePair.start]⟩
  · intro pair input knows
    exact knowsPeer_step input knows

namespace Scenario

def neighbourId : Side → NodeId
  | .left => node 1
  | .right => node 2

theorem new_neighbours (side : Side) :
    BleRuntimeTask.new .other (neighbourId side) {} {} = .ok (neighbours side) := by
  cases side with
  | left => rfl
  | right => rfl

-- The left one connects, and both of its reads are answered by the right one.
def servedConnect : List HandshakeStep :=
  [.take .left (discover ⟨"peer"⟩ (node 2)), .take .left (connect ⟨"peer"⟩ (node 3) none),
    .serve .right ⟨"left"⟩ silent, .serve .right ⟨"left"⟩ silent]

end Scenario

end JqBle.Proof.LinkProfile
