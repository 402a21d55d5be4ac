import JqBle.LinkProfile.Handshake
import JqBle.Proof.LinkProfile.Changes
import JqBle.Proof.LinkProfile.Scenario

/-!
# Handshakes that wait for each other

Nothing keeps a runtime from beginning a handshake with a peer that is in the middle of one with it.
Then neither comes back to the select loop that would answer the other.
-/

namespace JqBle.Proof.LinkProfile
open Host Library Execution JqBle.LinkProfile

section Reads
variable {δ : Type}

/-! ## The reads of a handler -/

def readOf : Effect → Option (DeviceId × Uuid)
  | .readCharacteristic deviceId charUuid _ => some (deviceId, charUuid)
  | _ => none

theorem reads_tryUpgradeL2cap (task : BleRuntimeTask δ) (backend : Backend) (nodeId : NodeId)
    (deviceId : DeviceId) :
    (task.tryUpgradeL2cap backend nodeId deviceId).outbox.filterMap readOf =
      task.outbox.filterMap readOf ++ [(deviceId, jacquardPsmCharUuid)] := by
  unfold BleRuntimeTask.tryUpgradeL2cap
  dsimp only
  split
  · simp [BleRuntimeTask.readFrom, BleRuntimeTask.perform, readOf]
  · split
    · simp [BleRuntimeTask.readFrom, BleRuntimeTask.perform, readOf]
    · split <;> simp [BleRuntimeTask.readFrom, BleRuntimeTask.perform, readOf,
        BleRuntimeTask.installL2capSession, BleRuntimeTask.registerL2capChannel,
        BleRuntimeTask.emitLinkObserved, BleRuntimeTask.emitControlEvent]

theorem reads_refreshGattCache (task : BleRuntimeTask δ) (deviceId : DeviceId) :
    (task.refreshGattCache deviceId).outbox.filterMap readOf = task.outbox.filterMap readOf := by
  unfold BleRuntimeTask.refreshGattCache
  split <;> simp [BleRuntimeTask.perform, readOf]

variable [PeerDirectory δ BlePeerKey DiscoveredPeerHint]

theorem reads_installResolvedPeer (task : BleRuntimeTask δ) (backend : Backend) (key : BlePeerKey)
    (nodeId : NodeId) (deviceId : DeviceId) :
    (task.installResolvedPeer backend key nodeId deviceId).outbox.filterMap readOf =
      task.outbox.filterMap readOf ++ [(deviceId, jacquardPsmCharUuid)] := by
  simp [BleRuntimeTask.installResolvedPeer, reads_tryUpgradeL2cap,
    BleRuntimeTask.installGattSession, BleRuntimeTask.emitLinkObserved,
    BleRuntimeTask.emitControlEvent, BleRuntimeTask.perform, readOf]

/-- The handler performs the reads that it is held up for, and no others. -/
theorem reads_of_opensWith {task : BleRuntimeTask δ} {turn : Turn} {deviceId : DeviceId}
    (opens : HandshakePair.opensWith turn = some deviceId) :
    (task.step turn).outbox.filterMap readOf =
      (deviceId, jacquardNodeIdCharUuid) ::
        if HandshakePair.installs task turn deviceId then [(deviceId, jacquardPsmCharUuid)]
        else [] := by
  obtain ⟨event, backend⟩ := turn
  unfold HandshakePair.opensWith at opens
  unfold HandshakePair.installs
  simp only [BleRuntimeTask.step, BleRuntimeTask.handle]
  split at opens
  · rename_i connected event
    obtain rfl := Option.some.inj opens
    simp only at event
    subst event
    simp only [BleRuntimeTask.handleCentralEvent, BleRuntimeTask.handleDeviceConnected]
    cases backend.resolveRemoteNodeId connected with
    | error error =>
        simp [reads_refreshGattCache, BleRuntimeTask.readFrom, BleRuntimeTask.perform, readOf]
    | ok nodeId =>
        simp only [BleRuntimeTask.readFrom, BleRuntimeTask.perform, List.nil_append]
        cases PeerDirectory.identityState task.peers (BlePeerKey.ofDevice connected) with
        | none => simp [readOf]
        | some identity =>
            cases identity with
            | resolved known => simp [readOf]
            | hint hint =>
                simp only
                split <;> simp [reads_installResolvedPeer, readOf]
  · rename_i device event
    simp only at event
    subst event
    split at opens
    · rename_i claims
      obtain rfl := Option.some.inj opens
      simp only [Bool.and_eq_true, Option.isNone_iff_eq_none] at claims
      simp only [BleRuntimeTask.handleRestoredDevice, claims.1, claims.2, Option.isSome_none,
        Bool.false_eq_true, if_false, if_true, BleRuntimeTask.readFrom, BleRuntimeTask.perform]
      cases backend.resolveRemoteNodeId device.id with
      | error error =>
          simp only [reads_refreshGattCache]
          rfl
      | ok nodeId =>
          simp only [reads_installResolvedPeer]
          rfl
    · cases opens
  · cases opens

end Reads

variable {δ : Type} {pair reached : HandshakePair δ} {addresses : Side → DeviceId → Bool}
  {runtime : HandshakeRuntime δ} {side : Side}

theorem runtime_set_self (pair : HandshakePair δ) (side : Side) (runtime : HandshakeRuntime δ) :
    (pair.set side runtime).runtime side = runtime := Function.update_self ..

theorem runtime_set_other {another : Side} (differs : another ≠ side) :
    (pair.set side runtime).runtime another = pair.runtime another :=
  Function.update_of_ne differs ..

/-! ## Awaited reads -/

/-- The runtime is in a handler that awaits a read which only the select loop of the other one
answers. -/
def AwaitsPeer (addresses : Side → DeviceId → Bool) (pair : HandshakePair δ) (side : Side) : Prop :=
  ∃ handshake, (pair.runtime side).handshake = some handshake ∧
    addresses side handshake.deviceId = true

def Deadlocked (addresses : Side → DeviceId → Bool) (pair : HandshakePair δ) : Prop :=
  ∀ side, AwaitsPeer addresses pair side

theorem awaitsPeer_of_handshake
    (same : (reached.runtime side).handshake = (pair.runtime side).handshake) :
    AwaitsPeer addresses reached side ↔ AwaitsPeer addresses pair side := by
  unfold AwaitsPeer
  rw [same]

theorem awaitsPeer_set_other {another : Side} (differs : another ≠ side) :
    AwaitsPeer addresses (pair.set side runtime) another ↔ AwaitsPeer addresses pair another :=
  awaitsPeer_of_handshake (by rw [runtime_set_other differs])

variable [PeerDirectory δ BlePeerKey DiscoveredPeerHint]

theorem answered_device {handshake later : Handshake} {answer : Except BlewError (List UInt8)}
    (awaits : (HandshakePair.answered runtime handshake answer).handshake = some later) :
    later.deviceId = handshake.deviceId := by
  unfold HandshakePair.answered at awaits
  dsimp only at awaits
  split at awaits
  · obtain rfl := Option.some.inj awaits
    rfl
  · cases awaits

/-! ## One step -/

/-- What one of the runtimes becomes in a step. -/
inductive SideMove (addresses : Side → DeviceId → Bool) (pair : HandshakePair δ) (side : Side) :
    HandshakeStep → HandshakeRuntime δ → Prop
  | kept (input : HandshakeStep) (elsewhere : HandshakePair.concerns side input = false) :
      SideMove addresses pair side input (pair.runtime side)
  | began (turn : Turn) (rest : List BleDevice) (idle : (pair.runtime side).handshake = none)
      (takes : HandshakePair.takes (pair.runtime side) turn = some rest) :
      SideMove addresses pair side (.take side turn)
        (HandshakePair.begin (pair.runtime side) turn rest)
  | served (clientId : DeviceId) (backend : Backend) (charUuid : Uuid)
      (listens : HandshakePair.listens (pair.runtime side) = true) :
      SideMove addresses pair side (.serve side clientId backend)
        { pair.runtime side with
          task := (pair.runtime side).task.step
            ⟨.peripheralRequest (.read clientId charUuid), backend⟩ }
  | answered (server : Side) (clientId : DeviceId) (backend : Backend) (handshake : Handshake)
      (other : side = server.other) (awaited : (pair.runtime side).handshake = some handshake)
      (listens : HandshakePair.listens (pair.runtime server) = true)
      (addressed : addresses side handshake.deviceId = true) :
      SideMove addresses pair side (.serve server clientId backend)
        (HandshakePair.answered (pair.runtime side) handshake
          (responseOf ((pair.runtime server).task.step
            ⟨.peripheralRequest (.read clientId handshake.charUuid), backend⟩).outbox))
  | completed (answer : Except BlewError (List UInt8)) (handshake : Handshake)
      (awaited : (pair.runtime side).handshake = some handshake)
      (allowed : ¬ (addresses side handshake.deviceId && answer.isOk) = true) :
      SideMove addresses pair side (.complete side answer)
        (HandshakePair.answered (pair.runtime side) handshake answer)

theorem sideMove_next {input : HandshakeStep}
    (taken : HandshakePair.next addresses pair input = some reached) (side : Side) :
    SideMove addresses pair side input (reached.runtime side) := by
  cases input with
  | take taker turn =>
      simp only [HandshakePair.next] at taken
      split at taken
      · rename_i rest idle takes
        obtain rfl := Option.some.inj taken
        by_cases own : side = taker
        · subst own
          rw [runtime_set_self]
          exact .began turn rest idle takes
        · rw [runtime_set_other own]
          exact .kept _ (decide_eq_false (Ne.symm own))
      · cases taken
  | serve server clientId backend =>
      simp only [HandshakePair.next] at taken
      split at taken
      · cases taken
      · rename_i handshake awaited
        split at taken
        · rename_i serves
          obtain rfl := Option.some.inj taken
          obtain ⟨listens, addressed⟩ := Bool.and_eq_true_iff.mp serves
          rcases Side.eq_or_other server side with rfl | rfl
          · rw [runtime_set_other (Side.other_ne side).symm, runtime_set_self]
            exact .served clientId backend _ listens
          · rw [runtime_set_self, runtime_set_other (Side.other_ne server)]
            exact .answered server clientId backend handshake rfl awaited listens addressed
        · cases taken
  | complete taker answer =>
      simp only [HandshakePair.next] at taken
      split at taken
      · cases taken
      · rename_i handshake awaited
        split at taken
        · cases taken
        · rename_i allowed
          obtain rfl := Option.some.inj taken
          by_cases own : side = taker
          · subst own
            rw [runtime_set_self]
            exact .completed answer handshake awaited allowed
          · rw [runtime_set_other own]
            exact .kept _ (decide_eq_false (Ne.symm own))

def BeginsWithPeer (addresses : Side → DeviceId → Bool) (pair : HandshakePair δ) (side : Side)
    (turn : Turn) : Prop :=
  (pair.runtime side).handshake = none ∧ (HandshakePair.takes (pair.runtime side) turn).isSome ∧
    ∃ deviceId, HandshakePair.opensWith turn = some deviceId ∧ addresses side deviceId = true

theorem begins_of_awaitsPeer {input : HandshakeStep}
    (taken : HandshakePair.next addresses pair input = some reached)
    (awaits : AwaitsPeer addresses reached side) :
    AwaitsPeer addresses pair side ∨
      ∃ turn, input = .take side turn ∧ BeginsWithPeer addresses pair side turn := by
  obtain ⟨handshake, held, addressed⟩ := awaits
  have move := sideMove_next taken side
  generalize reached.runtime side = became at move held
  cases move with
  | kept | served clientId backend charUuid listens => exact Or.inl ⟨handshake, held, addressed⟩
  | began turn rest idle takes =>
      unfold HandshakePair.begin at held
      split at held
      · rename_i deviceId opens
        obtain rfl := Option.some.inj held
        exact Or.inr ⟨turn, rfl, idle, by simp [takes], deviceId, opens, addressed⟩
      · cases held
  | answered server clientId backend earlier other awaited listens known
  | completed answer earlier awaited allowed =>
      rw [answered_device held] at addressed
      exact Or.inl ⟨earlier, awaited, addressed⟩

theorem awaitsPeer_of_begins {turn : Turn} (begins : BeginsWithPeer addresses pair side turn) :
    AwaitsPeer addresses (pair.step addresses (.take side turn)) side ∧
      (AwaitsPeer addresses pair side.other →
        AwaitsPeer addresses (pair.step addresses (.take side turn)) side.other) := by
  obtain ⟨idle, admits, deviceId, opens, addressed⟩ := begins
  obtain ⟨restored, admits⟩ := Option.isSome_iff_exists.mp admits
  have taken : HandshakePair.next addresses pair (.take side turn) =
      some (pair.set side (HandshakePair.begin (pair.runtime side) turn restored)) := by
    simp [HandshakePair.next, idle, admits]
  rw [HandshakePair.step, attempt_of_enabled taken]
  constructor
  · refine ⟨⟨turn, deviceId, jacquardNodeIdCharUuid⟩, ?_, addressed⟩
    rw [runtime_set_self, HandshakePair.begin, opens]
  · exact (awaitsPeer_set_other (Side.other_ne side)).mpr

def TakesTurns (addresses : Side → DeviceId → Bool) (pair : HandshakePair δ) : HandshakeStep → Prop
  | .take side turn =>
      BeginsWithPeer addresses pair side turn → ¬ AwaitsPeer addresses pair side.other
  | _ => True

theorem deadlocked_step_iff (free : ¬ Deadlocked addresses pair) (input : HandshakeStep) :
    ¬ Deadlocked addresses (pair.step addresses input) ↔ TakesTurns addresses pair input := by
  constructor
  · intro freeAfter
    cases input with
    | serve | complete => trivial
    | take side turn =>
        intro begins awaits
        obtain ⟨own, others⟩ := awaitsPeer_of_begins begins
        apply freeAfter
        intro another
        rcases Side.eq_or_other side another with rfl | rfl
        · exact own
        · exact others awaits
  · intro allowed
    refine attempt_cases (P := fun pair => ¬ Deadlocked addresses pair) (fun _ => free) ?_
    intro reached taken deadlocked
    -- The one that was not waiting has begun, while the other one was waiting already.
    obtain ⟨side, waitsNot⟩ := not_forall.mp free
    obtain ⟨turn, rfl, begins⟩ := (begins_of_awaitsPeer taken (deadlocked side)).resolve_left waitsNot
    apply allowed begins
    rcases begins_of_awaitsPeer taken (deadlocked side.other) with awaits | ⟨_, same, -⟩
    · exact awaits
    · have own := (HandshakeStep.take.inj same).1
      exact absurd own.symm (Side.other_ne side)

/-- Two runtimes never wait for each other's select loop exactly when neither begins a handshake with
the other one while that is in the middle of its own. -/
theorem handshakes_deadlock_free_iff (addresses : Side → DeviceId → Bool)
    (tasks : Side → BleRuntimeTask δ) (inputs : List HandshakeStep) :
    Meets (HandshakePair.step addresses) (TakesTurns addresses) (.start tasks) inputs ↔
      ∀ before, before <+: inputs →
        ¬ Deadlocked addresses (exec (HandshakePair.step addresses) (.start tasks) before) := by
  refine meets_iff_forall_prefix (P := fun before =>
    ¬ Deadlocked addresses (exec (HandshakePair.step addresses) (.start tasks) before)) ?_ ?_
  · intro deadlocked
    obtain ⟨handshake, held, -⟩ := deadlocked .left
    cases held
  · intro before input _ free
    rw [exec_snoc]
    exact deadlocked_step_iff free input

/-! ## Two neighbours that connect to each other -/

namespace Scenario

def peerOnly (_ : Side) (deviceId : DeviceId) : Bool := deviceId = ⟨"peer"⟩

def neighbours (side : Side) : BleRuntimeTask PeerMap :=
  .launch .other (match side with | .left => node 1 | .right => node 2) {} {}

def mutualConnect : List HandshakeStep :=
  [.take .left (discover ⟨"peer"⟩ (node 2)), .take .right (discover ⟨"peer"⟩ (node 1)),
    .take .left (connect ⟨"peer"⟩ (node 2) none), .take .right (connect ⟨"peer"⟩ (node 1) none)]

end Scenario

theorem mutual_connect_deadlocks :
    let pair := exec (HandshakePair.step Scenario.peerOnly) (.start Scenario.neighbours)
      Scenario.mutualConnect
    Deadlocked Scenario.peerOnly pair ∧
      ∀ side clientId backend,
        HandshakePair.next Scenario.peerOnly pair (.serve side clientId backend) = none := by
  intro pair
  constructor
  · intro side
    cases side with
    | left =>
        exact ⟨⟨Scenario.connect ⟨"peer"⟩ (Scenario.node 2) none, ⟨"peer"⟩, jacquardNodeIdCharUuid⟩,
          rfl, rfl⟩
    | right =>
        exact ⟨⟨Scenario.connect ⟨"peer"⟩ (Scenario.node 1) none, ⟨"peer"⟩, jacquardNodeIdCharUuid⟩,
          rfl, rfl⟩
  · intro side clientId backend
    cases side <;> rfl

end JqBle.Proof.LinkProfile
