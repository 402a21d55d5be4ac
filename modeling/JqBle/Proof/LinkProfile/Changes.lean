import JqBle.LinkProfile.Task
import JqBle.Library.Execution
import Mathlib.Logic.Relation

/-!
# What one turn of the runtime task is made of

Every handler is a sequence of a few changes of the tables, each with what the handler has checked
before it (`Change`). A property that every change carries over is carried over by every turn
(`step_induction`); the invariants of the runtime are proved change by change.
-/

namespace JqBle.Proof.LinkProfile
open Std Host Library JqBle.LinkProfile

variable {δ : Type}

/-! ## Effects that say nothing about peers -/

def Quiet : Effect → Prop
  | .spawnL2capChannelTasks _ | .notifyCharacteristic .. | .emitControl _ | .emitPayload _ => False
  | _ => True

/-- The tables are the same and only quiet effects were performed. -/
structure QuietStep (before after : BleRuntimeTask δ) : Prop where
  peers : after.peers = before.peers
  sessions : after.sessions = before.sessions
  l2capChannels : after.l2capChannels = before.l2capChannels
  nextChannelId : after.nextChannelId = before.nextChannelId
  targetOs : after.targetOs = before.targetOs
  outbox : ∃ effects, (∀ effect ∈ effects, Quiet effect) ∧ after.outbox = before.outbox ++ effects

theorem QuietStep.refl (task : BleRuntimeTask δ) : QuietStep task task :=
  ⟨rfl, rfl, rfl, rfl, rfl, [], by simp, by simp⟩

theorem QuietStep.trans {first second third : BleRuntimeTask δ} (before : QuietStep first second)
    (after : QuietStep second third) : QuietStep first third := by
  obtain ⟨effects, quiet, appended⟩ := before.outbox
  obtain ⟨effects', quiet', appended'⟩ := after.outbox
  refine ⟨after.peers.trans before.peers, after.sessions.trans before.sessions,
    after.l2capChannels.trans before.l2capChannels, after.nextChannelId.trans before.nextChannelId,
    after.targetOs.trans before.targetOs, effects ++ effects', ?_, ?_⟩
  · intro effect member
    rcases List.mem_append.mp member with member | member
    · exact quiet effect member
    · exact quiet' effect member
  · rw [appended', appended, List.append_assoc]

theorem QuietStep.perform (task : BleRuntimeTask δ) (effect : Effect) (quiet : Quiet effect) :
    QuietStep task (task.perform effect) :=
  ⟨rfl, rfl, rfl, rfl, rfl, [effect], by simpa using quiet, rfl⟩

theorem QuietStep.startup (task : BleRuntimeTask δ) (startup : BleStartupState) :
    QuietStep task { task with startup := startup } :=
  ⟨rfl, rfl, rfl, rfl, rfl, [], by simp, by simp⟩

theorem QuietStep.refreshGattCache (task : BleRuntimeTask δ) (deviceId : DeviceId) :
    QuietStep task (task.refreshGattCache deviceId) := by
  unfold BleRuntimeTask.refreshGattCache
  split
  · exact .perform task _ trivial
  · exact .refl task

theorem QuietStep.tryStartL2capListener (task : BleRuntimeTask δ) (backend : Backend) :
    QuietStep task (task.tryStartL2capListener backend) := by
  have called : QuietStep task (task.perform .l2capListener) := .perform task _ trivial
  unfold BleRuntimeTask.tryStartL2capListener
  split
  · exact .refl task
  · exact .refl task
  · exact .refl task
  all_goals
    dsimp only
    split
    · exact called.trans ⟨rfl, rfl, rfl, rfl, rfl, [], by simp, by simp⟩
    · exact called.trans (.startup _ _)
    · exact called.trans (.startup _ _)

theorem QuietStep.tryStartGattService (task : BleRuntimeTask δ) (backend : Backend) :
    QuietStep task (task.tryStartGattService backend) := by
  unfold BleRuntimeTask.tryStartGattService
  split
  · exact .refl task
  · exact .refl task
  all_goals
    dsimp only
    split_ifs
    · exact .refl task
    · exact .startup _ _
    · exact (QuietStep.perform task (.addService task.startupGattService) trivial).trans
        (.startup _ _)

theorem QuietStep.tryStartAdvertising (task : BleRuntimeTask δ) (backend : Backend) :
    QuietStep task (task.tryStartAdvertising backend) := by
  unfold BleRuntimeTask.tryStartAdvertising
  split
  · exact .refl task
  · exact .refl task
  all_goals
    dsimp only
    split_ifs
    · exact .refl task
    · exact (QuietStep.perform task (.startAdvertising task.advertisingConfig) trivial).trans
        (.startup _ _)

theorem QuietStep.tryStartScan (task : BleRuntimeTask δ) (backend : Backend) :
    QuietStep task (task.tryStartScan backend) := by
  unfold BleRuntimeTask.tryStartScan
  split
  · exact .refl task
  · exact .refl task
  all_goals
    exact (QuietStep.perform task (.startScan task.config.scanFilter) trivial).trans
      (.startup _ _)

theorem QuietStep.tryStartup (task : BleRuntimeTask δ) (backend : Backend) :
    QuietStep task (task.tryStartup backend) := by
  have peripheral : QuietStep task (if backend.peripheralIsPowered.toOption.getD false then
      ((task.tryStartL2capListener backend).tryStartGattService backend).tryStartAdvertising backend
      else { task with startup := task.startup.peripheralPowerChanged .poweredOff }) := by
    split
    · exact ((QuietStep.tryStartL2capListener task backend).trans
        (.tryStartGattService _ backend)).trans (.tryStartAdvertising _ backend)
    · exact .startup _ _
  have central (started : BleRuntimeTask δ) :
      QuietStep started (if backend.centralIsPowered.toOption.getD false then
        started.tryStartScan backend
        else { started with startup := started.startup.centralPowerChanged .poweredOff }) := by
    split
    · exact .tryStartScan _ backend
    · exact .startup _ _
  exact peripheral.trans (central _)

theorem tryUpgradeL2cap_eq (task : BleRuntimeTask δ) (backend : Backend) (nodeId : NodeId)
    (deviceId : DeviceId) :
    ∃ called, QuietStep task called ∧ task.tryUpgradeL2cap backend nodeId deviceId =
      if backend.upgradesL2cap deviceId then called.installL2capSession nodeId deviceId
      else called := by
  have read : QuietStep task (task.readFrom backend deviceId jacquardPsmCharUuid) :=
    .perform _ _ trivial
  unfold BleRuntimeTask.tryUpgradeL2cap Backend.upgradesL2cap
  cases backend.resolveRemotePsm deviceId with
  | none => exact ⟨_, read, by simp⟩
  | some psm =>
      have opened := read.trans (.perform _ (.openL2capChannel deviceId psm) trivial)
      cases backend.openL2capChannel with
      | error error => exact ⟨_, opened, by simp [Except.isOk, Except.toBool]⟩
      | ok channel =>
          exact ⟨_, opened.trans (.perform _ (.writeL2capIdentity task.localNodeId) trivial), by
            simp only [Option.isSome_some, Except.isOk, Except.toBool, Bool.true_and]
            rfl⟩

theorem sendViaSession_quiet (task : BleRuntimeTask δ) (accepted : Bool) (session : BleSession)
    (payload : List UInt8) :
    QuietStep task (task.sendViaSession accepted session payload).1 := by
  unfold BleRuntimeTask.sendViaSession
  cases session with
  | gattCentral deviceId => exact .perform _ _ trivial
  | l2cap deviceId channelId =>
      dsimp only
      split
      · exact .perform _ _ trivial
      · exact .refl task

theorem l2cap_of_rejected {task : BleRuntimeTask δ} {accepted : Bool} {session : BleSession}
    {payload : List UInt8} {channelId : BleChannelId}
    (rejected : (task.sendViaSession accepted session payload).2 = some channelId) :
    ∃ deviceId, session = .l2cap deviceId channelId := by
  unfold BleRuntimeTask.sendViaSession at rejected
  cases session with
  | gattCentral deviceId => cases rejected
  | l2cap deviceId current =>
      dsimp only at rejected
      split at rejected
      · cases rejected
      · cases rejected
        exact ⟨deviceId, rfl⟩

theorem preferred_of_egressSession {task : BleRuntimeTask δ} {deviceId : DeviceId}
    {session : BleSession} (search : task.egressSessionForDevice deviceId = some session) :
    ∃ (nodeId : NodeId) (sessions : PeerSessions), task.sessions[nodeId]? = some sessions ∧
      sessions.preferredEgress = some session ∧ session.deviceId = deviceId := by
  obtain ⟨nodeId, sessions, known, egress⟩ := EntryMap.findValue_eq_some search
  obtain ⟨preferred, same⟩ := Option.filter_eq_some_iff.mp egress
  exact ⟨nodeId, sessions, known, preferred, by simpa using same⟩

def PrefersL2cap (task : BleRuntimeTask δ) (nodeId : NodeId) (deviceId : DeviceId)
    (channelId : BleChannelId) : Prop :=
  ∃ sessions, task.sessions[nodeId]? = some sessions ∧
    sessions.preferredEgress = some (.l2cap deviceId channelId)

section
variable [PeerDirectory δ BlePeerKey DiscoveredPeerHint]

theorem QuietStep.handlePeripheralRead (task : BleRuntimeTask δ) (clientId : DeviceId)
    (charUuid : Uuid) : QuietStep task (task.handlePeripheralRequest (.read clientId charUuid)) := by
  simp only [BleRuntimeTask.handlePeripheralRequest]
  split_ifs
  · exact .perform task _ trivial
  · split
    · exact .perform task _ trivial
    · exact .perform task _ trivial
  · exact .perform task _ trivial

/-! ## Sends that fail -/

/-- The channels that the loop closes, in order: a send on each was rejected or found no channel. -/
def unicastFailures (accepts : Nat → Bool) (deviceId : DeviceId) (payload : List UInt8) :
    (fuel attempt : Nat) → Option BleChannelId → BleRuntimeTask δ → List BleChannelId
  | 0, _, _, _ => []
  | fuel + 1, attempt, downgradedL2cap, task =>
      match task.egressSessionForDevice deviceId with
      | none => []
      | some session =>
          let sent := task.sendViaSession (accepts attempt) session payload
          match sent.2 with
          | none => []
          | some channelId =>
              if downgradedL2cap = some channelId then []
              else channelId :: unicastFailures accepts deviceId payload fuel (attempt + 1)
                (some channelId) (sent.1.handleL2capChannelClosed channelId)

def commandFailures (task : BleRuntimeTask δ) (accepts : Nat → Bool) (command : BleOutboundCommand) :
    List BleChannelId :=
  match command.intent with
  | .unicast endpoint =>
      match deviceIdFromEndpoint endpoint with
      | none => []
      | some deviceId =>
          unicastFailures accepts deviceId command.payload (task.sessions.size + 2) 0 none task
  | .multicast .. | .broadcast _ => []

def batchFailures (accepts : Nat → Nat → Bool) :
    (position : Nat) → List BleOutboundCommand → BleRuntimeTask δ → List BleChannelId
  | _, [], _ => []
  | position, command :: rest, task =>
      commandFailures task (accepts position) command ++
        batchFailures accepts (position + 1) rest
          (task.dispatchOutboundCommand (accepts position) command)

/-- The channels that the turn closes because a send on them fails. -/
def failedSends (task : BleRuntimeTask δ) (turn : Turn) : List BleChannelId :=
  match turn.event with
  | .command (.dispatch batch) => batchFailures turn.backend.l2capSend 0 batch task
  | _ => []

omit [PeerDirectory δ BlePeerKey DiscoveredPeerHint] in
theorem dispatches_of_failedSends {task : BleRuntimeTask δ} {turn : Turn} {channelId : BleChannelId}
    (failed : channelId ∈ failedSends task turn) :
    ∃ batch, turn.event = .command (.dispatch batch) := by
  unfold failedSends at failed
  split at failed
  · exact ⟨_, by assumption⟩
  · cases failed

/-! ## The changes of a turn -/

/-- The turn reads the node id `nodeId` from `deviceId` and admits it: a hint recorded for the
device matches, or the device was restored without one. -/
def Admits (task : BleRuntimeTask δ) (turn : Turn) (deviceId : DeviceId) (nodeId : NodeId) : Prop :=
  turn.backend.resolveRemoteNodeId deviceId = .ok nodeId ∧
    ((turn.event = .central (.deviceConnected deviceId) ∧ ∃ hint,
        PeerDirectory.identityState task.peers (BlePeerKey.ofDevice deviceId) = some (.hint hint) ∧
        hintMatchesNodeId hint.nodeIdPrefix nodeId = true) ∨
      ∃ device, turn.event = .restoredDevice device ∧ device.id = deviceId ∧
        parseDiscoveryHint device.services = none ∧ turn.backend.claims = true)

/-- The turn dispatches a batch that has a multicast to the receivers in it. -/
def Multicasts (turn : Turn) (receivers : List NodeId) : Prop :=
  ∃ batch command endpoint groupId, turn.event = .command (.dispatch batch) ∧ command ∈ batch ∧
    command.intent = .multicast endpoint groupId receivers

inductive Change (start : BleRuntimeTask δ) (turn : Turn) :
    BleRuntimeTask δ → BleRuntimeTask δ → Prop
  | quiet {before after} (quiet : QuietStep before after) : Change start turn before after
  | hint {before} (deviceId : DeviceId) (hint : DiscoveredPeerHint) :
      Change start turn before { before with
        peers := PeerDirectory.upsertHint before.peers (BlePeerKey.ofDevice deviceId) hint }
  | forget {before} (deviceId : DeviceId) (hint : DiscoveredPeerHint)
      (hinted : PeerDirectory.identityState before.peers (BlePeerKey.ofDevice deviceId) =
        some (.hint hint)) :
      Change start turn before { before with
        peers := (PeerDirectory.remove before.peers (BlePeerKey.ofDevice deviceId)).2 }
  | resolve {before} (deviceId : DeviceId) (nodeId : NodeId)
      (admits : Admits start turn deviceId nodeId)
      (unchanged : before.peers = start.peers ∧ before.sessions = start.sessions)
      (read : Effect.readCharacteristic deviceId jacquardNodeIdCharUuid
        (.ok nodeId.bytes.toList) ∈ before.outbox) :
      Change start turn before { before with
        peers := PeerDirectory.resolve before.peers (BlePeerKey.ofDevice deviceId) nodeId }
  | installGatt {before} (deviceId : DeviceId) (nodeId : NodeId)
      (admits : Admits start turn deviceId nodeId)
      (resolved : before.resolvedNodeIdForDevice deviceId = some nodeId) :
      Change start turn before ((before.installGattSession nodeId deviceId).emitLinkObserved nodeId
        (gattEndpoint deviceId))
  | installL2cap {before} (deviceId : DeviceId) (nodeId : NodeId)
      (source : Admits start turn deviceId nodeId ∨ turn.event = .l2capAccept (.ok deviceId))
      (resolved : before.resolvedNodeIdForDevice deviceId = some nodeId) :
      Change start turn before (before.installL2capSession nodeId deviceId)
  | payload {before} (deviceId : DeviceId) (nodeId : NodeId) (endpoint : LinkEndpoint)
      (value : List UInt8) (located : deviceIdFromEndpoint endpoint = some deviceId)
      (attributed : before.resolvedNodeIdForDevice deviceId = some nodeId ∨
        ∃ channelId : BleChannelId, before.l2capChannels[channelId]? = some ⟨nodeId, deviceId⟩) :
      Change start turn before
        (before.perform (.emitPayload (.payloadReceived nodeId endpoint value)))
  | close {before} (channelId : BleChannelId)
      (closes : turn.event = .l2cap (.channelClosed channelId) ∨
        channelId ∈ failedSends start turn ∧
          ∃ nodeId deviceId, PrefersL2cap before nodeId deviceId channelId) :
      Change start turn before (before.handleL2capChannelClosed channelId)
  | notify {before} (deviceId : DeviceId) (payload : List UInt8) (receivers : List NodeId)
      (deviceIds notifyDeviceIds : List DeviceId)
      (subscribers : before.notifySubscriberDeviceIds receivers = some deviceIds)
      (targets : platformNotifyDeviceIds before.targetOs before.sessions receivers deviceIds =
        some notifyDeviceIds)
      (target : deviceId ∈ notifyDeviceIds)
      (multicasts : Multicasts turn receivers) :
      Change start turn before (before.perform
        (.notifyCharacteristic deviceId jacquardP2cCharUuid payload receivers))
  | subscribe {before} (deviceId : DeviceId)
      (event : turn.event =
        .peripheralState (.subscriptionChanged deviceId jacquardP2cCharUuid true))
      (first : before = start) :
      Change start turn before (before.handleP2cSubscription deviceId)
  | unsubscribe {before} (deviceId : DeviceId)
      (event : turn.event =
        .peripheralState (.subscriptionChanged deviceId jacquardP2cCharUuid false))
      (first : before = start) :
      Change start turn before (before.handleP2cUnsubscription deviceId)
  | disconnect {before} (deviceId : DeviceId) (cause : DisconnectCause)
      (event : turn.event = .central (.deviceDisconnected deviceId cause))
      (first : before = start) :
      Change start turn before (before.handleDeviceDisconnected deviceId cause)

abbrev Changes (start : BleRuntimeTask δ) (turn : Turn) := Relation.ReflTransGen (Change start turn)

variable {start task : BleRuntimeTask δ} {turn : Turn}

theorem changes_quiet {after : BleRuntimeTask δ} (quiet : QuietStep task after) :
    Changes start turn task after :=
  .single (.quiet quiet)

theorem parseNodeId_ok {deviceId : DeviceId} {bytes : List UInt8} {nodeId : NodeId}
    (parsed : parseNodeId deviceId bytes = .ok nodeId) : bytes = nodeId.bytes.toList := by
  unfold parseNodeId at parsed
  split at parsed
  · simp only [Except.ok.injEq] at parsed
    subst parsed
    rfl
  · cases parsed

theorem read_of_resolveRemoteNodeId {backend : Backend} {deviceId : DeviceId} {nodeId : NodeId}
    (resolved : backend.resolveRemoteNodeId deviceId = .ok nodeId) :
    backend.readCharacteristic deviceId jacquardNodeIdCharUuid = .ok nodeId.bytes.toList := by
  unfold Backend.resolveRemoteNodeId at resolved
  cases read : backend.readCharacteristic deviceId jacquardNodeIdCharUuid with
  | error error =>
      rw [read] at resolved
      cases resolved
  | ok bytes =>
      rw [read] at resolved
      rw [parseNodeId_ok resolved]

theorem resolvedNodeIdForDevice_eq_some {deviceId : DeviceId} {nodeId : NodeId} :
    task.resolvedNodeIdForDevice deviceId = some nodeId ↔
      PeerDirectory.identityState task.peers (BlePeerKey.ofDevice deviceId) =
        some (.resolved nodeId) := by
  unfold BleRuntimeTask.resolvedNodeIdForDevice
  split
  · rename_i other known
    rw [known, Option.some.injEq, Option.some.injEq, PeerIdentityState.resolved.injEq]
  · rename_i unresolved
    simpa using fun known => unresolved nodeId known

theorem changes_handleDeviceDiscovered (device : BleDevice) :
    Changes start turn task (task.handleDeviceDiscovered turn.backend device) := by
  unfold BleRuntimeTask.handleDeviceDiscovered
  split
  · exact .refl
  · dsimp only
    apply Relation.ReflTransGen.trans (.single (.hint device.id _))
    split
    · exact changes_quiet (.perform _ _ trivial)
    · exact .refl

theorem changes_installResolvedPeer {deviceId : DeviceId} {nodeId : NodeId}
    (admits : Admits start turn deviceId nodeId)
    (unchanged : task.peers = start.peers ∧ task.sessions = start.sessions)
    (read : Effect.readCharacteristic deviceId jacquardNodeIdCharUuid
      (.ok nodeId.bytes.toList) ∈ task.outbox) :
    Changes start turn task
      (task.installResolvedPeer turn.backend (BlePeerKey.ofDevice deviceId) nodeId deviceId) := by
  have resolved (after : BleRuntimeTask δ) (peers : after.peers =
      PeerDirectory.resolve task.peers (BlePeerKey.ofDevice deviceId) nodeId) :
      after.resolvedNodeIdForDevice deviceId = some nodeId := by
    simp [resolvedNodeIdForDevice_eq_some, peers]
  unfold BleRuntimeTask.installResolvedPeer
  dsimp only
  refine .head (.resolve deviceId nodeId admits unchanged read) ?_
  refine .head (.installGatt deviceId nodeId admits (resolved _ rfl)) ?_
  obtain ⟨called, quiet, equal⟩ := tryUpgradeL2cap_eq (({ task with
    peers := PeerDirectory.resolve task.peers (BlePeerKey.ofDevice deviceId) nodeId
    }.installGattSession nodeId deviceId).emitLinkObserved nodeId (gattEndpoint deviceId))
    turn.backend nodeId deviceId
  rw [equal]
  refine .head (.quiet quiet) ?_
  split
  · exact .single (.installL2cap deviceId nodeId (Or.inl admits) (resolved _ quiet.peers))
  · exact .refl

theorem changes_handleDeviceConnected {deviceId : DeviceId}
    (event : turn.event = .central (.deviceConnected deviceId)) :
    Changes start turn start (start.handleDeviceConnected turn.backend deviceId) := by
  unfold BleRuntimeTask.handleDeviceConnected
  dsimp only
  refine .head (.quiet (QuietStep.perform start (.readCharacteristic deviceId jacquardNodeIdCharUuid
    (turn.backend.readCharacteristic deviceId jacquardNodeIdCharUuid)) trivial)) ?_
  cases read : turn.backend.resolveRemoteNodeId deviceId with
  | error error => exact changes_quiet (.refreshGattCache _ _)
  | ok nodeId =>
      cases known : PeerDirectory.identityState
          (start.readFrom turn.backend deviceId jacquardNodeIdCharUuid).peers
          (BlePeerKey.ofDevice deviceId) with
      | none => exact .refl
      | some identity =>
          cases identity with
          | resolved other => exact .refl
          | hint hint =>
              dsimp only
              split
              · rename_i matched
                apply changes_installResolvedPeer
                · exact ⟨read, Or.inl ⟨event, hint, known, matched⟩⟩
                · exact ⟨rfl, rfl⟩
                · simp [BleRuntimeTask.perform, read_of_resolveRemoteNodeId read]
              · refine .head (.quiet (.perform _ (.disconnect deviceId) trivial)) ?_
                exact .single (.forget deviceId hint known)

theorem changes_handleRestoredDevice {device : BleDevice}
    (event : turn.event = .restoredDevice device) :
    Changes start turn start (start.handleRestoredDevice turn.backend device) := by
  unfold BleRuntimeTask.handleRestoredDevice
  split
  · exact changes_handleDeviceDiscovered device
  · rename_i hintless
    split
    · rename_i claimed
      dsimp only
      refine .head (.quiet (QuietStep.perform start (.connect device.id) trivial)) ?_
      refine .head (.quiet (QuietStep.perform _ (.readCharacteristic device.id
        jacquardNodeIdCharUuid
        (turn.backend.readCharacteristic device.id jacquardNodeIdCharUuid)) trivial)) ?_
      cases read : turn.backend.resolveRemoteNodeId device.id with
      | error error => exact changes_quiet (.refreshGattCache _ _)
      | ok nodeId =>
          apply changes_installResolvedPeer
          · exact ⟨read, Or.inr ⟨device, event, rfl, by simpa using hintless, claimed⟩⟩
          · exact ⟨rfl, rfl⟩
          · simp [BleRuntimeTask.perform, read_of_resolveRemoteNodeId read]
    · exact .refl

theorem changes_handleC2pWrite (clientId : DeviceId) (value : List UInt8) (hasResponder : Bool) :
    Changes start turn task (task.handleC2pWrite clientId value hasResponder) := by
  unfold BleRuntimeTask.handleC2pWrite
  cases resolved : task.resolvedNodeIdForDevice clientId with
  | none =>
      dsimp only
      split
      · exact changes_quiet (.perform _ _ trivial)
      · exact .refl
  | some nodeId =>
      refine .head (.payload clientId nodeId (gattEndpoint clientId) value (by simp)
        (Or.inl resolved)) ?_
      dsimp only
      split
      · exact changes_quiet (.perform _ _ trivial)
      · exact .refl

theorem changes_handlePeripheralRequest (request : PeripheralRequest) :
    Changes start turn task (task.handlePeripheralRequest request) := by
  cases request with
  | read clientId charUuid => exact changes_quiet (.handlePeripheralRead ..)
  | write clientId charUuid value hasResponder =>
      simp only [BleRuntimeTask.handlePeripheralRequest]
      split_ifs
      · exact changes_handleC2pWrite clientId value hasResponder
      · exact changes_quiet (.perform _ _ trivial)
      · exact .refl

theorem changes_handleCharacteristicNotification (deviceId : DeviceId) (charUuid : Uuid)
    (value : List UInt8) :
    Changes start turn task (task.handleCharacteristicNotification deviceId charUuid value) := by
  unfold BleRuntimeTask.handleCharacteristicNotification
  split
  · exact .refl
  · cases resolved : task.resolvedNodeIdForDevice deviceId with
    | none => exact .refl
    | some nodeId =>
        exact .single (.payload deviceId nodeId (gattEndpoint deviceId) value (by simp)
          (Or.inl resolved))

theorem changes_handleL2capAccept {accepted : Except BlewError DeviceId}
    (event : turn.event = .l2capAccept accepted) :
    Changes start turn task (task.handleL2capAccept turn.backend accepted) := by
  cases accepted with
  | error error => exact .refl
  | ok deviceId =>
      unfold BleRuntimeTask.handleL2capAccept
      cases turn.backend.readL2capIdentity with
      | none => exact .refl
      | some remoteNodeId =>
          dsimp only
          split
          · exact .refl
          · rename_i resolved
            exact .single (.installL2cap deviceId remoteNodeId (Or.inr event) (not_not.mp resolved))

theorem changes_handleL2capRuntimeEvent {event : L2capRuntimeEvent}
    (handled : turn.event = .l2cap event) :
    Changes start turn task (task.handleL2capRuntimeEvent event) := by
  cases event with
  | channelClosed channelId => exact .single (.close channelId (Or.inl handled))
  | frameReceived channelId payload =>
      simp only [BleRuntimeTask.handleL2capRuntimeEvent]
      cases located : task.l2capChannels[channelId]? with
      | none => exact .refl
      | some channel =>
          exact .single (.payload channel.deviceId channel.nodeId (l2capEndpoint channel.deviceId)
            payload (by simp) (Or.inr ⟨channelId, located⟩))

theorem changes_dispatchUnicastLoop (accepts : Nat → Bool) (deviceId : DeviceId)
    (payload : List UInt8) (fuel attempt : Nat) (downgradedL2cap : Option BleChannelId)
    (failures : ∀ channelId ∈ unicastFailures accepts deviceId payload fuel attempt downgradedL2cap task,
      channelId ∈ failedSends start turn) :
    Changes start turn task (BleRuntimeTask.dispatchUnicastLoop accepts deviceId payload fuel attempt
      downgradedL2cap task) := by
  induction fuel generalizing attempt downgradedL2cap task with
  | zero => exact .refl
  | succ fuel ih =>
      unfold BleRuntimeTask.dispatchUnicastLoop
      unfold unicastFailures at failures
      cases search : task.egressSessionForDevice deviceId with
      | none => exact .refl
      | some session =>
          have sent := sendViaSession_quiet task (accepts attempt) session payload
          simp only [search] at failures
          dsimp only
          refine .head (.quiet sent) ?_
          split
          · exact .refl
          · rename_i channelId rejected
            simp only [rejected] at failures
            split
            · exact .refl
            · rename_i first
              rw [if_neg first] at failures
              obtain ⟨held, rfl⟩ := l2cap_of_rejected rejected
              obtain ⟨nodeId, sessions, known, preferred, -⟩ := preferred_of_egressSession search
              rw [← sent.sessions] at known
              refine .head (.close channelId (Or.inr ⟨failures channelId (by simp), nodeId, held,
                sessions, known, preferred⟩)) (ih _ _ ?_)
              exact fun other member => failures other (List.mem_cons_of_mem _ member)

theorem changes_notify (payload : List UInt8) (receivers : List NodeId)
    (deviceIds notifyDeviceIds targets : List DeviceId)
    (multicasts : Multicasts turn receivers)
    (subscribers : task.notifySubscriberDeviceIds receivers = some deviceIds)
    (platform : platformNotifyDeviceIds task.targetOs task.sessions receivers deviceIds =
      some notifyDeviceIds)
    (chosen : ∀ deviceId ∈ targets, deviceId ∈ notifyDeviceIds) :
    Changes start turn task (targets.foldl (fun task deviceId => task.perform
      (.notifyCharacteristic deviceId jacquardP2cCharUuid payload receivers)) task) := by
  induction targets generalizing task with
  | nil => exact .refl
  | cons deviceId rest ih =>
      refine .head (.notify deviceId payload receivers deviceIds notifyDeviceIds subscribers platform
        (chosen deviceId (by simp)) multicasts) ?_
      exact ih subscribers platform fun other member => chosen other (by simp [member])

theorem changes_dispatchOutboundBatch {dispatched : List BleOutboundCommand}
    (event : turn.event = .command (.dispatch dispatched)) (accepts : Nat → Nat → Bool)
    (position : Nat) (batch : List BleOutboundCommand) (within : batch ⊆ dispatched)
    (failures : ∀ channelId ∈ batchFailures accepts position batch task,
      channelId ∈ failedSends start turn) :
    Changes start turn task (BleRuntimeTask.dispatchOutboundBatch accepts position batch task) := by
  induction batch generalizing position task with
  | nil => exact .refl
  | cons command rest ih =>
      obtain ⟨member, within⟩ := List.cons_subset.mp within
      have rest := ih (position + 1) within fun other member =>
        failures other (List.mem_append_right _ member)
      have ofCommand (channelId : BleChannelId)
          (member : channelId ∈ commandFailures task (accepts position) command) :=
        failures channelId (List.mem_append_left _ member)
      apply Relation.ReflTransGen.trans ?_ rest
      unfold BleRuntimeTask.dispatchOutboundCommand
      split
      · rename_i endpoint intent
        unfold BleRuntimeTask.dispatchUnicastCommand
        split
        · exact .refl
        · rename_i deviceId located
          apply changes_dispatchUnicastLoop
          simpa only [commandFailures, intent, located] using ofCommand
      · rename_i endpoint groupId receivers intent
        unfold BleRuntimeTask.dispatchMulticastCommand
        split
        · exact .refl
        · split
          · exact .refl
          · rename_i deviceIds subscribers
            split
            · exact .refl
            · rename_i notifyDeviceIds platform
              exact changes_notify _ receivers deviceIds notifyDeviceIds notifyDeviceIds
                ⟨dispatched, command, endpoint, groupId, event, member, intent⟩ subscribers platform
                fun _ member => member
      · exact .refl

theorem handle_changes (start : BleRuntimeTask δ) (turn : Turn) :
    Changes start turn start (start.handle turn) := by
  unfold BleRuntimeTask.handle
  cases event : turn.event with
  | restoredDevice device => exact changes_handleRestoredDevice event
  | startup => exact changes_quiet (.tryStartup start turn.backend)
  | command command =>
      cases command with
      | dispatch batch =>
          apply changes_dispatchOutboundBatch event _ _ _ (List.Subset.refl batch)
          simp [failedSends, event]
      | shutdown => exact .refl
  | central central =>
      cases central with
      | adapterStateChanged powered =>
          simp only [BleRuntimeTask.handleCentralEvent]
          refine .head (.quiet (.startup start
            (start.startup.centralPowerChanged (AdapterPowerState.ofBool powered)))) ?_
          split
          · exact changes_quiet (.tryStartup _ _)
          · exact .refl
      | deviceDiscovered device => exact changes_handleDeviceDiscovered device
      | deviceConnected deviceId => exact changes_handleDeviceConnected event
      | deviceDisconnected deviceId cause => exact .single (.disconnect deviceId cause event rfl)
      | characteristicNotification deviceId charUuid value =>
          exact changes_handleCharacteristicNotification deviceId charUuid value
  | peripheralState state =>
      cases state with
      | subscriptionChanged clientId charUuid subscribed =>
          simp only [BleRuntimeTask.handlePeripheralStateEvent]
          split
          · rename_i isP2c
            subst isP2c
            cases subscribed with
            | true => exact .single (.subscribe clientId event rfl)
            | false => exact .single (.unsubscribe clientId event rfl)
          · exact .refl
      | adapterStateChanged powered =>
          simp only [BleRuntimeTask.handlePeripheralStateEvent]
          refine .head (.quiet (.startup start
            (start.startup.peripheralPowerChanged (AdapterPowerState.ofBool powered)))) ?_
          split
          · exact changes_quiet (.tryStartup _ _)
          · exact .refl
  | peripheralRequest request => exact changes_handlePeripheralRequest request
  | l2capAccept accepted => exact changes_handleL2capAccept event
  | l2cap l2capEvent => exact changes_handleL2capRuntimeEvent event
  | retryDeferredControl => exact .refl

theorem handle_of_admits {deviceId : DeviceId} {nodeId : NodeId}
    (admits : Admits start turn deviceId nodeId) :
    ∃ called, QuietStep start called ∧ start.handle turn =
      called.installResolvedPeer turn.backend (BlePeerKey.ofDevice deviceId) nodeId deviceId := by
  have reads (task : BleRuntimeTask δ) :
      QuietStep task (task.readFrom turn.backend deviceId jacquardNodeIdCharUuid) :=
    .perform _ _ trivial
  obtain ⟨read, ⟨event, hint, hinted, matched⟩ | ⟨device, event, rfl, hintless, claimed⟩⟩ := admits
  · refine ⟨_, reads start, ?_⟩
    have known : PeerDirectory.identityState
        (start.readFrom turn.backend deviceId jacquardNodeIdCharUuid).peers
        (BlePeerKey.ofDevice deviceId) = some (.hint hint) := hinted
    simp [BleRuntimeTask.handle, event, BleRuntimeTask.handleCentralEvent,
      BleRuntimeTask.handleDeviceConnected, read, known, matched]
  · refine ⟨_, (QuietStep.perform start (.connect device.id) trivial).trans (reads _), ?_⟩
    simp [BleRuntimeTask.handle, event, BleRuntimeTask.handleRestoredDevice, hintless, claimed, read]

theorem eq_launch_of_new {targetOs : TargetOs} {localNodeId : NodeId} {config : BleConfig}
    {restoredState : BleRestoredState} {initial : BleRuntimeTask δ}
    (created : BleRuntimeTask.new targetOs localNodeId config restoredState = .ok initial) :
    initial = .launch targetOs localNodeId config restoredState := by
  unfold BleRuntimeTask.new at created
  split_ifs at created
  exact (Except.ok.inj created).symm

/-- What every change of a turn carries over holds after the turn. -/
theorem step_induction {P : BleRuntimeTask δ → Prop} (task : BleRuntimeTask δ) (turn : Turn)
    (start : P { task with outbox := [] })
    (change : ∀ before after, Change { task with outbox := [] } turn before after → P before →
      P after) :
    P (task.step turn) := by
  have changes := handle_changes { task with outbox := [] } turn
  unfold BleRuntimeTask.step
  generalize ({ task with outbox := [] } : BleRuntimeTask δ).handle turn = final at changes
  induction changes with
  | refl => exact start
  | tail _ last ih => exact change _ _ last ih

end

end JqBle.Proof.LinkProfile
