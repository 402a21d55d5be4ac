import JqBle.LinkProfile.Handshake
import JqBle.Proof.LinkProfile.BatchDispatch
import JqBle.Proof.LinkProfile.Startup

/-!
# Which turns send payloads and which open channels

Payloads are sent by the handler of a batch only, and a channel is opened only by the handler that has
read the identity of its peer. Whatever else the runtime performs belongs to neither kind, so most
handlers are gone through once for both.
-/

namespace JqBle.Proof.LinkProfile
open Std Host Library Execution JqBle.LinkProfile

/-! ## Kinds of effects -/

def opensChannel : Effect → Bool
  | .openL2capChannel .. => true
  | _ => false

/-- Nothing but payloads to the radio and opened channels are of this kind. -/
def Particular (kind : Effect → Bool) : Prop :=
  ∀ effect, isRadioPath effect = false → opensChannel effect = false → kind effect = false

theorem particular_radio : Particular isRadioPath := fun _ silent _ => silent

theorem particular_opens : Particular opensChannel := fun _ _ silent => silent

section Handlers
variable {δ : Type} {kind : Effect → Bool} (particular : Particular kind)

def ofKind (kind : Effect → Bool) (task : BleRuntimeTask δ) : List Effect := task.outbox.filter kind

theorem ofKind_perform (task : BleRuntimeTask δ) {effect : Effect} (silent : kind effect = false) :
    ofKind kind (task.perform effect) = ofKind kind task := by
  simp [ofKind, BleRuntimeTask.perform, silent]

include particular

theorem ofKind_ordinary (task : BleRuntimeTask δ) {effect : Effect}
    (path : isRadioPath effect = false) (opens : opensChannel effect = false) :
    ofKind kind (task.perform effect) = ofKind kind task :=
  ofKind_perform task (particular effect path opens)

theorem ofKind_refreshGattCache (task : BleRuntimeTask δ) (deviceId : DeviceId) :
    ofKind kind (task.refreshGattCache deviceId) = ofKind kind task := by
  unfold BleRuntimeTask.refreshGattCache
  split
  · exact ofKind_ordinary particular task rfl rfl
  · rfl

theorem ofKind_installL2capSession (task : BleRuntimeTask δ) (nodeId : NodeId)
    (deviceId : DeviceId) :
    ofKind kind (task.installL2capSession nodeId deviceId) = ofKind kind task :=
  (ofKind_ordinary particular _ rfl rfl).trans (ofKind_ordinary particular task rfl rfl)

theorem ofKind_handleL2capChannelClosed (task : BleRuntimeTask δ) (channelId : BleChannelId) :
    ofKind kind (task.handleL2capChannelClosed channelId) = ofKind kind task := by
  unfold BleRuntimeTask.handleL2capChannelClosed
  split
  · rfl
  · dsimp only
    split
    · rfl
    · split
      · rfl
      · exact ofKind_ordinary particular _ rfl rfl

theorem ofKind_emitFaultedLinksForDevice (task : BleRuntimeTask δ) (nodeId : NodeId)
    (deviceId : DeviceId) :
    ofKind kind (task.emitFaultedLinksForDevice nodeId deviceId) = ofKind kind task := by
  have faults (endpoints : List LinkEndpoint) (before : BleRuntimeTask δ) :
      ofKind kind (endpoints.foldl (fun task endpoint =>
        task.emitControlEvent (rawBleLinkFaultedEvent nodeId endpoint)) before) =
          ofKind kind before := by
    induction endpoints generalizing before with
    | nil => rfl
    | cons endpoint rest ih =>
        rw [List.foldl_cons, ih]
        exact ofKind_ordinary particular before rfl rfl
  unfold BleRuntimeTask.emitFaultedLinksForDevice
  split
  · rfl
  · exact faults _ task

theorem ofKind_tryStartup (task : BleRuntimeTask δ) (backend : Backend) :
    ofKind kind (task.tryStartup backend) = ofKind kind task := by
  have listener : ofKind kind (task.tryStartL2capListener backend) = ofKind kind task := by
    rw [tryStartL2capListener_eq]
    split
    · exact ofKind_ordinary particular task rfl rfl
    · rfl
  have service (before : BleRuntimeTask δ) :
      ofKind kind (before.tryStartGattService backend) = ofKind kind before := by
    rw [tryStartGattService_eq]
    split
    · split
      · rfl
      · exact ofKind_ordinary particular before rfl rfl
    · rfl
  have advertising (before : BleRuntimeTask δ) :
      ofKind kind (before.tryStartAdvertising backend) = ofKind kind before := by
    rw [tryStartAdvertising_eq]
    split
    · exact ofKind_ordinary particular before rfl rfl
    · rfl
  have scan (before : BleRuntimeTask δ) :
      ofKind kind (before.tryStartScan backend) = ofKind kind before := by
    rw [tryStartScan_eq]
    split
    · exact ofKind_ordinary particular before rfl rfl
    · rfl
  have started : ofKind kind (((task.tryStartL2capListener backend).tryStartGattService
      backend).tryStartAdvertising backend) = ofKind kind task := by
    rw [advertising, service, listener]
  unfold BleRuntimeTask.tryStartup
  dsimp only
  split
  · rw [scan]
    split
    · exact started
    · rfl
  · split
    · exact started
    · rfl

theorem ofKind_handleSubscriptionChanged [PeerDirectory δ BlePeerKey DiscoveredPeerHint]
    (task : BleRuntimeTask δ) (backend : Backend) (clientId : DeviceId) (charUuid : Uuid)
    (subscribed : Bool) :
    ofKind kind (task.handlePeripheralStateEvent backend
      (.subscriptionChanged clientId charUuid subscribed)) = ofKind kind task := by
  simp only [BleRuntimeTask.handlePeripheralStateEvent, BleRuntimeTask.handleP2cSubscription,
    BleRuntimeTask.handleP2cUnsubscription]
  split
  · split
    · split
      · rfl
      · exact ofKind_ordinary particular _ rfl rfl
    · split
      · rfl
      · split
        · rfl
        · split
          · exact ofKind_ordinary particular _ rfl rfl
          · rfl
  · rfl

variable [PeerDirectory δ BlePeerKey DiscoveredPeerHint]

theorem ofKind_handleDeviceDiscovered (task : BleRuntimeTask δ) (backend : Backend)
    (device : BleDevice) :
    ofKind kind (task.handleDeviceDiscovered backend device) = ofKind kind task := by
  unfold BleRuntimeTask.handleDeviceDiscovered
  split
  · rfl
  · dsimp only
    split
    · exact ofKind_ordinary particular _ rfl rfl
    · rfl

theorem ofKind_handleDeviceDisconnected (task : BleRuntimeTask δ) (deviceId : DeviceId)
    (cause : DisconnectCause) :
    ofKind kind (task.handleDeviceDisconnected deviceId cause) = ofKind kind task := by
  have recovered (kept : BleRuntimeTask δ) :
      ofKind kind (kept.handleDisconnectRecovery deviceId cause) = ofKind kind kept := by
    cases cause with
    | gatt133 => exact ofKind_refreshGattCache particular kept deviceId
    | _ => rfl
  have faulted (kept : BleRuntimeTask δ) (nodeId : NodeId) :
      ofKind kind ((kept.emitFaultedLinksForDevice nodeId deviceId).dropL2capChannelsForNode nodeId) =
        ofKind kind kept :=
    ofKind_emitFaultedLinksForDevice particular kept nodeId deviceId
  unfold BleRuntimeTask.handleDeviceDisconnected
  dsimp only
  rw [recovered]
  show ofKind kind _ = _
  split
  · exact faulted _ _
  · rfl

theorem ofKind_handlePeripheralRequest (task : BleRuntimeTask δ) (request : PeripheralRequest) :
    ofKind kind (task.handlePeripheralRequest request) = ofKind kind task := by
  have plain (before : BleRuntimeTask δ) :
      ofKind kind (before.perform .respondError) = ofKind kind before :=
    ofKind_ordinary particular before rfl rfl
  cases request with
  | read clientId charUuid =>
      simp only [BleRuntimeTask.handlePeripheralRequest]
      split
      · exact ofKind_ordinary particular task rfl rfl
      · split
        · split
          · exact ofKind_ordinary particular task rfl rfl
          · exact plain task
        · exact plain task
  | write clientId charUuid value hasResponder =>
      simp only [BleRuntimeTask.handlePeripheralRequest, BleRuntimeTask.handleC2pWrite]
      split
      · split
        · split
          · exact (ofKind_ordinary particular _ rfl rfl).trans (ofKind_ordinary particular task rfl rfl)
          · exact ofKind_ordinary particular task rfl rfl
        · split
          · exact plain task
          · rfl
      · split
        · exact plain task
        · rfl

/-- Neither kind is performed by a handler that reads no identity and dispatches no batch. -/
theorem ofKind_step (task : BleRuntimeTask δ) {turn : Turn}
    (undispatched : ∀ command, turn.event ≠ .command command)
    (unconnected : ∀ deviceId, turn.event ≠ .central (.deviceConnected deviceId))
    (looped : ∀ device, turn.event ≠ .restoredDevice device) :
    ofKind kind (task.step turn) = [] := by
  obtain ⟨event, backend⟩ := turn
  show ofKind kind (BleRuntimeTask.handle { task with outbox := [] } ⟨event, backend⟩) =
    ofKind kind { task with outbox := [] }
  cases event with
  | restoredDevice device => exact absurd rfl (looped device)
  | startup => exact ofKind_tryStartup particular _ backend
  | command command => exact absurd rfl (undispatched command)
  | central event =>
      cases event with
      | adapterStateChanged powered =>
          cases powered with
          | true => exact ofKind_tryStartup particular _ backend
          | false => rfl
      | deviceDiscovered device => exact ofKind_handleDeviceDiscovered particular _ backend device
      | deviceConnected deviceId => exact absurd rfl (unconnected deviceId)
      | deviceDisconnected deviceId cause =>
          exact ofKind_handleDeviceDisconnected particular _ deviceId cause
      | characteristicNotification deviceId charUuid value =>
          simp only [BleRuntimeTask.handle, BleRuntimeTask.handleCentralEvent,
            BleRuntimeTask.handleCharacteristicNotification]
          split
          · rfl
          · split
            · rfl
            · exact ofKind_ordinary particular _ rfl rfl
  | peripheralState event =>
      cases event with
      | adapterStateChanged powered =>
          cases powered with
          | true => exact ofKind_tryStartup particular _ backend
          | false => rfl
      | subscriptionChanged clientId charUuid subscribed =>
          exact ofKind_handleSubscriptionChanged particular _ backend clientId charUuid subscribed
  | peripheralRequest request => exact ofKind_handlePeripheralRequest particular _ request
  | l2capAccept accepted =>
      simp only [BleRuntimeTask.handle, BleRuntimeTask.handleL2capAccept]
      split
      · rfl
      · split
        · rfl
        · split
          · rfl
          · exact ofKind_installL2capSession particular _ _ _
  | l2cap event =>
      cases event with
      | frameReceived channelId payload =>
          simp only [BleRuntimeTask.handle, BleRuntimeTask.handleL2capRuntimeEvent]
          split
          · rfl
          · exact ofKind_ordinary particular _ rfl rfl
      | channelClosed channelId => exact ofKind_handleL2capChannelClosed particular _ channelId
  | retryDeferredControl => rfl

end Handlers

/-! ## Payloads -/

section Payloads
variable {δ : Type}

theorem radio_tryUpgradeL2cap (task : BleRuntimeTask δ) (backend : Backend) (nodeId : NodeId)
    (deviceId : DeviceId) :
    ofKind isRadioPath (task.tryUpgradeL2cap backend nodeId deviceId) = ofKind isRadioPath task := by
  have read : ofKind isRadioPath (task.readFrom backend deviceId jacquardPsmCharUuid) =
      ofKind isRadioPath task := ofKind_perform task rfl
  unfold BleRuntimeTask.tryUpgradeL2cap
  dsimp only
  split
  · exact read
  · split
    · rw [ofKind_perform _ rfl, read]
    · split
      · rw [ofKind_installL2capSession particular_radio, ofKind_perform _ rfl, ofKind_perform _ rfl,
          read]
      · rw [ofKind_perform _ rfl, ofKind_perform _ rfl, read]

variable [PeerDirectory δ BlePeerKey DiscoveredPeerHint]

theorem radio_installResolvedPeer (task : BleRuntimeTask δ) (backend : Backend) (key : BlePeerKey)
    (nodeId : NodeId) (deviceId : DeviceId) :
    ofKind isRadioPath (task.installResolvedPeer backend key nodeId deviceId) =
      ofKind isRadioPath task := by
  unfold BleRuntimeTask.installResolvedPeer
  dsimp only
  rw [radio_tryUpgradeL2cap]
  exact (ofKind_perform _ rfl).trans (ofKind_perform _ rfl)

/-- Only the handler of a batch sends payloads. -/
theorem radio_step_of_not_command (task : BleRuntimeTask δ) {turn : Turn}
    (other : ∀ command, turn.event ≠ .command command) :
    ofKind isRadioPath (task.step turn) = [] := by
  obtain ⟨event, backend⟩ := turn
  by_cases connected : ∃ deviceId, event = .central (.deviceConnected deviceId)
  · obtain ⟨deviceId, rfl⟩ := connected
    show ofKind isRadioPath (BleRuntimeTask.handleDeviceConnected _ backend deviceId) = []
    unfold BleRuntimeTask.handleDeviceConnected
    dsimp only
    split
    · rw [ofKind_refreshGattCache particular_radio]
      rfl
    · split
      · split
        · rw [radio_installResolvedPeer]
          rfl
        · rfl
      · rfl
  by_cases restored : ∃ device, event = .restoredDevice device
  · obtain ⟨device, rfl⟩ := restored
    show ofKind isRadioPath (BleRuntimeTask.handleRestoredDevice _ backend device) = []
    unfold BleRuntimeTask.handleRestoredDevice
    split
    · rw [ofKind_handleDeviceDiscovered particular_radio]
      rfl
    · split
      · dsimp only
        split
        · rw [radio_installResolvedPeer]
          rfl
        · rw [ofKind_refreshGattCache particular_radio]
          rfl
      · rfl
  apply ofKind_step particular_radio task other
  · exact fun deviceId event => connected ⟨deviceId, event⟩
  · exact fun device event => restored ⟨device, event⟩

end Payloads

/-! ## Opened channels -/

section Openings
variable {δ : Type}

def openings (backend : Backend) (deviceId : DeviceId) : List Effect :=
  (backend.resolveRemotePsm deviceId).toList.map (Effect.openL2capChannel deviceId)

theorem openings_tryUpgradeL2cap (task : BleRuntimeTask δ) (backend : Backend) (nodeId : NodeId)
    (deviceId : DeviceId) :
    ofKind opensChannel (task.tryUpgradeL2cap backend nodeId deviceId) =
      ofKind opensChannel task ++ openings backend deviceId := by
  have read : ofKind opensChannel (task.readFrom backend deviceId jacquardPsmCharUuid) =
      ofKind opensChannel task := ofKind_perform task rfl
  have opened (psm : Psm) : ofKind opensChannel
      ((task.readFrom backend deviceId jacquardPsmCharUuid).perform (.openL2capChannel deviceId psm)) =
        ofKind opensChannel task ++ [.openL2capChannel deviceId psm] := by
    rw [← read]
    simp [ofKind, BleRuntimeTask.perform, opensChannel]
  unfold BleRuntimeTask.tryUpgradeL2cap openings
  cases backend.resolveRemotePsm deviceId with
  | none => simpa using read
  | some psm =>
      dsimp only
      split
      · exact opened psm
      · split
        · rw [ofKind_installL2capSession particular_opens, ofKind_perform _ rfl]
          exact opened psm
        · rw [ofKind_perform _ rfl]
          exact opened psm

theorem openings_dispatchUnicastLoop (accepts : Nat → Bool) (deviceId : DeviceId)
    (payload : List UInt8) (fuel attempt : Nat) (downgradedL2cap : Option BleChannelId)
    (task : BleRuntimeTask δ) :
    ofKind opensChannel (BleRuntimeTask.dispatchUnicastLoop accepts deviceId payload fuel attempt
      downgradedL2cap task) = ofKind opensChannel task := by
  have sent (before : BleRuntimeTask δ) (accepted : Bool) (session : BleSession) :
      ofKind opensChannel (before.sendViaSession accepted session payload).1 =
        ofKind opensChannel before := by
    unfold BleRuntimeTask.sendViaSession
    cases session with
    | gattCentral deviceId => exact ofKind_perform before rfl
    | l2cap deviceId channelId =>
        dsimp only
        split
        · exact ofKind_perform before rfl
        · rfl
  induction fuel generalizing attempt downgradedL2cap task with
  | zero => rfl
  | succ fuel ih =>
      unfold BleRuntimeTask.dispatchUnicastLoop
      split
      · rfl
      · dsimp only
        split
        · exact sent ..
        · split
          · exact sent ..
          · rw [ih, ofKind_handleL2capChannelClosed particular_opens, sent]

theorem openings_dispatchOutboundBatch (accepts : Nat → Nat → Bool) (position : Nat)
    (batch : List BleOutboundCommand) (task : BleRuntimeTask δ) :
    ofKind opensChannel (BleRuntimeTask.dispatchOutboundBatch accepts position batch task) =
      ofKind opensChannel task := by
  have notified (deviceIds : List DeviceId) (payload : List UInt8) (receivers : List NodeId)
      (before : BleRuntimeTask δ) :
      ofKind opensChannel (deviceIds.foldl (fun task deviceId => task.perform
        (.notifyCharacteristic deviceId jacquardP2cCharUuid payload receivers)) before) =
          ofKind opensChannel before := by
    induction deviceIds generalizing before with
    | nil => rfl
    | cons deviceId rest ih =>
        rw [List.foldl_cons, ih]
        exact ofKind_perform before rfl
  induction batch generalizing position task with
  | nil => rfl
  | cons command rest ih =>
      rw [BleRuntimeTask.dispatchOutboundBatch, ih, BleRuntimeTask.dispatchOutboundCommand]
      cases command.intent with
      | unicast endpoint =>
          dsimp only [BleRuntimeTask.dispatchUnicastCommand]
          split
          · rfl
          · exact openings_dispatchUnicastLoop ..
      | multicast endpoint group receivers =>
          dsimp only [BleRuntimeTask.dispatchMulticastCommand]
          split
          · rfl
          · split
            · rfl
            · split
              · rfl
              · exact notified ..
      | broadcast domain => rfl

variable [PeerDirectory δ BlePeerKey DiscoveredPeerHint]

theorem openings_installResolvedPeer (task : BleRuntimeTask δ) (backend : Backend) (key : BlePeerKey)
    (nodeId : NodeId) (deviceId : DeviceId) :
    ofKind opensChannel (task.installResolvedPeer backend key nodeId deviceId) =
      ofKind opensChannel task ++ openings backend deviceId := by
  unfold BleRuntimeTask.installResolvedPeer
  dsimp only
  rw [openings_tryUpgradeL2cap]
  congr 1
  exact (ofKind_perform _ rfl).trans (ofKind_perform _ rfl)

theorem openings_handleDeviceConnected (task : BleRuntimeTask δ) (backend : Backend)
    (deviceId : DeviceId) :
    ofKind opensChannel (task.handleDeviceConnected backend deviceId) =
      ofKind opensChannel task ++
        if HandshakePair.installs task ⟨.central (.deviceConnected deviceId), backend⟩ deviceId then
          openings backend deviceId
        else [] := by
  have read : ofKind opensChannel (task.readFrom backend deviceId jacquardNodeIdCharUuid) =
      ofKind opensChannel task := ofKind_perform task rfl
  have peers : (task.readFrom backend deviceId jacquardNodeIdCharUuid).peers = task.peers := rfl
  unfold BleRuntimeTask.handleDeviceConnected HandshakePair.installs
  cases backend.resolveRemoteNodeId deviceId with
  | error error =>
      simp only [Bool.false_eq_true, if_false, List.append_nil]
      rw [ofKind_refreshGattCache particular_opens, read]
  | ok nodeId =>
      simp only [peers]
      cases PeerDirectory.identityState task.peers (BlePeerKey.ofDevice deviceId) with
      | none => simpa using read
      | some identity =>
          cases identity with
          | resolved other => simpa using read
          | hint hint =>
              dsimp only
              split
              · rw [openings_installResolvedPeer, read]
              · rw [List.append_nil]
                exact (ofKind_perform _ rfl).trans read

theorem openings_handleRestoredDevice (task : BleRuntimeTask δ) (backend : Backend)
    (device : BleDevice) :
    ofKind opensChannel (task.handleRestoredDevice backend device) =
      ofKind opensChannel task ++
        if (parseDiscoveryHint device.services).isNone && backend.claims then
          if HandshakePair.installs task ⟨.restoredDevice device, backend⟩ device.id then
            openings backend device.id
          else []
        else [] := by
  have read : ofKind opensChannel ((task.perform (.connect device.id)).readFrom backend device.id
      jacquardNodeIdCharUuid) = ofKind opensChannel task :=
    (ofKind_perform _ rfl).trans (ofKind_perform task rfl)
  unfold BleRuntimeTask.handleRestoredDevice HandshakePair.installs
  cases parseDiscoveryHint device.services with
  | some hint =>
      simp [ofKind_handleDeviceDiscovered particular_opens]
  | none =>
      cases backend.claims with
      | false => simp
      | true =>
          cases backend.resolveRemoteNodeId device.id with
          | error error => simp [ofKind_refreshGattCache particular_opens, read]
          | ok nodeId => simp [openings_installResolvedPeer, read]

/-- A handler that reads the identity of a peer opens a channel to it if it installs the peer and reads
a PSM, and no other handler opens one. -/
theorem openings_step (task : BleRuntimeTask δ) (turn : Turn) :
    ofKind opensChannel (task.step turn) =
      match HandshakePair.opensWith turn with
      | some deviceId =>
          if HandshakePair.installs task turn deviceId then openings turn.backend deviceId else []
      | none => [] := by
  obtain ⟨event, backend⟩ := turn
  have empty : ofKind opensChannel { task with outbox := [] } = [] := rfl
  by_cases connected : ∃ deviceId, event = .central (.deviceConnected deviceId)
  · obtain ⟨deviceId, rfl⟩ := connected
    exact openings_handleDeviceConnected { task with outbox := [] } backend deviceId
  by_cases restored : ∃ device, event = .restoredDevice device
  · obtain ⟨device, rfl⟩ := restored
    have handled := openings_handleRestoredDevice { task with outbox := [] } backend device
    rw [empty, List.nil_append] at handled
    refine handled.trans ?_
    unfold HandshakePair.opensWith
    dsimp only
    split
    · rfl
    · rfl
  have neither : HandshakePair.opensWith ⟨event, backend⟩ = none := by
    unfold HandshakePair.opensWith
    split
    · rename_i deviceId event
      exact absurd ⟨deviceId, event⟩ connected
    · rename_i device event
      exact absurd ⟨device, event⟩ restored
    · rfl
  rw [neither]
  by_cases dispatched : ∃ command, event = .command command
  · obtain ⟨command, rfl⟩ := dispatched
    cases command with
    | dispatch batch => exact openings_dispatchOutboundBatch backend.l2capSend 0 batch _
    | shutdown => rfl
  · apply ofKind_step particular_opens task
    · exact fun command event => dispatched ⟨command, event⟩
    · exact fun deviceId event => connected ⟨deviceId, event⟩
    · exact fun device event => restored ⟨device, event⟩

end Openings

end JqBle.Proof.LinkProfile
