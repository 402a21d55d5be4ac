import JqBle.Proof.LinkProfile.Scenario

/-!
# The startup machine over whole runs

The four startup steps, the PSM and the radio's service table are touched by three kinds of turns
only: the two power events and the calls of `try_startup`. `StartupRecord` keeps beside the task what
the radio has reported and registered so far, which the task itself does not remember; each `try_start`
function is one conditional update.
-/

namespace JqBle.Proof.LinkProfile
open Std Host Library Execution JqBle.LinkProfile

variable {δ : Type}

/-! ## Turns that leave the startup machine alone -/

def ofStartup : Effect → Bool
  | .l2capListener | .addService _ => true
  | _ => false

/-- Nothing the startup machine reads or writes has changed. -/
structure StartupFrame (before after : BleRuntimeTask δ) : Prop where
  startup : after.startup = before.startup
  localPsm : after.localPsm = before.localPsm
  localNodeId : after.localNodeId = before.localNodeId
  restoredState : after.restoredState = before.restoredState
  outbox : after.outbox.filter ofStartup = before.outbox.filter ofStartup

namespace StartupFrame

theorem refl (task : BleRuntimeTask δ) : StartupFrame task task := ⟨rfl, rfl, rfl, rfl, rfl⟩

theorem trans {first second third : BleRuntimeTask δ} (before : StartupFrame first second)
    (after : StartupFrame second third) : StartupFrame first third :=
  ⟨after.startup.trans before.startup, after.localPsm.trans before.localPsm,
    after.localNodeId.trans before.localNodeId, after.restoredState.trans before.restoredState,
    after.outbox.trans before.outbox⟩

theorem tables (task : BleRuntimeTask δ) (peers : δ) (sessions : ExtTreeMap NodeId PeerSessions)
    (l2capChannels : ExtTreeMap BleChannelId ActiveL2capChannel) :
    StartupFrame task { task with
      peers := peers, sessions := sessions, l2capChannels := l2capChannels } :=
  ⟨rfl, rfl, rfl, rfl, rfl⟩

theorem perform (task : BleRuntimeTask δ) {effect : Effect} (other : ofStartup effect = false) :
    StartupFrame task (task.perform effect) := by
  refine ⟨rfl, rfl, rfl, rfl, ?_⟩
  simp [BleRuntimeTask.perform, other]

theorem performed {before after : BleRuntimeTask δ} (frame : StartupFrame before after)
    {effect : Effect} (other : ofStartup effect = false) :
    StartupFrame before (after.perform effect) :=
  frame.trans (perform after other)

theorem refreshGattCache (task : BleRuntimeTask δ) (deviceId : DeviceId) :
    StartupFrame task (task.refreshGattCache deviceId) := by
  unfold BleRuntimeTask.refreshGattCache
  split
  · exact perform task rfl
  · exact refl task

theorem installL2capSession (task : BleRuntimeTask δ) (nodeId : NodeId) (deviceId : DeviceId) :
    StartupFrame task (task.installL2capSession nodeId deviceId) := by
  refine ⟨rfl, rfl, rfl, rfl, ?_⟩
  simp [BleRuntimeTask.installL2capSession, BleRuntimeTask.registerL2capChannel,
    BleRuntimeTask.emitLinkObserved, BleRuntimeTask.emitControlEvent, BleRuntimeTask.perform,
    ofStartup]

theorem handleL2capChannelClosed (task : BleRuntimeTask δ) (channelId : BleChannelId) :
    StartupFrame task (task.handleL2capChannelClosed channelId) := by
  unfold BleRuntimeTask.handleL2capChannelClosed
  split
  · exact refl task
  · dsimp only
    split
    · exact tables ..
    · split
      · exact tables ..
      · apply performed ?_ rfl
        exact tables ..

theorem tryUpgradeL2cap (task : BleRuntimeTask δ) (backend : Backend) (nodeId : NodeId)
    (deviceId : DeviceId) : StartupFrame task (task.tryUpgradeL2cap backend nodeId deviceId) := by
  have read : StartupFrame task (task.readFrom backend deviceId jacquardPsmCharUuid) :=
    perform task rfl
  unfold BleRuntimeTask.tryUpgradeL2cap
  dsimp only
  split
  · exact read
  · split
    · exact read.performed rfl
    · split
      · exact ((read.performed rfl).performed rfl).trans (installL2capSession _ nodeId deviceId)
      · exact (read.performed rfl).performed rfl

theorem handleL2capRuntimeEvent (task : BleRuntimeTask δ) (event : L2capRuntimeEvent) :
    StartupFrame task (task.handleL2capRuntimeEvent event) := by
  cases event with
  | channelClosed channelId => exact handleL2capChannelClosed task channelId
  | frameReceived channelId payload =>
      simp only [BleRuntimeTask.handleL2capRuntimeEvent]
      split
      · exact refl task
      · exact perform task rfl

theorem emitFaulted (task : BleRuntimeTask δ) (nodeId : NodeId) (endpoints : List LinkEndpoint) :
    StartupFrame task (endpoints.foldl (fun task endpoint =>
      task.emitControlEvent (rawBleLinkFaultedEvent nodeId endpoint)) task) := by
  induction endpoints generalizing task with
  | nil => exact refl task
  | cons endpoint rest ih => exact (perform task rfl).trans (ih _)

theorem emitFaultedLinksForDevice (task : BleRuntimeTask δ) (nodeId : NodeId)
    (deviceId : DeviceId) : StartupFrame task (task.emitFaultedLinksForDevice nodeId deviceId) := by
  unfold BleRuntimeTask.emitFaultedLinksForDevice
  split
  · exact refl task
  · exact emitFaulted task nodeId _

theorem sendViaSession (task : BleRuntimeTask δ) (accepted : Bool) (session : BleSession)
    (payload : List UInt8) :
    StartupFrame task (task.sendViaSession accepted session payload).1 := by
  unfold BleRuntimeTask.sendViaSession
  cases session with
  | gattCentral deviceId => exact perform task rfl
  | l2cap deviceId channelId =>
      dsimp only
      split
      · exact perform task rfl
      · exact refl task

theorem dispatchUnicastLoop (accepts : Nat → Bool) (deviceId : DeviceId) (payload : List UInt8)
    (fuel attempt : Nat) (downgradedL2cap : Option BleChannelId) (task : BleRuntimeTask δ) :
    StartupFrame task (BleRuntimeTask.dispatchUnicastLoop accepts deviceId payload fuel attempt
      downgradedL2cap task) := by
  induction fuel generalizing attempt downgradedL2cap task with
  | zero => exact refl task
  | succ fuel ih =>
      unfold BleRuntimeTask.dispatchUnicastLoop
      split
      · exact refl task
      · rename_i session search
        have sent := sendViaSession task (accepts attempt) session payload
        dsimp only
        split
        · exact sent
        · split
          · exact sent
          · exact (sent.trans (handleL2capChannelClosed _ _)).trans (ih _ _ _)

theorem notify (task : BleRuntimeTask δ) (payload : List UInt8) (receivers : List NodeId)
    (targets : List DeviceId) :
    StartupFrame task (targets.foldl (fun task deviceId => task.perform
      (.notifyCharacteristic deviceId jacquardP2cCharUuid payload receivers)) task) := by
  induction targets generalizing task with
  | nil => exact refl task
  | cons deviceId rest ih => exact (perform task rfl).trans (ih _)

theorem dispatchOutboundCommand (task : BleRuntimeTask δ) (accepts : Nat → Bool)
    (command : BleOutboundCommand) :
    StartupFrame task (task.dispatchOutboundCommand accepts command) := by
  unfold BleRuntimeTask.dispatchOutboundCommand
  split
  · unfold BleRuntimeTask.dispatchUnicastCommand
    split
    · exact refl task
    · exact dispatchUnicastLoop ..
  · unfold BleRuntimeTask.dispatchMulticastCommand
    split
    · exact refl task
    · split
      · exact refl task
      · split
        · exact refl task
        · exact notify ..
  · exact refl task

theorem dispatchOutboundBatch (accepts : Nat → Nat → Bool) (position : Nat)
    (batch : List BleOutboundCommand) (task : BleRuntimeTask δ) :
    StartupFrame task (BleRuntimeTask.dispatchOutboundBatch accepts position batch task) := by
  induction batch generalizing position task with
  | nil => exact refl task
  | cons command rest ih =>
      exact (dispatchOutboundCommand task (accepts position) command).trans (ih (position + 1) _)

section
variable [PeerDirectory δ BlePeerKey DiscoveredPeerHint]

theorem installResolvedPeer (task : BleRuntimeTask δ) (backend : Backend) (key : BlePeerKey)
    (nodeId : NodeId) (deviceId : DeviceId) :
    StartupFrame task (task.installResolvedPeer backend key nodeId deviceId) := by
  unfold BleRuntimeTask.installResolvedPeer
  dsimp only
  apply StartupFrame.trans ?_ (tryUpgradeL2cap _ backend nodeId deviceId)
  apply performed ?_ rfl
  refine ⟨rfl, rfl, rfl, rfl, ?_⟩
  simp [BleRuntimeTask.installGattSession, BleRuntimeTask.perform, ofStartup]

theorem handleDeviceDiscovered (task : BleRuntimeTask δ) (backend : Backend) (device : BleDevice) :
    StartupFrame task (task.handleDeviceDiscovered backend device) := by
  unfold BleRuntimeTask.handleDeviceDiscovered
  split
  · exact refl task
  · dsimp only
    split
    · apply performed ?_ rfl
      exact tables ..
    · exact tables ..

theorem handleDeviceConnected (task : BleRuntimeTask δ) (backend : Backend) (deviceId : DeviceId) :
    StartupFrame task (task.handleDeviceConnected backend deviceId) := by
  have read : StartupFrame task (task.readFrom backend deviceId jacquardNodeIdCharUuid) :=
    perform task rfl
  unfold BleRuntimeTask.handleDeviceConnected
  dsimp only
  split
  · exact read.trans (refreshGattCache _ deviceId)
  · split
    · split
      · exact read.trans (installResolvedPeer ..)
      · exact (read.performed rfl).trans (tables ..)
    · exact read

theorem handleDeviceDisconnected (task : BleRuntimeTask δ) (deviceId : DeviceId)
    (cause : DisconnectCause) :
    StartupFrame task (task.handleDeviceDisconnected deviceId cause) := by
  have recovered (kept : BleRuntimeTask δ) :
      StartupFrame kept (kept.handleDisconnectRecovery deviceId cause) := by
    cases cause with
    | gatt133 => exact refreshGattCache kept deviceId
    | _ => exact refl kept
  have faulted (kept : BleRuntimeTask δ) (nodeId : NodeId) : StartupFrame kept
      ((kept.emitFaultedLinksForDevice nodeId deviceId).dropL2capChannelsForNode nodeId) :=
    (emitFaultedLinksForDevice kept nodeId deviceId).trans (tables ..)
  unfold BleRuntimeTask.handleDeviceDisconnected
  dsimp only
  apply StartupFrame.trans ?_ (recovered _)
  apply StartupFrame.trans ?_ (tables ..)
  split
  · exact (tables ..).trans (faulted _ _)
  · exact tables ..

theorem handleRestoredDevice (task : BleRuntimeTask δ) (backend : Backend) (device : BleDevice) :
    StartupFrame task (task.handleRestoredDevice backend device) := by
  unfold BleRuntimeTask.handleRestoredDevice
  split
  · exact handleDeviceDiscovered task backend device
  · split
    · have read : StartupFrame task ((task.perform (.connect device.id)).readFrom backend device.id
          jacquardNodeIdCharUuid) := (perform task rfl).performed rfl
      dsimp only
      split
      · exact read.trans (installResolvedPeer ..)
      · exact read.trans (refreshGattCache _ device.id)
    · exact refl task

theorem handlePeripheralRequest (task : BleRuntimeTask δ) (request : PeripheralRequest) :
    StartupFrame task (task.handlePeripheralRequest request) := by
  cases request with
  | read clientId charUuid =>
      simp only [BleRuntimeTask.handlePeripheralRequest]
      split
      · exact perform task rfl
      · split
        · split
          · exact perform task rfl
          · exact perform task rfl
        · exact perform task rfl
  | write clientId charUuid value hasResponder =>
      simp only [BleRuntimeTask.handlePeripheralRequest, BleRuntimeTask.handleC2pWrite]
      split
      · split
        · split
          · exact (perform task rfl).performed rfl
          · exact perform task rfl
        · split
          · exact perform task rfl
          · exact refl task
      · split
        · exact perform task rfl
        · exact refl task

theorem handleSubscriptionChanged (task : BleRuntimeTask δ) (backend : Backend)
    (clientId : DeviceId) (charUuid : Uuid) (subscribed : Bool) :
    StartupFrame task (task.handlePeripheralStateEvent backend
      (.subscriptionChanged clientId charUuid subscribed)) := by
  simp only [BleRuntimeTask.handlePeripheralStateEvent, BleRuntimeTask.handleP2cSubscription,
    BleRuntimeTask.handleP2cUnsubscription]
  split
  · split
    · split
      · exact refl task
      · apply performed ?_ rfl
        exact tables ..
    · split
      · exact refl task
      · split
        · exact refl task
        · split
          · apply performed ?_ rfl
            exact tables ..
          · exact tables ..
  · exact refl task

theorem handleCharacteristicNotification (task : BleRuntimeTask δ) (deviceId : DeviceId)
    (charUuid : Uuid) (value : List UInt8) :
    StartupFrame task (task.handleCharacteristicNotification deviceId charUuid value) := by
  unfold BleRuntimeTask.handleCharacteristicNotification
  split
  · exact refl task
  · split
    · exact refl task
    · exact perform task rfl

theorem handleL2capAccept (task : BleRuntimeTask δ) (backend : Backend)
    (accepted : Except BlewError DeviceId) :
    StartupFrame task (task.handleL2capAccept backend accepted) := by
  unfold BleRuntimeTask.handleL2capAccept
  split
  · exact refl task
  · split
    · exact refl task
    · split
      · exact refl task
      · exact installL2capSession task _ _

end

end StartupFrame

/-! ## What a turn reports and registers -/

def startsUp : RuntimeEvent → Bool
  | .startup | .central (.adapterStateChanged true)
  | .peripheralState (.adapterStateChanged true) => true
  | _ => false

/-- The startup steps as the power event of the turn, if it is one, leaves them. -/
def poweredSteps (startup : BleStartupState) : RuntimeEvent → BleStartupState
  | .central (.adapterStateChanged powered) =>
      startup.centralPowerChanged (AdapterPowerState.ofBool powered)
  | .peripheralState (.adapterStateChanged powered) =>
      startup.peripheralPowerChanged (AdapterPowerState.ofBool powered)
  | _ => startup

section
variable [PeerDirectory δ BlePeerKey DiscoveredPeerHint]

theorem handle_of_startsUp {task : BleRuntimeTask δ} {turn : Turn}
    (starts : startsUp turn.event = true) :
    task.handle turn =
      BleRuntimeTask.tryStartup { task with startup := poweredSteps task.startup turn.event }
        turn.backend := by
  obtain ⟨event, backend⟩ := turn
  unfold startsUp at starts
  split at starts
  · rename_i event
    subst event
    rfl
  · rename_i event
    subst event
    rfl
  · rename_i event
    subst event
    rfl
  · cases starts

theorem handle_of_not_startsUp {task : BleRuntimeTask δ} {turn : Turn}
    (starts : startsUp turn.event = false) :
    StartupFrame { task with startup := poweredSteps task.startup turn.event }
      (task.handle turn) := by
  obtain ⟨event, backend⟩ := turn
  cases event with
  | restoredDevice device => exact .handleRestoredDevice task backend device
  | startup => cases starts
  | command command =>
      cases command with
      | dispatch batch => exact .dispatchOutboundBatch backend.l2capSend 0 batch task
      | shutdown => exact .refl task
  | central event =>
      cases event with
      | adapterStateChanged powered =>
          cases powered with
          | true => cases starts
          | false => exact .refl _
      | deviceDiscovered device => exact .handleDeviceDiscovered task backend device
      | deviceConnected deviceId => exact .handleDeviceConnected task backend deviceId
      | deviceDisconnected deviceId cause => exact .handleDeviceDisconnected task deviceId cause
      | characteristicNotification deviceId charUuid value =>
          exact .handleCharacteristicNotification task deviceId charUuid value
  | peripheralState event =>
      cases event with
      | adapterStateChanged powered =>
          cases powered with
          | true => cases starts
          | false => exact .refl _
      | subscriptionChanged clientId charUuid subscribed =>
          exact .handleSubscriptionChanged task backend clientId charUuid subscribed
  | peripheralRequest request => exact .handlePeripheralRequest task request
  | l2capAccept accepted => exact .handleL2capAccept task backend accepted
  | l2cap event => exact .handleL2capRuntimeEvent task event
  | retryDeferredControl => exact .refl task

end

def peripheralEventReport : RuntimeEvent → Option Bool
  | .peripheralState (.adapterStateChanged powered) => some powered
  | _ => none

def centralEventReport : RuntimeEvent → Option Bool
  | .central (.adapterStateChanged powered) => some powered
  | _ => none

/-- The definite power reports of the peripheral adapter in one turn, in order: the event, then the
answer to `is_powered`. -/
def peripheralReports (turn : Turn) : List Bool :=
  (peripheralEventReport turn.event).toList ++
    if startsUp turn.event then turn.backend.peripheralIsPowered.toOption.toList else []

def centralReports (turn : Turn) : List Bool :=
  (centralEventReport turn.event).toList ++
    if startsUp turn.event then turn.backend.centralIsPowered.toOption.toList else []

def listenerAnswers (backend : Backend) (outbox : List Effect) : List Psm :=
  outbox.filterMap fun
    | .l2capListener => backend.l2capListener.toOption
    | _ => none

def addedServices (backend : Backend) (outbox : List Effect) : List GattService :=
  outbox.filterMap fun
    | .addService service => backend.addService.toOption.map fun _ => service
    | _ => none

def latest {α : Type} (reports : List α) (known : Option α) : Option α := reports.getLast?.or known

structure StartupRecord (δ : Type) where
  task : BleRuntimeTask δ
  -- The answer of the latest successful `l2cap_listener`.
  listenerPsm : Option Psm
  -- The service of the latest successful `add_service`.
  registered : Option GattService
  -- That registration came after the latest power-off of the peripheral, or there was none.
  fresh : Bool
  -- The peripheral has been reported off since launch.
  poweredOff : Bool
  peripheralReport : Option Bool
  centralReport : Option Bool

namespace StartupRecord

def launch (task : BleRuntimeTask δ) : StartupRecord δ := ⟨task, none, none, false, false, none, none⟩

-- A turn that reports the peripheral off calls nothing after the report, so its registrations come
-- after its reports.
def observe (record : StartupRecord δ) (turn : Turn) (task : BleRuntimeTask δ) :
    StartupRecord δ where
  task := task
  listenerPsm := latest (listenerAnswers turn.backend task.outbox) record.listenerPsm
  registered := latest (addedServices turn.backend task.outbox) record.registered
  fresh := (record.fresh && !(peripheralReports turn).contains false) ||
    !(addedServices turn.backend task.outbox).isEmpty
  poweredOff := record.poweredOff || (peripheralReports turn).contains false
  peripheralReport := latest (peripheralReports turn) record.peripheralReport
  centralReport := latest (centralReports turn) record.centralReport

def step [PeerDirectory δ BlePeerKey DiscoveredPeerHint] (record : StartupRecord δ) (turn : Turn) :
    StartupRecord δ :=
  record.observe turn (record.task.step turn)

end StartupRecord

theorem task_exec [PeerDirectory δ BlePeerKey DiscoveredPeerHint] (initial : BleRuntimeTask δ)
    (turns : List Turn) :
    (Execution.exec StartupRecord.step (.launch initial) turns).task =
      Execution.exec BleRuntimeTask.step initial turns := by
  induction turns using List.reverseRecOn with
  | nil => rfl
  | append_singleton before turn ih =>
      rw [Execution.exec_snoc, Execution.exec_snoc, ← ih]
      rfl

/-! ## The steps of `try_startup` as one update each -/

/-- The step is to be tried by the next call of `try_startup` that reaches it. -/
def due (step : StartupStep) : Bool :=
  step ≠ .started && step ≠ .waitingForPower

def listenerTried (startup : BleStartupState) : Bool :=
  startup.l2capListener = .pending || startup.l2capListener = .retry

def listenerStep : Except BlewError Psm → StartupStep
  | .ok _ => .started
  | .error .notSupported => .unsupported
  | .error _ => .retry

/-- The listener is neither pending nor to be retried once `try_startup` has tried it. -/
def listenerSettled (startup : BleStartupState) (backend : Backend) : Bool :=
  !listenerTried startup || listenerStep backend.l2capListener ≠ .retry

theorem tryStartL2capListener_eq (task : BleRuntimeTask δ) (backend : Backend) :
    task.tryStartL2capListener backend =
      if listenerTried task.startup then
        { task.perform .l2capListener with
          localPsm := backend.l2capListener.toOption.or task.localPsm
          startup := { task.startup with l2capListener := listenerStep backend.l2capListener } }
      else task := by
  have answered : listenerTried task.startup = true → task.tryStartL2capListener backend =
      { task.perform .l2capListener with
        localPsm := backend.l2capListener.toOption.or task.localPsm
        startup := { task.startup with l2capListener := listenerStep backend.l2capListener } } := by
    intro tried
    have tried : task.startup.l2capListener = .pending ∨ task.startup.l2capListener = .retry := by
      simpa [listenerTried] using tried
    unfold BleRuntimeTask.tryStartL2capListener
    cases backend.l2capListener with
    | ok psm => rcases tried with step | step <;> simp only [step] <;> rfl
    | error error => rcases tried with step | step <;> cases error <;> simp only [step] <;> rfl
  split
  · rename_i tried
    exact answered tried
  · rename_i untried
    unfold BleRuntimeTask.tryStartL2capListener
    cases step : task.startup.l2capListener with
    | pending => simp [listenerTried, step] at untried
    | retry => simp [listenerTried, step] at untried
    | waitingForPower => rfl
    | started => rfl
    | unsupported => rfl

@[simp] theorem startupGattService_uuid (task : BleRuntimeTask δ) :
    task.startupGattService.uuid = jacquardIdentityServiceUuid := by
  unfold BleRuntimeTask.startupGattService
  split
  · rfl
  · rfl

theorem tryStartGattService_eq (task : BleRuntimeTask δ) (backend : Backend) :
    task.tryStartGattService backend =
      if due task.startup.gattService && !listenerTried task.startup then
        if jacquardIdentityServiceUuid ∈ task.restoredState.peripheralServiceUuids then
          { task with startup := { task.startup with gattService := .started } }
        else
          { task.perform (.addService task.startupGattService) with
            startup := { task.startup with
              gattService := StartupStep.fromStartResult backend.addService } }
      else task := by
  unfold BleRuntimeTask.tryStartGattService
  have held : (task.startup.l2capListener = .pending ∨ task.startup.l2capListener = .retry) ↔
      listenerTried task.startup = true := by
    simp [listenerTried]
  simp only [held, startupGattService_uuid]
  cases task.startup.gattService with
  | started => simp [due]
  | waitingForPower => simp [due]
  | _ =>
      cases listenerTried task.startup with
      | true => simp [due]
      | false =>
          simp only [due]
          rfl

theorem tryStartAdvertising_eq (task : BleRuntimeTask δ) (backend : Backend) :
    task.tryStartAdvertising backend =
      if due task.startup.advertising && task.startup.gattService = .started then
        { task.perform (.startAdvertising task.advertisingConfig) with
          startup := { task.startup with
            advertising := StartupStep.fromStartResult backend.startAdvertising } }
      else task := by
  unfold BleRuntimeTask.tryStartAdvertising
  by_cases registered : task.startup.gattService = .started
  · cases task.startup.advertising with
    | started => simp [due]
    | waitingForPower => simp [due]
    | _ =>
        dsimp only
        rw [if_neg (not_not.mpr registered), if_pos (by simp [due, registered])]
        rfl
  · cases task.startup.advertising <;> simp [due, registered]

theorem tryStartScan_eq (task : BleRuntimeTask δ) (backend : Backend) :
    task.tryStartScan backend =
      if due task.startup.scan then
        { task.perform (.startScan task.config.scanFilter) with
          startup := { task.startup with scan := StartupStep.fromStartResult backend.startScan } }
      else task := by
  unfold BleRuntimeTask.tryStartScan
  cases task.startup.scan <;> rfl

/-! ## The id of a task -/

section LocalNodeId

theorem localNodeId_tryStartGattService (task : BleRuntimeTask δ) (backend : Backend) :
    (task.tryStartGattService backend).localNodeId = task.localNodeId := by
  rw [tryStartGattService_eq]
  split
  · split
    · rfl
    · rfl
  · rfl

theorem localNodeId_tryStartup (task : BleRuntimeTask δ) (backend : Backend) :
    (task.tryStartup backend).localNodeId = task.localNodeId := by
  have scanned (before : BleRuntimeTask δ) :
      (before.tryStartScan backend).localNodeId = before.localNodeId := by
    rw [tryStartScan_eq]
    split
    · rfl
    · rfl
  have started : (((task.tryStartL2capListener backend).tryStartGattService
      backend).tryStartAdvertising backend).localNodeId = task.localNodeId := by
    rw [tryStartAdvertising_eq, apply_ite BleRuntimeTask.localNodeId]
    simp only [BleRuntimeTask.perform, ite_self, localNodeId_tryStartGattService,
      tryStartL2capListener_eq]
    split
    · rfl
    · rfl
  unfold BleRuntimeTask.tryStartup
  dsimp only
  split
  · rw [scanned]
    split
    · exact started
    · rfl
  · split
    · exact started
    · rfl

variable [PeerDirectory δ BlePeerKey DiscoveredPeerHint]

theorem localNodeId_step (task : BleRuntimeTask δ) (turn : Turn) :
    (task.step turn).localNodeId = task.localNodeId := by
  cases starts : startsUp turn.event with
  | true =>
      rw [BleRuntimeTask.step, handle_of_startsUp starts, localNodeId_tryStartup]
  | false => exact (handle_of_not_startsUp starts).localNodeId

theorem localNodeId_exec (task : BleRuntimeTask δ) (turns : List Turn) :
    (exec BleRuntimeTask.step task turns).localNodeId = task.localNodeId := by
  induction turns using List.reverseRecOn with
  | nil => rfl
  | append_singleton before turn ih => rw [exec_snoc, localNodeId_step, ih]

end LocalNodeId

end JqBle.Proof.LinkProfile
