import JqBle.LinkProfile.Cast
import JqBle.LinkProfile.Startup

/-!
# The BLE runtime task (`task.rs`, `session.rs`, `notify.rs`)

One value of `BleRuntimeTask` is what the single owner task keeps between two turns of its select
loop. A handler is a function of that value, of the event and of the answers the radio gives while
the handler awaits it; nothing else touches the task in between. What a handler hands to the radio
and to the ingress is appended to `outbox`, in order.

The pending claims of `jacquard_host_support` are released before the handler that takes one
returns; whether a claim is granted is an answer of the backend.
-/

namespace JqBle.LinkProfile
open Std Host Library

inductive TargetOs
  | linux
  | android
  | other
deriving DecidableEq, Repr

/-! ## Events -/

inductive CentralEvent
  | adapterStateChanged (powered : Bool)
  | deviceDiscovered (device : BleDevice)
  | deviceConnected (deviceId : DeviceId)
  | deviceDisconnected (deviceId : DeviceId) (cause : DisconnectCause)
  | characteristicNotification (deviceId : DeviceId) (charUuid : Uuid) (value : List UInt8)
deriving DecidableEq, Repr

inductive PeripheralStateEvent
  | subscriptionChanged (clientId : DeviceId) (charUuid : Uuid) (subscribed : Bool)
  | adapterStateChanged (powered : Bool)
deriving DecidableEq, Repr

inductive PeripheralRequest
  | read (clientId : DeviceId) (charUuid : Uuid)
  | write (clientId : DeviceId) (charUuid : Uuid) (value : List UInt8) (hasResponder : Bool)
deriving DecidableEq, Repr

inductive L2capRuntimeEvent
  | frameReceived (channelId : BleChannelId) (payload : List UInt8)
  | channelClosed (channelId : BleChannelId)
deriving DecidableEq, Repr

-- One turn of `run`: a restored device of `rehydrate_restored_state`, a call of `try_startup`
-- (before the loop or by its retry timer), or one arm of the select loop. After `shutdown` the
-- loop breaks and no turn follows.
inductive RuntimeEvent
  | restoredDevice (device : BleDevice)
  | startup
  | command (command : BleDriverCommand)
  | central (event : CentralEvent)
  | peripheralState (event : PeripheralStateEvent)
  | peripheralRequest (request : PeripheralRequest)
  | l2capAccept (accepted : Except BlewError DeviceId)
  | l2cap (event : L2capRuntimeEvent)
  | retryDeferredControl

/-- The answers of the radio during one turn. Calls that a turn makes once have one answer; the
sends of a batch are numbered by the command's position and by the attempt. -/
structure Backend where
  peripheralIsPowered : Except BlewError Bool
  centralIsPowered : Except BlewError Bool
  l2capListener : Except BlewError Psm
  addService : Except BlewError Unit
  startAdvertising : Except BlewError Unit
  startScan : Except BlewError Unit
  claimPending : Bool
  tryClaim : Bool
  readCharacteristic : DeviceId → Uuid → Except BlewError (List UInt8)
  openL2capChannel : Except BlewError Unit
  writeL2capIdentity : Bool
  readL2capIdentity : Option NodeId
  l2capSend : Nat → Nat → Bool

inductive Effect
  | connect (deviceId : DeviceId)
  | disconnect (deviceId : DeviceId)
  | refresh (deviceId : DeviceId)
  | readCharacteristic (deviceId : DeviceId) (charUuid : Uuid)
      (answer : Except BlewError (List UInt8))
  | subscribeCharacteristic (deviceId : DeviceId) (charUuid : Uuid)
  | writeCharacteristic (deviceId : DeviceId) (charUuid : Uuid) (payload : List UInt8)
  | openL2capChannel (deviceId : DeviceId) (psm : Psm)
  | writeL2capIdentity (localNodeId : NodeId)
  | spawnL2capChannelTasks (channelId : BleChannelId)
  | sendL2cap (channelId : BleChannelId) (payload : List UInt8)
  -- `receivers` is the list of the command the notification was issued for.
  | notifyCharacteristic (deviceId : DeviceId) (charUuid : Uuid) (payload : List UInt8)
      (receivers : List NodeId)
  | l2capListener
  | addService (service : GattService)
  | startAdvertising (config : AdvertisingConfig)
  | startScan (filter : ScanFilter)
  | respond (value : List UInt8)
  | respondSuccess
  | respondError
  | emitControl (event : TransportIngressEvent)
  | emitPayload (event : TransportIngressEvent)
deriving DecidableEq

/-! ## State -/

structure ActiveL2capChannel where
  nodeId : NodeId
  deviceId : DeviceId
deriving DecidableEq, Repr

structure BleRuntimeTask (δ : Type) where
  targetOs : TargetOs
  localNodeId : NodeId
  localPsm : Option Psm
  l2capChannels : ExtTreeMap BleChannelId ActiveL2capChannel
  nextChannelId : Nat
  peers : δ
  sessions : ExtTreeMap NodeId PeerSessions
  config : BleConfig
  restoredState : BleRestoredState
  startup : BleStartupState
  outbox : List Effect

def parseNodeId (deviceId : DeviceId) (bytes : List UInt8) : Except BlewError NodeId :=
  if sized : bytes.length = 32 then .ok ⟨⟨bytes.toArray, by simp [sized]⟩⟩
  else .error (.gatt deviceId ("invalid node id length: " ++ toString bytes.length))

namespace Backend

def resolveRemoteNodeId (backend : Backend) (deviceId : DeviceId) : Except BlewError NodeId :=
  backend.readCharacteristic deviceId jacquardNodeIdCharUuid >>= parseNodeId deviceId

def resolveRemotePsm (backend : Backend) (deviceId : DeviceId) : Option Psm :=
  (backend.readCharacteristic deviceId jacquardPsmCharUuid).toOption >>= parsePsmValue

def claims (backend : Backend) : Bool := !backend.claimPending && backend.tryClaim

/-- Every step of the L2CAP upgrade of `deviceId` succeeds. -/
def upgradesL2cap (backend : Backend) (deviceId : DeviceId) : Bool :=
  (backend.resolveRemotePsm deviceId).isSome && backend.openL2capChannel.isOk &&
    backend.writeL2capIdentity

end Backend

namespace BleRuntimeTask
variable {δ : Type} [PeerDirectory δ BlePeerKey DiscoveredPeerHint]

def launch (targetOs : TargetOs) (localNodeId : NodeId) (config : BleConfig)
    (restoredState : BleRestoredState) : BleRuntimeTask δ where
  targetOs := targetOs
  localNodeId := localNodeId
  localPsm := none
  l2capChannels := ∅
  nextChannelId := 1
  peers := PeerDirectory.new
  sessions := ∅
  config := config
  restoredState := restoredState
  startup := {}
  outbox := []

def new (targetOs : TargetOs) (localNodeId : NodeId) (config : BleConfig)
    (restoredState : BleRestoredState) : Except BleLinkError (BleRuntimeTask δ) :=
  if config.queue.ingressCapacity = 0 then .error .zeroIngressCapacity
  else if config.queue.commandCapacity = 0 then .error .zeroCommandCapacity
  else .ok (launch targetOs localNodeId config restoredState)

def perform (task : BleRuntimeTask δ) (effect : Effect) : BleRuntimeTask δ :=
  { task with outbox := task.outbox ++ [effect] }

def readFrom (task : BleRuntimeTask δ) (backend : Backend) (deviceId : DeviceId) (charUuid : Uuid) :
    BleRuntimeTask δ :=
  task.perform (.readCharacteristic deviceId charUuid
    (backend.readCharacteristic deviceId charUuid))

def emitControlEvent (task : BleRuntimeTask δ) (event : TransportIngressEvent) :
    BleRuntimeTask δ :=
  task.perform (.emitControl event)

def emitLinkObserved (task : BleRuntimeTask δ) (remoteNodeId : NodeId) (endpoint : LinkEndpoint) :
    BleRuntimeTask δ :=
  task.emitControlEvent (rawBleLinkObservedEvent remoteNodeId endpoint)

def refreshGattCache (task : BleRuntimeTask δ) (deviceId : DeviceId) : BleRuntimeTask δ :=
  if task.targetOs = .android then task.perform (.refresh deviceId) else task

def resolvedNodeIdForDevice (task : BleRuntimeTask δ) (deviceId : DeviceId) : Option NodeId :=
  match PeerDirectory.identityState task.peers (BlePeerKey.ofDevice deviceId) with
  | some (.resolved nodeId) => some nodeId
  | _ => none

def egressSessionForDevice (task : BleRuntimeTask δ) (deviceId : DeviceId) : Option BleSession :=
  EntryMap.findValue task.sessions fun sessions => sessions.egressForDevice deviceId

/-! ## Startup -/

def startupGattService (task : BleRuntimeTask δ) : GattService :=
  match task.localPsm with
  | none => gattFallbackService task.localNodeId
  | some psm => gattL2capService task.localNodeId psm

def tryStartL2capListener (task : BleRuntimeTask δ) (backend : Backend) : BleRuntimeTask δ :=
  match task.startup.l2capListener with
  | .started | .unsupported | .waitingForPower => task
  | .pending | .retry =>
      let task := task.perform .l2capListener
      match backend.l2capListener with
      | .ok psm =>
          { task with
            localPsm := some psm
            startup := { task.startup with l2capListener := .started } }
      | .error .notSupported =>
          { task with startup := { task.startup with l2capListener := .unsupported } }
      | .error _ => { task with startup := { task.startup with l2capListener := .retry } }

def tryStartGattService (task : BleRuntimeTask δ) (backend : Backend) : BleRuntimeTask δ :=
  match task.startup.gattService with
  | .started | .waitingForPower => task
  | .pending | .retry | .unsupported =>
      if task.startup.l2capListener = .pending ∨ task.startup.l2capListener = .retry then task
      else
        let service := task.startupGattService
        if service.uuid ∈ task.restoredState.peripheralServiceUuids then
          { task with startup := { task.startup with gattService := .started } }
        else
          let task := task.perform (.addService service)
          { task with
            startup := { task.startup with
              gattService := StartupStep.fromStartResult backend.addService } }

def advertisingConfig (task : BleRuntimeTask δ) : AdvertisingConfig where
  localName := "jq-ble"
  serviceUuids := [task.startupGattService.uuid]

def tryStartAdvertising (task : BleRuntimeTask δ) (backend : Backend) : BleRuntimeTask δ :=
  match task.startup.advertising with
  | .started | .waitingForPower => task
  | .pending | .retry | .unsupported =>
      if task.startup.gattService ≠ .started then task
      else
        let task := task.perform (.startAdvertising task.advertisingConfig)
        { task with
          startup := { task.startup with
            advertising := StartupStep.fromStartResult backend.startAdvertising } }

def tryStartScan (task : BleRuntimeTask δ) (backend : Backend) : BleRuntimeTask δ :=
  match task.startup.scan with
  | .started | .waitingForPower => task
  | .pending | .retry | .unsupported =>
      let task := task.perform (.startScan task.config.scanFilter)
      { task with
        startup := { task.startup with scan := StartupStep.fromStartResult backend.startScan } }

-- An `Err` of `is_powered` counts as powered off.
def tryStartup (task : BleRuntimeTask δ) (backend : Backend) : BleRuntimeTask δ :=
  let task :=
    if backend.peripheralIsPowered.toOption.getD false then
      ((task.tryStartL2capListener backend).tryStartGattService backend).tryStartAdvertising backend
    else { task with startup := task.startup.peripheralPowerChanged .poweredOff }
  if backend.centralIsPowered.toOption.getD false then task.tryStartScan backend
  else { task with startup := task.startup.centralPowerChanged .poweredOff }

/-! ## Channels and sessions -/

def installGattSession (task : BleRuntimeTask δ) (nodeId : NodeId) (deviceId : DeviceId) :
    BleRuntimeTask δ :=
  let task := task.perform (.subscribeCharacteristic deviceId jacquardP2cCharUuid)
  let session := BleSession.gattCentral deviceId
  { task with
    sessions := EntryMap.modifyOrInsert task.sessions nodeId
      (fun sessions => sessions.installGattCentral session) (.gattWithFallback session) }

def registerL2capChannel (task : BleRuntimeTask δ) (nodeId : NodeId) (deviceId : DeviceId) :
    BleRuntimeTask δ × BleChannelId :=
  let channelId : BleChannelId := ⟨task.nextChannelId⟩
  let task := task.perform (.spawnL2capChannelTasks channelId)
  ({ task with
      nextChannelId := saturatingAdd u64Max task.nextChannelId 1
      l2capChannels := task.l2capChannels.insert channelId ⟨nodeId, deviceId⟩ }, channelId)

def installL2capSession (task : BleRuntimeTask δ) (nodeId : NodeId) (deviceId : DeviceId) :
    BleRuntimeTask δ :=
  let registered := task.registerL2capChannel nodeId deviceId
  let session := BleSession.l2cap deviceId registered.2
  let task := { registered.1 with
    sessions := EntryMap.modifyOrInsert registered.1.sessions nodeId
      (fun sessions => sessions.promoteL2cap session) (.l2capPreferred session none) }
  task.emitLinkObserved nodeId (l2capEndpoint deviceId)

def handleL2capChannelClosed (task : BleRuntimeTask δ) (channelId : BleChannelId) :
    BleRuntimeTask δ :=
  match task.l2capChannels[channelId]? with
  | none => task
  | some channel =>
      let task := { task with l2capChannels := task.l2capChannels.erase channelId }
      match task.sessions[channel.nodeId]? with
      | none => task
      | some sessions =>
          let downgraded := sessions.downgradeL2cap channelId
          let task := { task with sessions := task.sessions.insert channel.nodeId downgraded.1 }
          match downgraded.2 with
          | none => task
          | some fallback => task.emitLinkObserved channel.nodeId fallback.endpoint

def dropL2capChannelsForNode (task : BleRuntimeTask δ) (nodeId : NodeId) : BleRuntimeTask δ :=
  { task with
    l2capChannels := task.l2capChannels.filter fun _ channel => channel.nodeId ≠ nodeId }

def emitFaultedLinksForDevice (task : BleRuntimeTask δ) (nodeId : NodeId) (deviceId : DeviceId) :
    BleRuntimeTask δ :=
  match task.sessions[nodeId]? with
  | none => task
  | some sessions =>
      (sessions.endpointsForDevice deviceId).foldl
        (fun task endpoint => task.emitControlEvent (rawBleLinkFaultedEvent nodeId endpoint)) task

/-! ## Central events -/

-- The L2CAP upgrade at the end of `install_resolved_peer`; any failing step leaves the peer on GATT.
def tryUpgradeL2cap (task : BleRuntimeTask δ) (backend : Backend) (nodeId : NodeId)
    (deviceId : DeviceId) : BleRuntimeTask δ :=
  let task := task.readFrom backend deviceId jacquardPsmCharUuid
  match backend.resolveRemotePsm deviceId with
  | none => task
  | some psm =>
      let task := task.perform (.openL2capChannel deviceId psm)
      match backend.openL2capChannel with
      | .error _ => task
      | .ok _ =>
          let task := task.perform (.writeL2capIdentity task.localNodeId)
          if backend.writeL2capIdentity then task.installL2capSession nodeId deviceId else task

def installResolvedPeer (task : BleRuntimeTask δ) (backend : Backend) (key : BlePeerKey)
    (nodeId : NodeId) (deviceId : DeviceId) : BleRuntimeTask δ :=
  let task := { task with peers := PeerDirectory.resolve task.peers key nodeId }
  let task := task.installGattSession nodeId deviceId
  let task := task.emitLinkObserved nodeId (gattEndpoint deviceId)
  task.tryUpgradeL2cap backend nodeId deviceId

def handleDeviceDiscovered (task : BleRuntimeTask δ) (backend : Backend) (device : BleDevice) :
    BleRuntimeTask δ :=
  match parseDiscoveryHint device.services with
  | none => task
  | some nodeIdPrefix =>
      let hint : DiscoveredPeerHint := ⟨device.id, nodeIdPrefix, true, false⟩
      let task := { task with
        peers := PeerDirectory.upsertHint task.peers (BlePeerKey.ofDevice device.id) hint }
      if backend.claims then task.perform (.connect device.id) else task

def handleDeviceConnected (task : BleRuntimeTask δ) (backend : Backend) (deviceId : DeviceId) :
    BleRuntimeTask δ :=
  let task := task.readFrom backend deviceId jacquardNodeIdCharUuid
  match backend.resolveRemoteNodeId deviceId with
  | .error _ => task.refreshGattCache deviceId
  | .ok nodeId =>
      let key := BlePeerKey.ofDevice deviceId
      match PeerDirectory.identityState task.peers key with
      | some (.hint hint) =>
          if hintMatchesNodeId hint.nodeIdPrefix nodeId then
            task.installResolvedPeer backend key nodeId deviceId
          else
            let task := task.perform (.disconnect deviceId)
            { task with peers := (PeerDirectory.remove task.peers key).2 }
      | _ => task

def handleDisconnectRecovery (task : BleRuntimeTask δ) (deviceId : DeviceId) :
    DisconnectCause → BleRuntimeTask δ
  | .gatt133 => task.refreshGattCache deviceId
  | .adapterOff | .linkLoss | .localClose | .remoteClose | .timeout | .unknown _ => task

def handleDeviceDisconnected (task : BleRuntimeTask δ) (deviceId : DeviceId)
    (cause : DisconnectCause) : BleRuntimeTask δ :=
  let removed := PeerDirectory.remove task.peers (BlePeerKey.ofDevice deviceId)
  let task := { task with peers := removed.2 }
  let task :=
    match removed.1 with
    | some (.resolved nodeId) =>
        (task.emitFaultedLinksForDevice nodeId deviceId).dropL2capChannelsForNode nodeId
    | _ => task
  let task := { task with
    sessions := task.sessions.filter fun _ sessions => !sessions.referencesDevice deviceId }
  task.handleDisconnectRecovery deviceId cause

def handleCharacteristicNotification (task : BleRuntimeTask δ) (deviceId : DeviceId)
    (charUuid : Uuid) (value : List UInt8) : BleRuntimeTask δ :=
  if charUuid ≠ jacquardP2cCharUuid then task
  else
    match task.resolvedNodeIdForDevice deviceId with
    | none => task
    | some nodeId =>
        task.perform (.emitPayload (.payloadReceived nodeId (gattEndpoint deviceId) value))

def handleCentralEvent (task : BleRuntimeTask δ) (backend : Backend) :
    CentralEvent → BleRuntimeTask δ
  | .adapterStateChanged powered =>
      let task := { task with
        startup := task.startup.centralPowerChanged (AdapterPowerState.ofBool powered) }
      if powered then task.tryStartup backend else task
  | .deviceDiscovered device => task.handleDeviceDiscovered backend device
  | .deviceConnected deviceId => task.handleDeviceConnected backend deviceId
  | .deviceDisconnected deviceId cause => task.handleDeviceDisconnected deviceId cause
  | .characteristicNotification deviceId charUuid value =>
      task.handleCharacteristicNotification deviceId charUuid value

def handleRestoredDevice (task : BleRuntimeTask δ) (backend : Backend) (device : BleDevice) :
    BleRuntimeTask δ :=
  if (parseDiscoveryHint device.services).isSome then task.handleDeviceDiscovered backend device
  else if backend.claims then
    let task := task.perform (.connect device.id)
    let task := task.readFrom backend device.id jacquardNodeIdCharUuid
    match backend.resolveRemoteNodeId device.id with
    | .ok nodeId =>
        task.installResolvedPeer backend (BlePeerKey.ofDevice device.id) nodeId device.id
    | .error _ => task.refreshGattCache device.id
  else task

/-! ## Peripheral events -/

def handleC2pWrite (task : BleRuntimeTask δ) (clientId : DeviceId) (value : List UInt8)
    (hasResponder : Bool) : BleRuntimeTask δ :=
  match task.resolvedNodeIdForDevice clientId with
  | some nodeId =>
      let task := task.perform
        (.emitPayload (.payloadReceived nodeId (gattEndpoint clientId) value))
      if hasResponder then task.perform .respondSuccess else task
  | none => if hasResponder then task.perform .respondError else task

def handlePeripheralRequest (task : BleRuntimeTask δ) : PeripheralRequest → BleRuntimeTask δ
  | .read _ charUuid =>
      if charUuid = jacquardNodeIdCharUuid then
        task.perform (.respond task.localNodeId.bytes.toList)
      else if charUuid = jacquardPsmCharUuid then
        match task.localPsm with
        | some psm => task.perform (.respond (psmBytes psm))
        | none => task.perform .respondError
      else task.perform .respondError
  | .write clientId charUuid value hasResponder =>
      if charUuid = jacquardC2pCharUuid then task.handleC2pWrite clientId value hasResponder
      else if hasResponder then task.perform .respondError
      else task

def handleP2cSubscription (task : BleRuntimeTask δ) (clientId : DeviceId) : BleRuntimeTask δ :=
  match task.resolvedNodeIdForDevice clientId with
  | none => task
  | some nodeId =>
      let subscriber : BleNotifySubscriber := ⟨clientId⟩
      let task := { task with
        sessions := EntryMap.modifyOrInsert task.sessions nodeId
          (fun sessions => sessions.installGattSubscription subscriber)
          (.gattNotifyFanout subscriber) }
      task.emitControlEvent (rawBleLinkObservedEvent nodeId gattNotifyFanoutEndpoint)

def handleP2cUnsubscription (task : BleRuntimeTask δ) (clientId : DeviceId) : BleRuntimeTask δ :=
  match task.resolvedNodeIdForDevice clientId with
  | none => task
  | some nodeId =>
      match task.sessions[nodeId]? with
      | none => task
      | some sessions =>
          let removed := sessions.removeGattSubscription clientId
          let task := { task with sessions := task.sessions.insert nodeId removed.1 }
          if removed.2 then
            task.emitControlEvent (rawBleLinkFaultedEvent nodeId gattNotifyFanoutEndpoint)
          else task

def handlePeripheralStateEvent (task : BleRuntimeTask δ) (backend : Backend) :
    PeripheralStateEvent → BleRuntimeTask δ
  | .subscriptionChanged clientId charUuid subscribed =>
      if charUuid = jacquardP2cCharUuid then
        if subscribed then task.handleP2cSubscription clientId
        else task.handleP2cUnsubscription clientId
      else task
  | .adapterStateChanged powered =>
      let task := { task with
        startup := task.startup.peripheralPowerChanged (AdapterPowerState.ofBool powered) }
      if powered then task.tryStartup backend else task

/-! ## L2CAP events -/

def handleL2capAccept (task : BleRuntimeTask δ) (backend : Backend) :
    Except BlewError DeviceId → BleRuntimeTask δ
  | .error _ => task
  | .ok deviceId =>
      match backend.readL2capIdentity with
      | none => task
      | some remoteNodeId =>
          if task.resolvedNodeIdForDevice deviceId ≠ some remoteNodeId then task
          else task.installL2capSession remoteNodeId deviceId

def handleL2capRuntimeEvent (task : BleRuntimeTask δ) : L2capRuntimeEvent → BleRuntimeTask δ
  | .frameReceived channelId payload =>
      match task.l2capChannels[channelId]? with
      | none => task
      | some channel =>
          task.perform (.emitPayload
            (.payloadReceived channel.nodeId (l2capEndpoint channel.deviceId) payload))
  | .channelClosed channelId => task.handleL2capChannelClosed channelId

/-! ## Dispatch -/

def sendViaSession (task : BleRuntimeTask δ) (accepted : Bool) (session : BleSession)
    (payload : List UInt8) : BleRuntimeTask δ × Option BleChannelId :=
  match session with
  | .gattCentral deviceId =>
      (task.perform (.writeCharacteristic deviceId jacquardC2pCharUuid payload), none)
  | .l2cap _ channelId =>
      if task.l2capChannels.contains channelId && accepted then
        (task.perform (.sendL2cap channelId payload), none)
      else (task, some channelId)

def dispatchUnicastLoop (accepts : Nat → Bool) (deviceId : DeviceId) (payload : List UInt8) :
    (fuel attempt : Nat) → Option BleChannelId → BleRuntimeTask δ → BleRuntimeTask δ
  | 0, _, _, task => task
  | fuel + 1, attempt, downgradedL2cap, task =>
      match task.egressSessionForDevice deviceId with
      | none => task
      | some session =>
          let sent := task.sendViaSession (accepts attempt) session payload
          match sent.2 with
          | none => sent.1
          | some channelId =>
              if downgradedL2cap = some channelId then sent.1
              else dispatchUnicastLoop accepts deviceId payload fuel (attempt + 1) (some channelId)
                (sent.1.handleL2capChannelClosed channelId)

-- The source loops without a bound. Every iteration but the last two turns an entry of `sessions`
-- away from L2CAP, so this fuel is never used up.
def dispatchUnicastCommand (task : BleRuntimeTask δ) (accepts : Nat → Bool)
    (endpoint : LinkEndpoint) (payload : List UInt8) : BleRuntimeTask δ :=
  match deviceIdFromEndpoint endpoint with
  | none => task
  | some deviceId =>
      dispatchUnicastLoop accepts deviceId payload (task.sessions.size + 2) 0 none task

def notifySubscriberDeviceIds (task : BleRuntimeTask δ) (receivers : List NodeId) :
    Option (List DeviceId) :=
  if receivers.isEmpty then none
  else receivers.mapM fun receiver =>
    task.sessions[receiver]? >>= PeerSessions.notifySubscriberDeviceId

end BleRuntimeTask

def allSubscribers (sessions : ExtTreeMap NodeId PeerSessions) : List NodeId :=
  sessions.toList.filterMap fun entry => entry.2.notifySubscriberDeviceId.map fun _ => entry.1

def platformNotifyDeviceIds (targetOs : TargetOs) (sessions : ExtTreeMap NodeId PeerSessions)
    (receivers : List NodeId) (deviceIds : List DeviceId) : Option (List DeviceId) :=
  match targetOs with
  | .linux =>
      -- The two sets of nodes are equal.
      if (receivers.all fun nodeId => nodeId ∈ allSubscribers sessions) &&
          (allSubscribers sessions).all fun nodeId => nodeId ∈ receivers then
        deviceIds.head?.map fun deviceId => [deviceId]
      else none
  | .android | .other => some deviceIds

namespace BleRuntimeTask
variable {δ : Type} [PeerDirectory δ BlePeerKey DiscoveredPeerHint]

def dispatchMulticastCommand (task : BleRuntimeTask δ) (endpoint : LinkEndpoint)
    (receivers : List NodeId) (payload : List UInt8) : BleRuntimeTask δ :=
  if endpoint ≠ gattNotifyFanoutEndpoint then task
  else
    match task.notifySubscriberDeviceIds receivers with
    | none => task
    | some deviceIds =>
        match platformNotifyDeviceIds task.targetOs task.sessions receivers deviceIds with
        | none => task
        | some notifyDeviceIds =>
            notifyDeviceIds.foldl (fun task deviceId =>
              task.perform (.notifyCharacteristic deviceId jacquardP2cCharUuid payload receivers))
              task

def dispatchOutboundCommand (task : BleRuntimeTask δ) (accepts : Nat → Bool)
    (command : BleOutboundCommand) : BleRuntimeTask δ :=
  match command.intent with
  | .unicast endpoint => task.dispatchUnicastCommand accepts endpoint command.payload
  | .multicast endpoint _ receivers =>
      task.dispatchMulticastCommand endpoint receivers command.payload
  | .broadcast _ => task

def dispatchOutboundBatch (accepts : Nat → Nat → Bool) :
    (position : Nat) → List BleOutboundCommand → BleRuntimeTask δ → BleRuntimeTask δ
  | _, [], task => task
  | position, command :: rest, task =>
      dispatchOutboundBatch accepts (position + 1) rest
        (task.dispatchOutboundCommand (accepts position) command)

def handleCommand (task : BleRuntimeTask δ) (backend : Backend) :
    BleDriverCommand → BleRuntimeTask δ
  | .dispatch batch => dispatchOutboundBatch backend.l2capSend 0 batch task
  | .shutdown => task

end BleRuntimeTask

/-! ## Runs -/

structure Turn where
  event : RuntimeEvent
  backend : Backend

namespace BleRuntimeTask
variable {δ : Type} [PeerDirectory δ BlePeerKey DiscoveredPeerHint]

def handle (task : BleRuntimeTask δ) (turn : Turn) : BleRuntimeTask δ :=
  match turn.event with
  | .restoredDevice device => task.handleRestoredDevice turn.backend device
  | .startup => task.tryStartup turn.backend
  | .command command => task.handleCommand turn.backend command
  | .central event => task.handleCentralEvent turn.backend event
  | .peripheralState event => task.handlePeripheralStateEvent turn.backend event
  | .peripheralRequest request => task.handlePeripheralRequest request
  | .l2capAccept accepted => task.handleL2capAccept turn.backend accepted
  | .l2cap event => task.handleL2capRuntimeEvent event
  | .retryDeferredControl => task

/-- One turn, with the outbox holding the effects of that turn only. -/
def step (task : BleRuntimeTask δ) (turn : Turn) : BleRuntimeTask δ :=
  handle { task with outbox := [] } turn

end BleRuntimeTask

/-- The turns of one run: the restored devices in their order, then the select loop. A prefix of a
run is a run. -/
def RunOf (restored : List BleDevice) (turns : List Turn) : Prop :=
  ∃ rehydrated looped, turns = rehydrated ++ looped ∧
    rehydrated.map Turn.event <+: restored.map RuntimeEvent.restoredDevice ∧
    ∀ turn ∈ looped, ∀ device, turn.event ≠ .restoredDevice device

end JqBle.LinkProfile
