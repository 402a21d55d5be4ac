import JqBle.Proof.LinkProfile.Changes
import JqBle.Proof.LinkProfile.Sessions

/-!
# The tables after each change

The sessions, channels, peers and effects that each table operation of the runtime task leaves
behind, as lookups.
-/

namespace JqBle.Proof.LinkProfile
open Std Host Library JqBle.LinkProfile

variable {δ : Type} {task : BleRuntimeTask δ} {nodeId other : NodeId} {deviceId : DeviceId}
  {channelId : BleChannelId}

/-! ## Installing sessions -/

theorem sessions_installGattSession :
    (task.installGattSession nodeId deviceId).sessions[other]? =
      if other = nodeId then
        some ((task.sessions[nodeId]?.map fun sessions =>
          sessions.installGattCentral (.gattCentral deviceId)).getD
          (.gattWithFallback (.gattCentral deviceId)))
      else task.sessions[other]? :=
  EntryMap.getElem?_modifyOrInsert ..

theorem sessions_installL2capSession :
    (task.installL2capSession nodeId deviceId).sessions[other]? =
      if other = nodeId then
        some ((task.sessions[nodeId]?.map fun sessions =>
          sessions.promoteL2cap (.l2cap deviceId ⟨task.nextChannelId⟩)).getD
          (.l2capPreferred (.l2cap deviceId ⟨task.nextChannelId⟩) none))
      else task.sessions[other]? :=
  EntryMap.getElem?_modifyOrInsert ..

theorem l2capChannels_installL2capSession :
    (task.installL2capSession nodeId deviceId).l2capChannels[channelId]? =
      if channelId = ⟨task.nextChannelId⟩ then some ⟨nodeId, deviceId⟩
      else task.l2capChannels[channelId]? :=
  EntryMap.getElem?_insert ..

theorem outbox_installL2capSession :
    (task.installL2capSession nodeId deviceId).outbox = task.outbox ++
      [.spawnL2capChannelTasks ⟨task.nextChannelId⟩,
        .emitControl (rawBleLinkObservedEvent nodeId (l2capEndpoint deviceId))] := by
  simp [BleRuntimeTask.installL2capSession, BleRuntimeTask.registerL2capChannel,
    BleRuntimeTask.emitLinkObserved, BleRuntimeTask.emitControlEvent, BleRuntimeTask.perform]

/-! ## Closing a channel -/

/-- What closing a channel announces: the session its node is left with. -/
def closeAnnouncement (task : BleRuntimeTask δ) (channelId : BleChannelId) : List Effect :=
  match task.l2capChannels[channelId]? with
  | none => []
  | some channel =>
      match task.sessions[channel.nodeId]? with
      | none => []
      | some sessions =>
          (sessions.downgradeL2cap channelId).1.preferredEgress.toList.map fun session =>
            .emitControl (rawBleLinkObservedEvent channel.nodeId session.endpoint)

theorem observed_of_mem_closeAnnouncement {effect : Effect}
    (member : effect ∈ closeAnnouncement task channelId) :
    ∃ nodeId session,
      effect = .emitControl (rawBleLinkObservedEvent nodeId (BleSession.endpoint session)) := by
  unfold closeAnnouncement at member
  split at member
  · cases member
  · split at member
    · cases member
    · obtain ⟨session, -, rfl⟩ := List.mem_map.mp member
      exact ⟨_, session, rfl⟩

theorem handleL2capChannelClosed_cases (task : BleRuntimeTask δ) (channelId : BleChannelId) :
    (task.l2capChannels[channelId]? = none ∧ task.handleL2capChannelClosed channelId = task) ∨
    ∃ channel, task.l2capChannels[channelId]? = some channel ∧
      (task.handleL2capChannelClosed channelId).l2capChannels =
        task.l2capChannels.erase channelId ∧
      (task.handleL2capChannelClosed channelId).sessions =
        (match task.sessions[channel.nodeId]? with
        | none => task.sessions
        | some sessions =>
            task.sessions.insert channel.nodeId (sessions.downgradeL2cap channelId).1) ∧
      (task.handleL2capChannelClosed channelId).peers = task.peers ∧
      (task.handleL2capChannelClosed channelId).nextChannelId = task.nextChannelId ∧
      (task.handleL2capChannelClosed channelId).targetOs = task.targetOs ∧
      (task.handleL2capChannelClosed channelId).outbox =
        task.outbox ++ closeAnnouncement task channelId := by
  unfold BleRuntimeTask.handleL2capChannelClosed closeAnnouncement
  cases registered : task.l2capChannels[channelId]? with
  | none => exact Or.inl ⟨rfl, rfl⟩
  | some channel =>
      refine Or.inr ⟨channel, rfl, ?_⟩
      dsimp only
      cases known : task.sessions[channel.nodeId]? with
      | none => exact ⟨rfl, rfl, rfl, rfl, rfl, by simp⟩
      | some sessions =>
          dsimp only
          rw [← downgradeL2cap_snd]
          cases downgraded : (sessions.downgradeL2cap channelId).2 with
          | none => exact ⟨rfl, rfl, rfl, rfl, rfl, by simp⟩
          | some fallback => exact ⟨rfl, rfl, rfl, rfl, rfl, rfl⟩

theorem l2capChannels_handleL2capChannelClosed {closed : BleChannelId} :
    (task.handleL2capChannelClosed closed).l2capChannels[channelId]? =
      if channelId = closed then none else task.l2capChannels[channelId]? := by
  rcases handleL2capChannelClosed_cases task closed with ⟨missing, same⟩ | ⟨channel, -, erased, -⟩
  · rw [same]
    split
    · rename_i equal
      rw [equal, missing]
    · rfl
  · rw [erased, EntryMap.getElem?_erase]

theorem sessions_handleL2capChannelClosed {closed : BleChannelId} :
    (task.handleL2capChannelClosed closed).sessions[other]? =
      if (task.l2capChannels[closed]?.map ActiveL2capChannel.nodeId) = some other then
        task.sessions[other]?.map fun sessions => (sessions.downgradeL2cap closed).1
      else task.sessions[other]? := by
  rcases handleL2capChannelClosed_cases task closed with
    ⟨missing, same⟩ | ⟨channel, registered, -, downgraded, -⟩
  · simp [same, missing]
  · rw [downgraded, registered]
    simp only [Option.map_some, Option.some.injEq]
    cases known : task.sessions[channel.nodeId]? with
    | none =>
        by_cases equal : channel.nodeId = other
        · subst equal
          simp [known]
        · rw [if_neg equal]
    | some sessions =>
        dsimp only
        rw [EntryMap.getElem?_insert]
        by_cases equal : other = channel.nodeId
        · subst equal
          simp [known]
        · rw [if_neg equal, if_neg (Ne.symm equal)]

@[simp] theorem peers_handleL2capChannelClosed :
    (task.handleL2capChannelClosed channelId).peers = task.peers := by
  rcases handleL2capChannelClosed_cases task channelId with ⟨-, same⟩ | ⟨_, -, -, -, peers, -⟩
  · rw [same]
  · exact peers

theorem outbox_handleL2capChannelClosed :
    (task.handleL2capChannelClosed channelId).outbox =
      task.outbox ++ closeAnnouncement task channelId := by
  rcases handleL2capChannelClosed_cases task channelId with
    ⟨missing, same⟩ | ⟨_, -, -, -, -, -, -, outbox⟩
  · simp [same, closeAnnouncement, missing]
  · exact outbox

/-! ## Subscriptions and disconnects -/

theorem foldl_emitControlEvent (endpoints : List LinkEndpoint)
    (event : LinkEndpoint → TransportIngressEvent) (task : BleRuntimeTask δ) :
    endpoints.foldl (fun task endpoint => task.emitControlEvent (event endpoint)) task =
      { task with
        outbox := task.outbox ++ endpoints.map fun endpoint => .emitControl (event endpoint) } := by
  induction endpoints generalizing task with
  | nil => simp
  | cons endpoint rest ih =>
      rw [List.foldl_cons, ih]
      simp [BleRuntimeTask.emitControlEvent, BleRuntimeTask.perform]

theorem emitFaultedLinksForDevice_eq (task : BleRuntimeTask δ) (nodeId : NodeId)
    (deviceId : DeviceId) :
    task.emitFaultedLinksForDevice nodeId deviceId = { task with
      outbox := task.outbox ++ match task.sessions[nodeId]? with
        | none => []
        | some sessions => (sessions.endpointsForDevice deviceId).map fun endpoint =>
            .emitControl (rawBleLinkFaultedEvent nodeId endpoint) } := by
  unfold BleRuntimeTask.emitFaultedLinksForDevice
  cases task.sessions[nodeId]? with
  | none => simp
  | some sessions => exact foldl_emitControlEvent ..

section
variable [PeerDirectory δ BlePeerKey DiscoveredPeerHint]

theorem handleP2cSubscription_cases (task : BleRuntimeTask δ) (deviceId : DeviceId) :
    (task.resolvedNodeIdForDevice deviceId = none ∧ task.handleP2cSubscription deviceId = task) ∨
    ∃ nodeId, task.resolvedNodeIdForDevice deviceId = some nodeId ∧
      task.handleP2cSubscription deviceId = { task with
        sessions := EntryMap.modifyOrInsert task.sessions nodeId
          (fun sessions => sessions.installGattSubscription ⟨deviceId⟩) (.gattNotifyFanout ⟨deviceId⟩)
        outbox := task.outbox ++
          [.emitControl (rawBleLinkObservedEvent nodeId gattNotifyFanoutEndpoint)] } := by
  unfold BleRuntimeTask.handleP2cSubscription
  cases task.resolvedNodeIdForDevice deviceId with
  | none => exact Or.inl ⟨rfl, rfl⟩
  | some nodeId => exact Or.inr ⟨nodeId, rfl, rfl⟩

theorem handleP2cUnsubscription_cases (task : BleRuntimeTask δ) (deviceId : DeviceId) :
    ((∀ nodeId, task.resolvedNodeIdForDevice deviceId = some nodeId →
        task.sessions[nodeId]? = none) ∧ task.handleP2cUnsubscription deviceId = task) ∨
    ∃ nodeId sessions, task.resolvedNodeIdForDevice deviceId = some nodeId ∧
      task.sessions[nodeId]? = some sessions ∧
      task.handleP2cUnsubscription deviceId = { task with
        sessions := task.sessions.insert nodeId (sessions.removeGattSubscription deviceId).1
        outbox := task.outbox ++ if (sessions.removeGattSubscription deviceId).2 then
          [.emitControl (rawBleLinkFaultedEvent nodeId gattNotifyFanoutEndpoint)] else [] } := by
  unfold BleRuntimeTask.handleP2cUnsubscription
  cases resolved : task.resolvedNodeIdForDevice deviceId with
  | none => exact Or.inl ⟨nofun, rfl⟩
  | some nodeId =>
      cases known : task.sessions[nodeId]? with
      | none =>
          simp only [known]
          refine Or.inl ⟨?_, trivial⟩
          rintro other ⟨⟩
          exact known
      | some sessions =>
          refine Or.inr ⟨nodeId, sessions, rfl, known, ?_⟩
          simp only [known]
          split
          · rfl
          · simp

/-- The faults a disconnect reports: the endpoints of the device among the sessions of its node. -/
def disconnectFaults (task : BleRuntimeTask δ) (deviceId : DeviceId) : List Effect :=
  match task.resolvedNodeIdForDevice deviceId with
  | none => []
  | some nodeId =>
      match task.sessions[nodeId]? with
      | none => []
      | some sessions =>
          (sessions.endpointsForDevice deviceId).map fun endpoint =>
            .emitControl (rawBleLinkFaultedEvent nodeId endpoint)

theorem faulted_of_mem_disconnectFaults {effect : Effect}
    (member : effect ∈ disconnectFaults task deviceId) :
    ∃ nodeId endpoint, effect = .emitControl (rawBleLinkFaultedEvent nodeId endpoint) := by
  unfold disconnectFaults at member
  split at member
  · cases member
  · split at member
    · cases member
    · obtain ⟨endpoint, -, rfl⟩ := List.mem_map.mp member
      exact ⟨_, endpoint, rfl⟩

theorem handleDeviceDisconnected_eq (task : BleRuntimeTask δ) (deviceId : DeviceId)
    (cause : DisconnectCause) :
    QuietStep
      { task with
        peers := (PeerDirectory.remove task.peers (BlePeerKey.ofDevice deviceId)).2
        l2capChannels := match task.resolvedNodeIdForDevice deviceId with
          | none => task.l2capChannels
          | some nodeId => task.l2capChannels.filter fun _ channel => channel.nodeId ≠ nodeId
        sessions := task.sessions.filter fun _ sessions => !sessions.referencesDevice deviceId
        outbox := task.outbox ++ disconnectFaults task deviceId }
      (task.handleDeviceDisconnected deviceId cause) := by
  have recovery (after : BleRuntimeTask δ) :
      QuietStep after (after.handleDisconnectRecovery deviceId cause) := by
    unfold BleRuntimeTask.handleDisconnectRecovery
    cases cause with
    | gatt133 => exact .refreshGattCache _ _
    | _ => exact .refl _
  unfold BleRuntimeTask.handleDeviceDisconnected disconnectFaults
  simp only [PeerDirectory.remove_fst]
  unfold BleRuntimeTask.resolvedNodeIdForDevice
  cases known : PeerDirectory.identityState task.peers (BlePeerKey.ofDevice deviceId) with
  | none => simpa using recovery _
  | some identity =>
      cases identity with
      | hint hint => simpa using recovery _
      | resolved nodeId =>
          simp only [emitFaultedLinksForDevice_eq, BleRuntimeTask.dropL2capChannelsForNode]
          exact recovery _

theorem step_deviceDisconnected {turn : Turn} {cause : DisconnectCause}
    (event : turn.event = .central (.deviceDisconnected deviceId cause)) :
    task.step turn =
      BleRuntimeTask.handleDeviceDisconnected { task with outbox := [] } deviceId cause := by
  unfold BleRuntimeTask.step BleRuntimeTask.handle
  rw [event]
  rfl

variable {start before after : BleRuntimeTask δ} {turn : Turn}

/-! ## What one change emits -/

/-- An effect of a change, with what the tables say when it is performed. -/
inductive EffectOf (before after : BleRuntimeTask δ) (turn : Turn) : Effect → Prop
  | quiet {effect} (quiet : Quiet effect) : EffectOf before after turn effect
  | gatt (deviceId : DeviceId) (nodeId : NodeId)
      (resolved : before.resolvedNodeIdForDevice deviceId = some nodeId) :
      EffectOf before after turn
        (.emitControl (rawBleLinkObservedEvent nodeId (gattEndpoint deviceId)))
  | spawn (channelId : BleChannelId) (deviceId : DeviceId) (nodeId : NodeId)
      (registers : after = before.installL2capSession nodeId deviceId) :
      EffectOf before after turn (.spawnL2capChannelTasks channelId)
  | l2cap (deviceId : DeviceId) (nodeId : NodeId)
      (resolved : before.resolvedNodeIdForDevice deviceId = some nodeId) :
      EffectOf before after turn
        (.emitControl (rawBleLinkObservedEvent nodeId (l2capEndpoint deviceId)))
  | payload (deviceId : DeviceId) (nodeId : NodeId) (endpoint : LinkEndpoint) (value : List UInt8)
      (located : deviceIdFromEndpoint endpoint = some deviceId)
      (attributed : before.resolvedNodeIdForDevice deviceId = some nodeId ∨
        ∃ channelId : BleChannelId, before.l2capChannels[channelId]? = some ⟨nodeId, deviceId⟩) :
      EffectOf before after turn (.emitPayload (.payloadReceived nodeId endpoint value))
  | closed {effect} (channelId : BleChannelId)
      (member : effect ∈ closeAnnouncement before channelId) : EffectOf before after turn effect
  | notify (deviceId : DeviceId) (payload : List UInt8) (receivers : List NodeId)
      (deviceIds notified : List DeviceId)
      (targets : platformNotifyDeviceIds before.targetOs before.sessions receivers deviceIds =
        some notified)
      (multicasts : Multicasts turn receivers) :
      EffectOf before after turn
        (.notifyCharacteristic deviceId jacquardP2cCharUuid payload receivers)
  | subscribed (deviceId : DeviceId) (nodeId : NodeId)
      (event : turn.event =
        .peripheralState (.subscriptionChanged deviceId jacquardP2cCharUuid true)) :
      EffectOf before after turn
        (.emitControl (rawBleLinkObservedEvent nodeId gattNotifyFanoutEndpoint))
  | unsubscribed (deviceId : DeviceId) (nodeId : NodeId)
      (event : turn.event =
        .peripheralState (.subscriptionChanged deviceId jacquardP2cCharUuid false)) :
      EffectOf before after turn
        (.emitControl (rawBleLinkFaultedEvent nodeId gattNotifyFanoutEndpoint))
  | faulted {effect} (deviceId : DeviceId) (cause : DisconnectCause)
      (event : turn.event = .central (.deviceDisconnected deviceId cause))
      (member : effect ∈ disconnectFaults before deviceId) : EffectOf before after turn effect

theorem effects_change (change : Change start turn before after) :
    ∃ effects, after.outbox = before.outbox ++ effects ∧
      ∀ effect ∈ effects, EffectOf before after turn effect := by
  cases change with
  | quiet quiet =>
      obtain ⟨effects, others, outbox⟩ := quiet.outbox
      exact ⟨effects, outbox, fun effect member => .quiet (others effect member)⟩
  | hint other hint => exact ⟨[], by simp, by simp⟩
  | forget other hint hinted => exact ⟨[], by simp, by simp⟩
  | resolve other otherNode admits unchanged read => exact ⟨[], by simp, by simp⟩
  | installGatt deviceId otherNode admits resolved =>
      refine ⟨_, List.append_assoc .., ?_⟩
      intro effect member
      rcases List.mem_cons.mp member with rfl | member
      · exact .quiet trivial
      · obtain rfl := List.mem_singleton.mp member
        exact .gatt deviceId otherNode resolved
  | installL2cap deviceId otherNode source resolved =>
      refine ⟨_, outbox_installL2capSession, ?_⟩
      intro effect member
      rcases List.mem_cons.mp member with rfl | member
      · exact .spawn _ deviceId otherNode rfl
      · obtain rfl := List.mem_singleton.mp member
        exact .l2cap deviceId otherNode resolved
  | payload deviceId otherNode endpoint value located attributed =>
      refine ⟨_, rfl, ?_⟩
      intro effect member
      obtain rfl := List.mem_singleton.mp member
      exact .payload deviceId otherNode endpoint value located attributed
  | close channelId closes =>
      exact ⟨_, outbox_handleL2capChannelClosed, fun effect member => .closed channelId member⟩
  | notify deviceId payload receivers deviceIds notified subscribers targets target multicasts =>
      refine ⟨_, rfl, ?_⟩
      intro effect member
      obtain rfl := List.mem_singleton.mp member
      exact .notify deviceId payload receivers deviceIds notified targets multicasts
  | subscribe deviceId event first =>
      rcases handleP2cSubscription_cases before deviceId with ⟨-, same⟩ | ⟨otherNode, -, equal⟩
      · exact ⟨[], by simp [same], by simp⟩
      · refine ⟨_, by rw [equal], ?_⟩
        intro effect member
        obtain rfl := List.mem_singleton.mp member
        exact .subscribed deviceId otherNode event
  | unsubscribe deviceId event first =>
      rcases handleP2cUnsubscription_cases before deviceId with
        ⟨-, same⟩ | ⟨otherNode, sessions, -, -, equal⟩
      · exact ⟨[], by simp [same], by simp⟩
      · refine ⟨_, by rw [equal], ?_⟩
        intro effect member
        split at member
        · obtain rfl := List.mem_singleton.mp member
          exact .unsubscribed deviceId otherNode event
        · cases member
  | disconnect deviceId cause event first =>
      obtain ⟨effects, others, outbox⟩ := (handleDeviceDisconnected_eq before deviceId cause).outbox
      rw [List.append_assoc] at outbox
      refine ⟨_, outbox, ?_⟩
      intro effect member
      rcases List.mem_append.mp member with fault | quiet
      · exact .faulted deviceId cause event fault
      · exact .quiet (others effect quiet)

theorem settings_change (change : Change start turn before after) :
    after.targetOs = before.targetOs ∧ (after.nextChannelId = before.nextChannelId ∨
      ∃ nodeId deviceId, after = before.installL2capSession nodeId deviceId) := by
  cases change with
  | quiet quiet => exact ⟨quiet.targetOs, Or.inl quiet.nextChannelId⟩
  | hint other hint => exact ⟨rfl, Or.inl rfl⟩
  | forget other hint hinted => exact ⟨rfl, Or.inl rfl⟩
  | resolve other otherNode admits unchanged read => exact ⟨rfl, Or.inl rfl⟩
  | installGatt deviceId otherNode admits resolved => exact ⟨rfl, Or.inl rfl⟩
  | installL2cap deviceId otherNode source resolved =>
      exact ⟨rfl, Or.inr ⟨otherNode, deviceId, rfl⟩⟩
  | payload deviceId otherNode endpoint value located attributed => exact ⟨rfl, Or.inl rfl⟩
  | close channelId closes =>
      rcases handleL2capChannelClosed_cases before channelId with
        ⟨-, same⟩ | ⟨_, -, -, -, -, next, targetOs, -⟩
      · rw [same]
        exact ⟨rfl, Or.inl rfl⟩
      · exact ⟨targetOs, Or.inl next⟩
  | notify deviceId payload receivers deviceIds notified subscribers targets target multicasts =>
      exact ⟨rfl, Or.inl rfl⟩
  | subscribe deviceId event first =>
      rcases handleP2cSubscription_cases before deviceId with ⟨-, same⟩ | ⟨_, -, equal⟩
      · rw [same]
        exact ⟨rfl, Or.inl rfl⟩
      · rw [equal]
        exact ⟨rfl, Or.inl rfl⟩
  | unsubscribe deviceId event first =>
      rcases handleP2cUnsubscription_cases before deviceId with ⟨-, same⟩ | ⟨_, _, -, -, equal⟩
      · rw [same]
        exact ⟨rfl, Or.inl rfl⟩
      · rw [equal]
        exact ⟨rfl, Or.inl rfl⟩
  | disconnect deviceId cause event first =>
      have disconnected := handleDeviceDisconnected_eq before deviceId cause
      exact ⟨disconnected.targetOs, Or.inl disconnected.nextChannelId⟩

/-! ## What one change does to an entry -/

/-- The sessions of a node after a change: those before it, or what one operation made of them. -/
inductive EntryUpdate (before after : BleRuntimeTask δ) (nodeId : NodeId) : PeerSessions → Prop
  | kept {sessions} (known : before.sessions[nodeId]? = some sessions) :
      EntryUpdate before after nodeId sessions
  | freshCentral (deviceId : DeviceId)
      (resolved : before.resolvedNodeIdForDevice deviceId = some nodeId) :
      EntryUpdate before after nodeId (.gattWithFallback (.gattCentral deviceId))
  | central {sessions} (deviceId : DeviceId)
      (resolved : before.resolvedNodeIdForDevice deviceId = some nodeId)
      (known : before.sessions[nodeId]? = some sessions) :
      EntryUpdate before after nodeId (sessions.installGattCentral (.gattCentral deviceId))
  | freshChannel (deviceId : DeviceId)
      (resolved : before.resolvedNodeIdForDevice deviceId = some nodeId)
      (registers : after = before.installL2capSession nodeId deviceId) :
      EntryUpdate before after nodeId
        (.l2capPreferred (.l2cap deviceId ⟨before.nextChannelId⟩) none)
  | channel {sessions} (deviceId : DeviceId)
      (resolved : before.resolvedNodeIdForDevice deviceId = some nodeId)
      (registers : after = before.installL2capSession nodeId deviceId)
      (known : before.sessions[nodeId]? = some sessions) :
      EntryUpdate before after nodeId
        (sessions.promoteL2cap (.l2cap deviceId ⟨before.nextChannelId⟩))
  | closed {sessions} (channelId : BleChannelId)
      (known : before.sessions[nodeId]? = some sessions) :
      EntryUpdate before after nodeId (sessions.downgradeL2cap channelId).1
  | freshSubscriber (deviceId : DeviceId)
      (resolved : before.resolvedNodeIdForDevice deviceId = some nodeId) :
      EntryUpdate before after nodeId (.gattNotifyFanout ⟨deviceId⟩)
  | subscribed {sessions} (deviceId : DeviceId)
      (resolved : before.resolvedNodeIdForDevice deviceId = some nodeId)
      (known : before.sessions[nodeId]? = some sessions) :
      EntryUpdate before after nodeId (sessions.installGattSubscription ⟨deviceId⟩)
  | unsubscribed {sessions} (deviceId : DeviceId)
      (known : before.sessions[nodeId]? = some sessions) :
      EntryUpdate before after nodeId (sessions.removeGattSubscription deviceId).1

theorem entryUpdate_change (change : Change start turn before after) {updated : PeerSessions}
    (known : after.sessions[nodeId]? = some updated) : EntryUpdate before after nodeId updated := by
  cases change with
  | quiet quiet =>
      rw [quiet.sessions] at known
      exact .kept known
  | hint other hint => exact .kept known
  | forget other hint hinted => exact .kept known
  | resolve other otherNode admits unchanged read => exact .kept known
  | installGatt deviceId otherNode admits resolved =>
      have lookup : (before.installGattSession otherNode deviceId).sessions[nodeId]? =
        some updated := known
      rw [sessions_installGattSession] at lookup
      split at lookup
      · rename_i same
        subst same
        cases old : before.sessions[nodeId]? with
        | none =>
            obtain rfl := by simpa [old] using lookup
            exact .freshCentral deviceId resolved
        | some sessions =>
            obtain rfl := by simpa [old] using lookup
            exact .central deviceId resolved old
      · exact .kept lookup
  | installL2cap deviceId otherNode source resolved =>
      rw [sessions_installL2capSession] at known
      split at known
      · rename_i same
        subst same
        cases old : before.sessions[nodeId]? with
        | none =>
            obtain rfl := by simpa [old] using known
            exact .freshChannel deviceId resolved rfl
        | some sessions =>
            obtain rfl := by simpa [old] using known
            exact .channel deviceId resolved rfl old
      · exact .kept known
  | payload deviceId otherNode endpoint value located attributed => exact .kept known
  | close channelId closes =>
      rw [sessions_handleL2capChannelClosed] at known
      split at known
      · obtain ⟨sessions, old, rfl⟩ := Option.map_eq_some_iff.mp known
        exact .closed channelId old
      · exact .kept known
  | notify deviceId payload receivers deviceIds notified subscribers targets target multicasts =>
      exact .kept known
  | subscribe deviceId event first =>
      rcases handleP2cSubscription_cases before deviceId with ⟨-, same⟩ | ⟨otherNode, resolved, equal⟩
      · rw [same] at known
        exact .kept known
      · rw [equal, EntryMap.getElem?_modifyOrInsert] at known
        split at known
        · rename_i same
          subst same
          cases old : before.sessions[nodeId]? with
          | none =>
              obtain rfl := by simpa [old] using known
              exact .freshSubscriber deviceId resolved
          | some sessions =>
              obtain rfl := by simpa [old] using known
              exact .subscribed deviceId resolved old
        · exact .kept known
  | unsubscribe deviceId event first =>
      rcases handleP2cUnsubscription_cases before deviceId with
        ⟨-, same⟩ | ⟨otherNode, sessions, -, old, equal⟩
      · rw [same] at known
        exact .kept known
      · rw [equal, EntryMap.getElem?_insert] at known
        split at known
        · rename_i same
          subst same
          cases known
          exact .unsubscribed deviceId old
        · exact .kept known
  | disconnect deviceId cause event first =>
      rw [(handleDeviceDisconnected_eq before deviceId cause).sessions] at known
      exact .kept ((EntryMap.getElem?_filter_eq_some ..).mp known).1

theorem l2capChannels_change (change : Change start turn before after)
    {channel : ActiveL2capChannel} (registered : after.l2capChannels[channelId]? = some channel) :
    before.l2capChannels[channelId]? = some channel ∨
      (channelId = ⟨before.nextChannelId⟩ ∧
        before.resolvedNodeIdForDevice channel.deviceId = some channel.nodeId ∧
        after = before.installL2capSession channel.nodeId channel.deviceId) := by
  cases change with
  | quiet quiet =>
      rw [quiet.l2capChannels] at registered
      exact Or.inl registered
  | hint other hint => exact Or.inl registered
  | forget other hint hinted => exact Or.inl registered
  | resolve other otherNode admits unchanged read => exact Or.inl registered
  | installGatt deviceId otherNode admits resolved => exact Or.inl registered
  | installL2cap deviceId otherNode source resolved =>
      rw [l2capChannels_installL2capSession] at registered
      split at registered
      · rename_i same
        cases registered
        exact Or.inr ⟨same, resolved, rfl⟩
      · exact Or.inl registered
  | payload deviceId otherNode endpoint value located attributed => exact Or.inl registered
  | close closed closes =>
      rw [l2capChannels_handleL2capChannelClosed] at registered
      split at registered
      · cases registered
      · exact Or.inl registered
  | notify deviceId payload receivers deviceIds notified subscribers targets target multicasts =>
      exact Or.inl registered
  | subscribe deviceId event first =>
      rcases handleP2cSubscription_cases before deviceId with ⟨-, same⟩ | ⟨otherNode, -, equal⟩
      · exact Or.inl (by rwa [same] at registered)
      · exact Or.inl (by rwa [equal] at registered)
  | unsubscribe deviceId event first =>
      rcases handleP2cUnsubscription_cases before deviceId with ⟨-, same⟩ | ⟨_, _, -, -, equal⟩
      · exact Or.inl (by rwa [same] at registered)
      · exact Or.inl (by rwa [equal] at registered)
  | disconnect deviceId cause event first =>
      rw [(handleDeviceDisconnected_eq before deviceId cause).l2capChannels] at registered
      dsimp only at registered
      split at registered
      · exact Or.inl registered
      · exact Or.inl ((EntryMap.getElem?_filter_eq_some ..).mp registered).1

theorem l2capChannels_kept (change : Change start turn before after) {channel : ActiveL2capChannel}
    (registered : before.l2capChannels[channelId]? = some channel) :
    after.l2capChannels[channelId]? = some channel ∨
      after = before.handleL2capChannelClosed channelId ∨
      channelId = ⟨before.nextChannelId⟩ ∧
        (∃ nodeId deviceId, after = before.installL2capSession nodeId deviceId) ∨
      ∃ deviceId cause, turn.event = .central (.deviceDisconnected deviceId cause) ∧
        before = start ∧ after = before.handleDeviceDisconnected deviceId cause ∧
        before.resolvedNodeIdForDevice deviceId = some channel.nodeId := by
  cases change with
  | quiet quiet => exact Or.inl (by rwa [quiet.l2capChannels])
  | hint other hint => exact Or.inl registered
  | forget other hint hinted => exact Or.inl registered
  | resolve other otherNode admits unchanged read => exact Or.inl registered
  | installGatt deviceId otherNode admits resolved => exact Or.inl registered
  | installL2cap deviceId otherNode source resolved =>
      rw [l2capChannels_installL2capSession]
      split_ifs with same
      · exact Or.inr (Or.inr (Or.inl ⟨same, otherNode, deviceId, rfl⟩))
      · exact Or.inl registered
  | payload deviceId otherNode endpoint value located attributed => exact Or.inl registered
  | close closed closes =>
      rw [l2capChannels_handleL2capChannelClosed]
      split_ifs with same
      · exact Or.inr (Or.inl (by rw [same]))
      · exact Or.inl registered
  | notify deviceId payload receivers deviceIds notified subscribers targets target multicasts =>
      exact Or.inl registered
  | subscribe deviceId event first =>
      rcases handleP2cSubscription_cases before deviceId with ⟨-, same⟩ | ⟨otherNode, -, equal⟩
      · exact Or.inl (by rwa [same])
      · exact Or.inl (by rwa [equal])
  | unsubscribe deviceId event first =>
      rcases handleP2cUnsubscription_cases before deviceId with ⟨-, same⟩ | ⟨_, _, -, -, equal⟩
      · exact Or.inl (by rwa [same])
      · exact Or.inl (by rwa [equal])
  | disconnect deviceId cause event first =>
      rw [(handleDeviceDisconnected_eq before deviceId cause).l2capChannels]
      dsimp only
      split
      · exact Or.inl registered
      · rename_i dropped resolved
        by_cases same : channel.nodeId = dropped
        · subst same
          exact Or.inr (Or.inr (Or.inr ⟨deviceId, cause, event, first, rfl, resolved⟩))
        · exact Or.inl ((EntryMap.getElem?_filter_eq_some ..).mpr ⟨registered, by simpa using same⟩)

end

end JqBle.Proof.LinkProfile
