import JqBle.Proof.LinkProfile.Scenario
import JqBle.Proof.LinkProfile.Tables

/-!
# Attribution fails closed

A device is resolved to a node only by reading the node's id from it. The sessions and channels of a
node mention only devices that were read as it and have not disconnected since, so whatever is emitted
for a node names such a device. In a finite map they are still resolved to the node; a directory that
forgets the address a node had before leaves them in the tables.
-/

namespace JqBle.Proof.LinkProfile
open Std Host Library Execution JqBle.LinkProfile

variable {δ : Type} [PeerDirectory δ BlePeerKey DiscoveredPeerHint]
  {start before after task : BleRuntimeTask δ} {turn : Turn} {nodeId : NodeId} {deviceId : DeviceId}

/-! ## Reading an identity -/

def Disconnects (deviceId : DeviceId) (turn : Turn) : Prop :=
  ∃ cause, turn.event = .central (.deviceDisconnected deviceId cause)

def identityRead (deviceId : DeviceId) (nodeId : NodeId) : Effect :=
  .readCharacteristic deviceId jacquardNodeIdCharUuid (.ok nodeId.bytes.toList)

def AdmittedBy (initial : BleRuntimeTask δ) (deviceId : DeviceId) (nodeId : NodeId)
    (previous : List Turn) (turn : Turn) : Prop :=
  Admits (exec BleRuntimeTask.step initial previous) turn deviceId nodeId ∧
    identityRead deviceId nodeId ∈
      ((exec BleRuntimeTask.step initial previous).step turn).outbox

theorem resolved_of_peers (peers : after.peers = before.peers) :
    after.resolvedNodeIdForDevice deviceId = before.resolvedNodeIdForDevice deviceId := by
  unfold BleRuntimeTask.resolvedNodeIdForDevice
  rw [peers]

theorem resolved_of_upsertHint {other : DeviceId} {hint : DiscoveredPeerHint}
    (resolved : BleRuntimeTask.resolvedNodeIdForDevice { before with
      peers := PeerDirectory.upsertHint before.peers (BlePeerKey.ofDevice other) hint } deviceId =
        some nodeId) : before.resolvedNodeIdForDevice deviceId = some nodeId := by
  rw [resolvedNodeIdForDevice_eq_some] at resolved ⊢
  by_cases same : deviceId = other
  · subst same
    rcases PeerDirectory.identityState_upsertHint before.peers (BlePeerKey.ofDevice deviceId) hint with
      hinted | ⟨kept, -⟩
    · rw [hinted] at resolved
      cases resolved
    · rwa [kept] at resolved
  · rwa [PeerDirectory.identityState_upsertHint_of_ne _ _ _ _ (by simpa using same)] at resolved

theorem resolved_of_resolve {other : DeviceId} {node : NodeId}
    (resolved : BleRuntimeTask.resolvedNodeIdForDevice { before with
      peers := PeerDirectory.resolve before.peers (BlePeerKey.ofDevice other) node } deviceId =
        some nodeId) :
    (deviceId = other ∧ nodeId = node) ∨
      deviceId ≠ other ∧ before.resolvedNodeIdForDevice deviceId = some nodeId := by
  rw [resolvedNodeIdForDevice_eq_some] at resolved ⊢
  by_cases same : deviceId = other
  · subst same
    rw [PeerDirectory.identityState_resolve, Option.some.injEq,
      PeerIdentityState.resolved.injEq] at resolved
    exact Or.inl ⟨rfl, resolved.symm⟩
  · rcases PeerDirectory.identityState_resolve_of_ne before.peers (BlePeerKey.ofDevice other) node
      (BlePeerKey.ofDevice deviceId) (by simpa using same) with kept | forgotten
    · exact Or.inr ⟨same, kept.symm.trans resolved⟩
    · rw [forgotten] at resolved
      cases resolved

theorem resolved_remove (other : DeviceId) :
    BleRuntimeTask.resolvedNodeIdForDevice { before with
      peers := (PeerDirectory.remove before.peers (BlePeerKey.ofDevice other)).2 } deviceId =
        if deviceId = other then none else before.resolvedNodeIdForDevice deviceId := by
  unfold BleRuntimeTask.resolvedNodeIdForDevice
  rw [PeerDirectory.identityState_remove]
  simp only [BlePeerKey.ofDevice_inj]
  split_ifs <;> rfl

theorem resolved_handleDeviceDisconnected (other : DeviceId) (cause : DisconnectCause) :
    (before.handleDeviceDisconnected other cause).resolvedNodeIdForDevice deviceId =
      if deviceId = other then none else before.resolvedNodeIdForDevice deviceId := by
  rw [resolved_of_peers (handleDeviceDisconnected_eq before other cause).peers, ← resolved_remove]
  rfl

theorem resolved_change (change : Change start turn before after)
    (resolved : after.resolvedNodeIdForDevice deviceId = some nodeId) :
    before.resolvedNodeIdForDevice deviceId = some nodeId ∨
      (Admits start turn deviceId nodeId ∧ identityRead deviceId nodeId ∈ after.outbox ∧
        after.sessions = start.sessions) := by
  cases change with
  | quiet quiet => exact Or.inl (by rwa [← resolved_of_peers quiet.peers])
  | hint other hint => exact Or.inl (resolved_of_upsertHint resolved)
  | forget other hint hinted =>
      rw [resolved_remove] at resolved
      split_ifs at resolved
      exact Or.inl resolved
  | resolve other otherNode admits unchanged read =>
      rcases resolved_of_resolve resolved with ⟨rfl, rfl⟩ | ⟨-, earlier⟩
      · exact Or.inr ⟨admits, read, unchanged.2⟩
      · exact Or.inl earlier
  | installGatt other otherNode admits known => exact Or.inl resolved
  | installL2cap other otherNode source known => exact Or.inl resolved
  | payload other otherNode endpoint value located attributed => exact Or.inl resolved
  | close channelId closes =>
      exact Or.inl (by rwa [resolved_of_peers peers_handleL2capChannelClosed] at resolved)
  | notify other payload receivers deviceIds notified subscribers targets target multicasts =>
      exact Or.inl resolved
  | subscribe other event first =>
      rcases handleP2cSubscription_cases before other with ⟨-, same⟩ | ⟨_, -, equal⟩
      · exact Or.inl (by rwa [same] at resolved)
      · exact Or.inl (by rwa [equal] at resolved)
  | unsubscribe other event first =>
      rcases handleP2cUnsubscription_cases before other with ⟨-, same⟩ | ⟨_, _, -, -, equal⟩
      · exact Or.inl (by rwa [same] at resolved)
      · exact Or.inl (by rwa [equal] at resolved)
  | disconnect other cause event first =>
      rw [resolved_handleDeviceDisconnected] at resolved
      split_ifs at resolved
      exact Or.inl resolved

/-! ## What the tables mention -/

def Referenced (task : BleRuntimeTask δ) (nodeId : NodeId) (deviceId : DeviceId) : Prop :=
  ∃ sessions, task.sessions[nodeId]? = some sessions ∧ sessions.referencesDevice deviceId = true

def PrefersDevice (task : BleRuntimeTask δ) (nodeId : NodeId) (deviceId : DeviceId) : Prop :=
  ∃ sessions session, task.sessions[nodeId]? = some sessions ∧
    sessions.preferredEgress = some session ∧ session.deviceId = deviceId

theorem references_update {updated : PeerSessions}
    (update : EntryUpdate before after nodeId updated)
    (references : updated.referencesDevice deviceId = true) :
    before.resolvedNodeIdForDevice deviceId = some nodeId ∨ Referenced before nodeId deviceId := by
  cases update with
  | kept known => exact Or.inr ⟨updated, known, references⟩
  | freshCentral other resolved =>
      obtain rfl : other = deviceId := referencesDevice_gattWithFallback.mp references
      exact Or.inl resolved
  | central other resolved known =>
      rcases references_installGattCentral references with rfl | references
      · exact Or.inl resolved
      · exact Or.inr ⟨_, known, references⟩
  | freshChannel other resolved registers =>
      obtain rfl : other = deviceId := referencesDevice_l2capPreferred.mp references
      exact Or.inl resolved
  | channel other resolved registers known =>
      rcases references_promoteL2cap references with rfl | references
      · exact Or.inl resolved
      · exact Or.inr ⟨_, known, references⟩
  | closed channelId known => exact Or.inr ⟨_, known, references_downgradeL2cap references⟩
  | freshSubscriber other resolved =>
      obtain rfl : other = deviceId := referencesDevice_gattNotifyFanout.mp references
      exact Or.inl resolved
  | subscribed other resolved known =>
      rcases references_installGattSubscription references with rfl | references
      · exact Or.inl resolved
      · exact Or.inr ⟨_, known, references⟩
  | unsubscribed other known => exact Or.inr ⟨_, known, references_removeGattSubscription references⟩

theorem referenced_change (change : Change start turn before after)
    (referenced : Referenced after nodeId deviceId) :
    before.resolvedNodeIdForDevice deviceId = some nodeId ∨ Referenced before nodeId deviceId := by
  obtain ⟨updated, known, references⟩ := referenced
  exact references_update (entryUpdate_change change known) references

theorem not_referenced_after_disconnect {cause : DisconnectCause} :
    ¬ Referenced (before.handleDeviceDisconnected deviceId cause) nodeId deviceId := by
  rintro ⟨sessions, known, references⟩
  rw [(handleDeviceDisconnected_eq before deviceId cause).sessions] at known
  have dropped := ((EntryMap.getElem?_filter_eq_some ..).mp known).2
  simp [references] at dropped

omit [PeerDirectory δ BlePeerKey DiscoveredPeerHint] in
theorem referenced_of_prefersDevice (prefers : PrefersDevice task nodeId deviceId) :
    Referenced task nodeId deviceId := by
  obtain ⟨sessions, session, known, preferred, same⟩ := prefers
  exact ⟨sessions, known, referencesDevice_iff.mpr
    (Or.inl ⟨session, preferredEgress_mem_iterSessions preferred, same⟩)⟩

/-- The runtime takes the device for one of the node: it is resolved to it, or a session or channel of
the node is on it. -/
inductive Associated (task : BleRuntimeTask δ) (nodeId : NodeId) (deviceId : DeviceId) : Prop
  | resolved (resolved : task.resolvedNodeIdForDevice deviceId = some nodeId)
  | referenced (referenced : Referenced task nodeId deviceId)
  | channel (channelId : BleChannelId)
      (registered : task.l2capChannels[channelId]? = some ⟨nodeId, deviceId⟩)

theorem associated_change (change : Change start turn before after)
    (associated : Associated after nodeId deviceId) :
    Associated before nodeId deviceId ∨
      (Admits start turn deviceId nodeId ∧ identityRead deviceId nodeId ∈ after.outbox) := by
  cases associated with
  | resolved resolved =>
      rcases resolved_change change resolved with earlier | ⟨admits, read, -⟩
      · exact Or.inl (.resolved earlier)
      · exact Or.inr ⟨admits, read⟩
  | referenced referenced =>
      rcases referenced_change change referenced with resolved | earlier
      · exact Or.inl (.resolved resolved)
      · exact Or.inl (.referenced earlier)
  | channel channelId registered =>
      rcases l2capChannels_change change registered with earlier | ⟨-, resolved, -⟩
      · exact Or.inl (.channel channelId earlier)
      · exact Or.inl (.resolved resolved)

/-! ## Devices of one node -/

/-- No device is referenced for two nodes, or for another node than it is resolved to. -/
structure OwnedDevices (task : BleRuntimeTask δ) : Prop where
  referenced : ∀ nodeId other deviceId, Referenced task nodeId deviceId →
    Referenced task other deviceId → nodeId = other
  resolved : ∀ nodeId other deviceId, Referenced task nodeId deviceId →
    task.resolvedNodeIdForDevice deviceId = some other → nodeId = other

/-- A device that is referenced when it is admitted is referenced for the node it is admitted as. -/
def AdmitsAlone (task : BleRuntimeTask δ) (turn : Turn) : Prop :=
  ∀ deviceId nodeId, Admits task turn deviceId nodeId →
    ∀ other, Referenced task other deviceId → other = nodeId

theorem admitsAlone_of_empty (empty : task.sessions = ∅) : AdmitsAlone task turn := by
  rintro deviceId nodeId - other ⟨sessions, known, -⟩
  simp [empty] at known

theorem OwnedDevices.same (owned : OwnedDevices task) {other : NodeId}
    (first : task.resolvedNodeIdForDevice deviceId = some nodeId ∨ Referenced task nodeId deviceId)
    (second : task.resolvedNodeIdForDevice deviceId = some other ∨ Referenced task other deviceId) :
    nodeId = other := by
  rcases first with first | first
  · rcases second with second | second
    · exact Option.some.inj (first.symm.trans second)
    · exact (owned.resolved other nodeId deviceId second first).symm
  · rcases second with second | second
    · exact owned.resolved nodeId other deviceId first second
    · exact owned.referenced nodeId other deviceId first second

theorem OwnedDevices.change (owned : OwnedDevices before) (alone : AdmitsAlone start turn)
    (change : Change start turn before after) : OwnedDevices after := by
  constructor
  · intro nodeId other deviceId first second
    exact owned.same (referenced_change change first) (referenced_change change second)
  · intro nodeId other deviceId referenced resolved
    rcases resolved_change change resolved with earlier | ⟨admits, -, sessions⟩
    · exact owned.same (referenced_change change referenced) (Or.inl earlier)
    · apply alone deviceId other admits nodeId
      unfold Referenced
      rwa [← sessions]

/-- No device is the preferred one of two nodes. -/
def UniqueEgress (task : BleRuntimeTask δ) : Prop :=
  ∀ nodeId other deviceId, PrefersDevice task nodeId deviceId → PrefersDevice task other deviceId →
    nodeId = other

theorem OwnedDevices.uniqueEgress (owned : OwnedDevices task) : UniqueEgress task :=
  fun nodeId other deviceId first second => owned.referenced nodeId other deviceId
    (referenced_of_prefersDevice first) (referenced_of_prefersDevice second)

omit [PeerDirectory δ BlePeerKey DiscoveredPeerHint] in
theorem UniqueEgress.egressSession (unique : UniqueEgress task) {sessions : PeerSessions}
    {session : BleSession} (known : task.sessions[nodeId]? = some sessions)
    (preferred : sessions.preferredEgress = some session) :
    task.egressSessionForDevice session.deviceId = some session := by
  apply EntryMap.findValue_of_unique known (by simp [PeerSessions.egressForDevice, preferred])
  intro other others otherKnown found
  obtain ⟨otherSession, egress⟩ := Option.ne_none_iff_exists'.mp found
  obtain ⟨otherPreferred, same⟩ := Option.filter_eq_some_iff.mp egress
  exact unique other nodeId session.deviceId
    ⟨others, otherSession, otherKnown, otherPreferred, by simpa using same⟩
    ⟨sessions, session, known, preferred, rfl⟩

/-! ## What is emitted -/

/-- The event names a device of a node: a payload from it, or an active link to it. -/
def AttributesEvent (nodeId : NodeId) (deviceId : DeviceId) : TransportIngressEvent → Prop
  | .payloadReceived fromNodeId endpoint _ =>
      fromNodeId = nodeId ∧ deviceIdFromEndpoint endpoint = some deviceId
  | .linkObserved remoteNodeId link _ _ _ =>
      remoteNodeId = nodeId ∧ link.state = .active ∧
        deviceIdFromEndpoint link.endpoint = some deviceId

def Attributes (nodeId : NodeId) (deviceId : DeviceId) : Effect → Prop
  | .emitControl event | .emitPayload event => AttributesEvent nodeId deviceId event
  | _ => False

theorem not_attributes_of_quiet {effect : Effect} (quiet : Quiet effect) :
    ¬ Attributes nodeId deviceId effect := by
  cases effect <;> simp_all [Quiet, Attributes]

theorem not_attributes_faulted (other : NodeId) (endpoint : LinkEndpoint) :
    ¬ Attributes nodeId deviceId (.emitControl (rawBleLinkFaultedEvent other endpoint)) := by
  rintro ⟨-, active, -⟩
  cases active

theorem attributes_observed {other : NodeId} {endpoint : LinkEndpoint}
    (attributes : Attributes nodeId deviceId (.emitControl (rawBleLinkObservedEvent other endpoint))) :
    other = nodeId ∧ deviceIdFromEndpoint endpoint = some deviceId :=
  ⟨attributes.1, attributes.2.2⟩

theorem not_attributes_disconnectFaults {effect : Effect} {other : DeviceId}
    (member : effect ∈ disconnectFaults task other) : ¬ Attributes nodeId deviceId effect := by
  obtain ⟨node, endpoint, rfl⟩ := faulted_of_mem_disconnectFaults member
  exact not_attributes_faulted node endpoint

theorem associated_of_closeAnnouncement {channelId : BleChannelId} {effect : Effect}
    (member : effect ∈ closeAnnouncement task channelId)
    (attributes : Attributes nodeId deviceId effect) : Associated task nodeId deviceId := by
  unfold closeAnnouncement at member
  split at member
  · cases member
  · rename_i channel registered
    split at member
    · cases member
    · rename_i sessions known
      obtain ⟨session, left, rfl⟩ := List.mem_map.mp member
      obtain ⟨rfl, located⟩ := attributes_observed attributes
      rw [BleSession.deviceIdFromEndpoint_endpoint, Option.some.injEq] at located
      -- The session that is left was there before the downgrade.
      have held : session ∈ sessions.iterSessions := mem_iterSessions_downgradeL2cap
        (preferredEgress_mem_iterSessions (Option.mem_toList.mp left))
      exact .referenced ⟨sessions, known, referencesDevice_iff.mpr (Or.inl ⟨session, held, located⟩)⟩

theorem associated_of_effectOf {effect : Effect} (source : EffectOf before after turn effect)
    (attributes : Attributes nodeId deviceId effect) : Associated before nodeId deviceId := by
  cases source with
  | quiet quiet => exact absurd attributes (not_attributes_of_quiet quiet)
  | gatt other otherNode resolved =>
      obtain ⟨rfl, located⟩ := attributes_observed attributes
      obtain rfl : other = deviceId := by simpa using located
      exact .resolved resolved
  | spawn channelId other otherNode registers => cases attributes
  | l2cap other otherNode resolved =>
      obtain ⟨rfl, located⟩ := attributes_observed attributes
      obtain rfl : other = deviceId := by simpa using located
      exact .resolved resolved
  | payload other otherNode endpoint value located source =>
      obtain ⟨rfl, place⟩ := attributes
      obtain rfl : other = deviceId := by
        rw [located] at place
        exact Option.some.inj place
      rcases source with resolved | ⟨channelId, registered⟩
      · exact .resolved resolved
      · exact .channel channelId registered
  | closed channelId announced => exact associated_of_closeAnnouncement announced attributes
  | notify other payload receivers deviceIds notified targets multicasts => cases attributes
  | subscribed other otherNode event =>
      -- The fanout endpoint names no device.
      obtain ⟨-, located⟩ := attributes_observed attributes
      simp at located
  | unsubscribed other otherNode event => exact absurd attributes (not_attributes_faulted _ _)
  | faulted other cause event fault => exact absurd attributes (not_attributes_disconnectFaults fault)

theorem not_attributes_disconnect {other : DeviceId} (disconnects : Disconnects other turn)
    {effect : Effect} (member : effect ∈ (task.step turn).outbox) :
    ¬ Attributes nodeId deviceId effect := by
  obtain ⟨cause, event⟩ := disconnects
  rw [step_deviceDisconnected event] at member
  obtain ⟨effects, others, outbox⟩ :=
    (handleDeviceDisconnected_eq { task with outbox := [] } other cause).outbox
  rw [outbox] at member
  rcases List.mem_append.mp member with fault | quiet
  · exact not_attributes_disconnectFaults (by simpa using fault)
  · exact not_attributes_of_quiet (others effect quiet)

/-! ## One turn -/

/-- Where a device that is taken for one of the node comes from: the state before the turn, or a read of
the turn that is among `reads`. -/
def Sourced (start : BleRuntimeTask δ) (turn : Turn) (reads : List Effect) (nodeId : NodeId)
    (deviceId : DeviceId) : Prop :=
  Associated start nodeId deviceId ∨
    (Admits start turn deviceId nodeId ∧ identityRead deviceId nodeId ∈ reads)

theorem Sourced.append {reads more : List Effect} (sourced : Sourced start turn reads nodeId deviceId) :
    Sourced start turn (reads ++ more) nodeId deviceId := by
  rcases sourced with associated | ⟨admits, read⟩
  · exact Or.inl associated
  · exact Or.inr ⟨admits, List.mem_append_left more read⟩

structure TurnSourced (start : BleRuntimeTask δ) (turn : Turn) (task : BleRuntimeTask δ) : Prop where
  associated : ∀ nodeId deviceId, Associated task nodeId deviceId →
    Sourced start turn task.outbox nodeId deviceId
  emitted : Preceded (fun earlier effect => ∀ nodeId deviceId, Attributes nodeId deviceId effect →
    Sourced start turn earlier nodeId deviceId) task.outbox

theorem TurnSourced.change (sourced : TurnSourced start turn before)
    (change : Change start turn before after) : TurnSourced start turn after := by
  obtain ⟨effects, outbox, sources⟩ := effects_change change
  constructor
  · intro nodeId deviceId associated
    rcases associated_change change associated with earlier | admitted
    · rw [outbox]
      exact (sourced.associated nodeId deviceId earlier).append
    · exact Or.inr admitted
  · rw [outbox]
    apply sourced.emitted.append
    · intro earlier more effect sourced nodeId deviceId attributes
      exact (sourced nodeId deviceId attributes).append
    · intro effect member nodeId deviceId attributes
      exact sourced.associated nodeId deviceId
        (associated_of_effectOf (sources effect member) attributes)

theorem associated_of_outbox {outbox : List Effect} :
    Associated { task with outbox := outbox } nodeId deviceId ↔ Associated task nodeId deviceId := by
  constructor
  · rintro (resolved | referenced | ⟨channelId, registered⟩)
    · exact .resolved resolved
    · exact .referenced referenced
    · exact .channel channelId registered
  · rintro (resolved | referenced | ⟨channelId, registered⟩)
    · exact .resolved resolved
    · exact .referenced referenced
    · exact .channel channelId registered

theorem turnSourced_step (task : BleRuntimeTask δ) (turn : Turn) :
    TurnSourced { task with outbox := [] } turn (task.step turn) := by
  apply step_induction task turn
  · exact ⟨fun _ _ associated => Or.inl associated, preceded_nil⟩
  · intro before after change earlier
    exact earlier.change change

theorem held_step (held : (task.step turn).resolvedNodeIdForDevice deviceId = some nodeId ∨
      Referenced (task.step turn) nodeId deviceId) :
    (task.resolvedNodeIdForDevice deviceId = some nodeId ∨ Referenced task nodeId deviceId) ∨
      (Admits task turn deviceId nodeId ∧
        identityRead deviceId nodeId ∈ (task.step turn).outbox) := by
  revert held
  refine step_induction (P := fun reached =>
    reached.resolvedNodeIdForDevice deviceId = some nodeId ∨ Referenced reached nodeId deviceId →
      (task.resolvedNodeIdForDevice deviceId = some nodeId ∨ Referenced task nodeId deviceId) ∨
        (Admits task turn deviceId nodeId ∧ identityRead deviceId nodeId ∈ reached.outbox))
    task turn Or.inl ?_
  intro before after change ih held
  have earlier : (before.resolvedNodeIdForDevice deviceId = some nodeId ∨
      Referenced before nodeId deviceId) ∨
      (Admits task turn deviceId nodeId ∧ identityRead deviceId nodeId ∈ after.outbox) := by
    rcases held with resolved | referenced
    · rcases resolved_change change resolved with earlier | ⟨admits, read, -⟩
      · exact Or.inl (Or.inl earlier)
      · exact Or.inr ⟨admits, read⟩
    · exact Or.inl (referenced_change change referenced)
  rcases earlier with earlier | admitted
  · obtain ⟨effects, outbox, -⟩ := effects_change change
    rw [outbox]
    exact (ih earlier).imp_right fun ⟨admits, read⟩ => ⟨admits, List.mem_append_left _ read⟩
  · exact Or.inr admitted

/-! ## Whole runs -/

theorem runOf_of_snoc {restored : List BleDevice} {turns : List Turn}
    (run : RunOf restored (turns ++ [turn])) : RunOf restored turns := by
  obtain ⟨rehydrated, looped, split, initially, loop⟩ := run
  cases looped using List.reverseRecOn with
  | nil =>
      rw [List.append_nil] at split
      subst split
      refine ⟨turns, [], by simp, ?_, by simp⟩
      rw [List.map_append] at initially
      exact (List.prefix_append ..).trans initially
  | append_singleton looped last =>
      rw [← List.append_assoc] at split
      obtain ⟨rfl, -⟩ := List.append_inj' split rfl
      exact ⟨rehydrated, looped, rfl, initially, fun turn member => loop turn (by simp [member])⟩

theorem runOf_restored {restored : List BleDevice} {turns : List Turn} {device : BleDevice}
    (run : RunOf restored (turns ++ [turn])) (event : turn.event = .restoredDevice device) :
    (turns ++ [turn]).map Turn.event <+: restored.map RuntimeEvent.restoredDevice := by
  obtain ⟨rehydrated, looped, split, initially, loop⟩ := run
  have ended : looped = [] := by
    cases looped using List.reverseRecOn with
    | nil => rfl
    | append_singleton looped last =>
        rw [← List.append_assoc] at split
        obtain ⟨-, same⟩ := List.append_inj' split rfl
        obtain rfl : turn = last := by simpa using same
        exact absurd event (loop turn (by simp) device)
  rw [ended, List.append_nil] at split
  rwa [split]

theorem runOf_restored_first {restored : List BleDevice} {turns : List Turn} {device : BleDevice}
    (run : RunOf restored (turns ++ [turn])) (distinct : (restored.map BleDevice.id).Nodup)
    (event : turn.event = .restoredDevice device) {earlier : Turn} (member : earlier ∈ turns) :
    ∃ other, earlier.event = .restoredDevice other ∧ other.id ≠ device.id := by
  obtain ⟨rest, initially⟩ := runOf_restored run event
  rw [List.map_append, List.map_singleton, event, List.append_assoc, eq_comm] at initially
  obtain ⟨first, others, rfl, firstEvents, otherEvents⟩ := List.map_eq_append_iff.mp initially
  obtain ⟨last, others, rfl, lastEvent, -⟩ := List.map_eq_cons_iff.mp otherEvents
  cases lastEvent
  have event : earlier.event ∈ first.map RuntimeEvent.restoredDevice := by
    rw [firstEvents]
    exact List.mem_map_of_mem member
  obtain ⟨other, otherMember, same⟩ := List.mem_map.mp event
  refine ⟨other, same.symm, ?_⟩
  intro equal
  rw [List.map_append, List.map_cons] at distinct
  have apart := (List.nodup_append.mp distinct).2.2 other.id (List.mem_map_of_mem otherMember)
    device.id (by simp)
  exact apart equal

variable {targetOs : TargetOs} {localNodeId : NodeId} {config : BleConfig}
  {restoredState : BleRestoredState} {initial : BleRuntimeTask δ}

theorem not_associated_new
    (created : BleRuntimeTask.new targetOs localNodeId config restoredState = .ok initial) :
    ¬ Associated initial nodeId deviceId := by
  obtain rfl := eq_launch_of_new created
  rintro (resolved | ⟨sessions, known, -⟩ | ⟨channelId, registered⟩)
  · simp [BleRuntimeTask.resolvedNodeIdForDevice, BleRuntimeTask.launch] at resolved
  · simp [BleRuntimeTask.launch] at known
  · simp [BleRuntimeTask.launch] at registered

/-- A device that is resolved to a node or referenced for it was admitted as that node, and has not
disconnected since. -/
theorem admitted_of_held
    (created : BleRuntimeTask.new targetOs localNodeId config restoredState = .ok initial)
    {turns : List Turn}
    (held : (exec BleRuntimeTask.step initial turns).resolvedNodeIdForDevice deviceId = some nodeId ∨
      Referenced (exec BleRuntimeTask.step initial turns) nodeId deviceId) :
    Since (AdmittedBy initial deviceId nodeId) (fun turn => ¬ Disconnects deviceId turn) turns := by
  induction turns using List.reverseRecOn with
  | nil => exact absurd (held.elim .resolved .referenced) (not_associated_new created)
  | append_singleton before turn ih =>
      rw [exec_snoc] at held
      rw [since_snoc]
      rcases held_step held with earlier | admitted
      · refine Or.inr ⟨ih earlier, ?_⟩
        rintro ⟨cause, event⟩
        rw [step_deviceDisconnected event] at held
        rcases held with resolved | referenced
        · rw [resolved_handleDeviceDisconnected, if_pos rfl] at resolved
          cases resolved
        · exact not_referenced_after_disconnect referenced
      · exact Or.inl admitted

theorem admitted_of_associated
    (created : BleRuntimeTask.new targetOs localNodeId config restoredState = .ok initial)
    {turns : List Turn}
    (associated : Associated (exec BleRuntimeTask.step initial turns) nodeId deviceId) :
    Since (AdmittedBy initial deviceId nodeId) (fun _ => True) turns := by
  induction turns using List.reverseRecOn with
  | nil => exact absurd associated (not_associated_new created)
  | append_singleton before turn ih =>
      rw [exec_snoc] at associated
      rw [since_snoc]
      rcases (turnSourced_step _ turn).associated nodeId deviceId associated with earlier | admitted
      · exact Or.inr ⟨ih (associated_of_outbox.mp earlier), trivial⟩
      · exact Or.inl admitted

theorem OwnedDevices.step (owned : OwnedDevices task) (alone : AdmitsAlone task turn) :
    OwnedDevices (task.step turn) := by
  have alone : AdmitsAlone { task with outbox := [] } turn := alone
  exact step_induction (P := OwnedDevices) task turn ⟨owned.referenced, owned.resolved⟩
    fun before after change owned => owned.change alone change

theorem ownedDevices_run
    (created : BleRuntimeTask.new targetOs localNodeId config restoredState = .ok initial)
    {turns : List Turn} (meets : Meets BleRuntimeTask.step AdmitsAlone initial turns) :
    OwnedDevices (exec BleRuntimeTask.step initial turns) := by
  refine exec_invariant (P := OwnedDevices) ?_ (fun _ _ owned alone => owned.step alone) meets
  constructor
  · intro nodeId other deviceId referenced
    exact absurd (.referenced referenced) (not_associated_new created)
  · intro nodeId other deviceId referenced
    exact absurd (.referenced referenced) (not_associated_new created)

/-! ## A directory that is a finite map -/

/-- The tables mention only devices that are resolved to their node. -/
def AttributedTables (task : BleRuntimeTask δ) : Prop :=
  ∀ nodeId deviceId, Associated task nodeId deviceId →
    task.resolvedNodeIdForDevice deviceId = some nodeId

/-- A device that is resolved when it is admitted is resolved to the node it is admitted as. -/
def AdmitsConsistently (task : BleRuntimeTask δ) (turn : Turn) : Prop :=
  ∀ deviceId nodeId known, Admits task turn deviceId nodeId →
    task.resolvedNodeIdForDevice deviceId = some known → known = nodeId

theorem resolved_upsertHint (finite : FiniteMapDirectory δ) {other : DeviceId}
    {hint : DiscoveredPeerHint} (resolved : before.resolvedNodeIdForDevice deviceId = some nodeId) :
    BleRuntimeTask.resolvedNodeIdForDevice { before with
      peers := PeerDirectory.upsertHint before.peers (BlePeerKey.ofDevice other) hint } deviceId =
        some nodeId := by
  rw [resolvedNodeIdForDevice_eq_some] at resolved ⊢
  by_cases same : deviceId = other
  · subst same
    exact finite.upsertHint _ _ hint _ resolved
  · rw [PeerDirectory.identityState_upsertHint_of_ne _ _ _ _ (by simpa using same)]
    exact resolved

theorem resolved_resolve_of_ne (finite : FiniteMapDirectory δ) {other : DeviceId} {node : NodeId}
    (resolved : before.resolvedNodeIdForDevice deviceId = some nodeId) (different : deviceId ≠ other) :
    BleRuntimeTask.resolvedNodeIdForDevice { before with
      peers := PeerDirectory.resolve before.peers (BlePeerKey.ofDevice other) node } deviceId =
        some nodeId := by
  rw [resolvedNodeIdForDevice_eq_some] at resolved ⊢
  rw [finite.resolve _ _ _ _ (by simpa using different)]
  exact resolved

theorem resolved_kept (finite : FiniteMapDirectory δ) (consistent : AdmitsConsistently start turn)
    (change : Change start turn before after)
    (resolved : before.resolvedNodeIdForDevice deviceId = some nodeId) :
    after.resolvedNodeIdForDevice deviceId = some nodeId ∨
      ∃ cause, turn.event = .central (.deviceDisconnected deviceId cause) ∧
        after = before.handleDeviceDisconnected deviceId cause := by
  cases change with
  | quiet quiet => exact Or.inl (by rwa [resolved_of_peers quiet.peers])
  | hint other hint => exact Or.inl (resolved_upsertHint finite resolved)
  | forget other hint hinted =>
      rw [resolved_remove, if_neg]
      · exact Or.inl resolved
      · rintro rfl
        rw [resolvedNodeIdForDevice_eq_some, hinted] at resolved
        cases resolved
  | resolve other otherNode admits unchanged read =>
      by_cases same : deviceId = other
      · subst same
        rw [resolved_of_peers unchanged.1] at resolved
        rw [consistent _ _ _ admits resolved, resolvedNodeIdForDevice_eq_some]
        exact Or.inl (PeerDirectory.identityState_resolve ..)
      · exact Or.inl (resolved_resolve_of_ne finite resolved same)
  | installGatt other otherNode admits known => exact Or.inl resolved
  | installL2cap other otherNode source known => exact Or.inl resolved
  | payload other otherNode endpoint value located source => exact Or.inl resolved
  | close channelId closes =>
      exact Or.inl (by rwa [resolved_of_peers peers_handleL2capChannelClosed])
  | notify other payload receivers deviceIds notified subscribers targets target multicasts =>
      exact Or.inl resolved
  | subscribe other event first =>
      rcases handleP2cSubscription_cases before other with ⟨-, same⟩ | ⟨_, -, equal⟩
      · exact Or.inl (by rwa [same])
      · exact Or.inl (by rwa [equal])
  | unsubscribe other event first =>
      rcases handleP2cUnsubscription_cases before other with ⟨-, same⟩ | ⟨_, _, -, -, equal⟩
      · exact Or.inl (by rwa [same])
      · exact Or.inl (by rwa [equal])
  | disconnect other cause event first =>
      rw [resolved_handleDeviceDisconnected]
      split_ifs with same
      · subst same
        exact Or.inr ⟨cause, event, rfl⟩
      · exact Or.inl resolved

theorem AttributedTables.change (finite : FiniteMapDirectory δ) (attributed : AttributedTables before)
    (consistent : AdmitsConsistently start turn) (change : Change start turn before after) :
    AttributedTables after := by
  intro nodeId deviceId associated
  cases associated with
  | resolved resolved => exact resolved
  | referenced referenced =>
      have resolved := (referenced_change change referenced).elim id
        fun earlier => attributed nodeId deviceId (.referenced earlier)
      rcases resolved_kept finite consistent change resolved with kept | ⟨cause, -, rfl⟩
      · exact kept
      · exact absurd referenced not_referenced_after_disconnect
  | channel channelId registered =>
      have resolved : before.resolvedNodeIdForDevice deviceId = some nodeId := by
        rcases l2capChannels_change change registered with old | ⟨-, resolved, -⟩
        · exact attributed nodeId deviceId (.channel channelId old)
        · exact resolved
      rcases resolved_kept finite consistent change resolved with kept | ⟨cause, -, rfl⟩
      · exact kept
      · rw [(handleDeviceDisconnected_eq before deviceId cause).l2capChannels] at registered
        simp only [resolved] at registered
        have dropped := ((EntryMap.getElem?_filter_eq_some ..).mp registered).2
        simp at dropped

theorem admitsConsistently_of_looped (looped : ∀ device, turn.event ≠ .restoredDevice device) :
    AdmitsConsistently task turn := by
  rintro deviceId nodeId known ⟨-, ⟨-, hint, hinted, -⟩ | ⟨device, event, -⟩⟩ resolved
  · rw [resolvedNodeIdForDevice_eq_some, hinted] at resolved
    cases resolved
  · exact absurd event (looped device)

theorem admitsConsistently_of_run
    (created : BleRuntimeTask.new targetOs localNodeId config restoredState = .ok initial)
    (distinct : (restoredState.centralDevices.map BleDevice.id).Nodup) {turns : List Turn}
    (run : RunOf restoredState.centralDevices (turns ++ [turn])) :
    AdmitsConsistently (exec BleRuntimeTask.step initial turns) turn := by
  by_cases looped : ∀ device, turn.event ≠ .restoredDevice device
  · exact admitsConsistently_of_looped looped
  obtain ⟨device, event⟩ := not_forall_not.mp looped
  rintro deviceId nodeId known ⟨-, ⟨connected, -⟩ | ⟨same, restored, rfl, -⟩⟩ resolved
  · rw [event] at connected
    cases connected
  · obtain rfl : device = same := by simpa [event] using restored
    refine absurd (admitted_of_held created (Or.inl resolved)) (not_since_of_forall ?_)
    rintro earlier member previous ⟨⟨-, admitted⟩, -⟩
    obtain ⟨other, otherEvent, different⟩ := runOf_restored_first run distinct event member
    rw [otherEvent] at admitted
    rcases admitted with ⟨connected, -⟩ | ⟨restored, same, named, -⟩
    · cases connected
    · cases same
      exact different named

theorem attributedTables_run (finite : FiniteMapDirectory δ)
    (created : BleRuntimeTask.new targetOs localNodeId config restoredState = .ok initial)
    (distinct : (restoredState.centralDevices.map BleDevice.id).Nodup) {turns : List Turn}
    (run : RunOf restoredState.centralDevices turns) :
    AttributedTables (exec BleRuntimeTask.step initial turns) := by
  induction turns using List.reverseRecOn with
  | nil => exact fun nodeId deviceId associated => absurd associated (not_associated_new created)
  | append_singleton before turn ih =>
      have consistent : AdmitsConsistently
          { exec BleRuntimeTask.step initial before with outbox := [] } turn :=
        admitsConsistently_of_run created distinct run
      rw [exec_snoc]
      refine step_induction (P := AttributedTables) _ turn ?_ fun _ _ change attributed =>
        attributed.change finite consistent change
      intro nodeId deviceId associated
      exact ih (runOf_of_snoc run) nodeId deviceId (associated_of_outbox.mp associated)

/-- Whatever a run over a finite map emits for a node names a device whose node id was read and admitted
earlier, in the same turn or in one since which the device has not disconnected. -/
theorem attribution_fails_closed (finite : FiniteMapDirectory δ)
    (created : BleRuntimeTask.new targetOs localNodeId config restoredState = .ok initial)
    (distinct : (restoredState.centralDevices.map BleDevice.id).Nodup)
    (before : List Turn) (turn : Turn)
    (run : RunOf restoredState.centralDevices (before ++ [turn]))
    (earlier later : List Effect) (effect : Effect)
    (emitted : ((exec BleRuntimeTask.step initial before).step turn).outbox =
      earlier ++ effect :: later)
    (nodeId : NodeId) (deviceId : DeviceId) (attributes : Attributes nodeId deviceId effect) :
    (Admits (exec BleRuntimeTask.step initial before) turn deviceId nodeId ∧
        identityRead deviceId nodeId ∈ earlier) ∨
      (Since (AdmittedBy initial deviceId nodeId) (fun turn => ¬ Disconnects deviceId turn) before ∧
        ¬ Disconnects deviceId turn) := by
  have attributed := attributedTables_run finite created distinct (runOf_of_snoc run)
  rcases (turnSourced_step _ turn).emitted earlier effect later emitted nodeId deviceId attributes with
    associated | admitted
  · have resolved := attributed nodeId deviceId (associated_of_outbox.mp associated)
    refine Or.inr ⟨admitted_of_held created (Or.inl resolved), ?_⟩
    intro disconnects
    have member : effect ∈ ((exec BleRuntimeTask.step initial before).step turn).outbox := by
      simp [emitted]
    exact not_attributes_disconnect disconnects member attributes
  · exact Or.inl admitted

/-! A notification from a device that was discovered and connected. -/

def greeting : Turn :=
  ⟨.central (.characteristicNotification ⟨"peer"⟩ jacquardP2cCharUuid [7]), Scenario.silent⟩

theorem attribution_of_greeting :
    (Admits (Scenario.reachedFinite (Scenario.meet ⟨"peer"⟩ (Scenario.node 2) none)) greeting
        ⟨"peer"⟩ (Scenario.node 2) ∧ identityRead ⟨"peer"⟩ (Scenario.node 2) ∈ []) ∨
      (Since (AdmittedBy Scenario.launchedFinite ⟨"peer"⟩ (Scenario.node 2))
          (fun turn => ¬ Disconnects ⟨"peer"⟩ turn)
          (Scenario.meet ⟨"peer"⟩ (Scenario.node 2) none) ∧
        ¬ Disconnects ⟨"peer"⟩ greeting) := by
  have emitted : ((Scenario.reachedFinite
      (Scenario.meet ⟨"peer"⟩ (Scenario.node 2) none)).step greeting).outbox =
        [.emitPayload (.payloadReceived (Scenario.node 2) (gattEndpoint ⟨"peer"⟩) [7])] := by
    decide +kernel
  exact attribution_fails_closed finiteMapDirectory_finitePeerMap Scenario.new_launchedFinite
    (by simp) _ greeting (Scenario.runOf_looped _ rfl) [] [] _ emitted (Scenario.node 2) ⟨"peer"⟩
    ⟨rfl, by simp⟩

end JqBle.Proof.LinkProfile
