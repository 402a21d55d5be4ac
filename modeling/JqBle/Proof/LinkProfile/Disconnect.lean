import JqBle.Proof.LinkProfile.Attribution

/-!
# Losing links

When a node is left without a preferred session, either a fault was reported for it or its L2CAP
channel closed without a session to fall back on. A disconnect is local to its device as long as no
entry and no channel mentions another device beside it.
-/

namespace JqBle.Proof.LinkProfile
open Std Host Library Execution JqBle.LinkProfile

variable {δ : Type} {start before after task : BleRuntimeTask δ} {turn : Turn} {nodeId : NodeId}
  {sessions : PeerSessions} {session : BleSession} {deviceId : DeviceId}

/-! ## Lost egress -/

/-- The turn closes an L2CAP channel: the radio reports it closed, or a send on it fails. -/
def ClosesChannels (turn : Turn) : Prop :=
  (∃ channelId, turn.event = .l2cap (.channelClosed channelId)) ∨
    ∃ batch, turn.event = .command (.dispatch batch)

/-- The sessions are an L2CAP session without fallback whose channel the turn closes: the radio reports
it closed, or a send on it fails. -/
def ClosedWithoutFallback (start : BleRuntimeTask δ) (turn : Turn) (sessions : PeerSessions)
    (session : BleSession) : Prop :=
  ∃ deviceId channelId, session = .l2cap deviceId channelId ∧
    sessions.state = .l2capPreferred session none ∧
    (turn.event = .l2cap (.channelClosed channelId) ∨ channelId ∈ failedSends start turn)

/-- Where the egress of the node stands during a turn: as before, moved to a session that the turn
cannot take away, or gone with its channel. -/
inductive EgressDuring (start : BleRuntimeTask δ) (turn : Turn) (nodeId : NodeId)
    (sessions : PeerSessions) (session : BleSession) (task : BleRuntimeTask δ) : Prop
  | same (current : PeerSessions) (known : task.sessions[nodeId]? = some current)
      (state : current.state = sessions.state)
  | moved (current : PeerSessions) (known : task.sessions[nodeId]? = some current)
      (preferred : current.preferredEgress ≠ none)
      (settled : ClosesChannels turn →
        ∀ held channelId fallback, current.state ≠ .l2capPreferred (.l2cap held channelId) fallback)
  | closed (closed : ClosedWithoutFallback start turn sessions session)

theorem EgressDuring.of_sessions (egress : EgressDuring start turn nodeId sessions session before)
    (unchanged : after.sessions = before.sessions) :
    EgressDuring start turn nodeId sessions session after := by
  cases egress with
  | same current known state => exact .same current (by rwa [unchanged]) state
  | moved current known preferred settled =>
      exact .moved current (by rwa [unchanged]) preferred settled
  | closed closed => exact .closed closed

theorem EgressDuring.of_entry (egress : EgressDuring start turn nodeId sessions session before)
    (kept : ∀ current, before.sessions[nodeId]? = some current →
      ∃ updated, after.sessions[nodeId]? = some updated ∧ updated.state = current.state) :
    EgressDuring start turn nodeId sessions session after := by
  cases egress with
  | same current known state =>
      obtain ⟨updated, found, equal⟩ := kept current known
      exact .same updated found (equal.trans state)
  | moved current known preferred settled =>
      obtain ⟨updated, found, equal⟩ := kept current known
      refine .moved updated found ?_ ?_
      · unfold PeerSessions.preferredEgress at preferred ⊢
        rwa [equal]
      · rwa [equal]
  | closed closed => exact .closed closed

theorem EgressDuring.close (egress : EgressDuring start turn nodeId sessions session task)
    (preferred : sessions.preferredEgress = some session) {channelId : BleChannelId}
    (closes : turn.event = .l2cap (.channelClosed channelId) ∨ channelId ∈ failedSends start turn) :
    EgressDuring start turn nodeId sessions session (task.handleL2capChannelClosed channelId) := by
  have closing : ClosesChannels turn := by
    rcases closes with event | failed
    · exact Or.inl ⟨channelId, event⟩
    · exact Or.inr (dispatches_of_failedSends failed)
  by_cases registered : (task.l2capChannels[channelId]?.map ActiveL2capChannel.nodeId) = some nodeId
  · have lookup (current : PeerSessions) (known : task.sessions[nodeId]? = some current) :
        (task.handleL2capChannelClosed channelId).sessions[nodeId]? =
          some (current.downgradeL2cap channelId).1 := by
      rw [sessions_handleL2capChannelClosed, if_pos registered, known]
      rfl
    cases egress with
    | same current known state =>
        rcases downgradeL2cap_cases current channelId with
          ⟨held, fallback, preferring, downgraded⟩ | ⟨-, unchanged⟩
        · rw [state] at preferring
          obtain rfl : session = .l2cap held channelId := by
            simpa [PeerSessions.preferredEgress, preferring] using preferred.symm
          cases fallback with
          | none => exact .closed ⟨held, channelId, rfl, preferring, closes⟩
          | some fallback =>
              refine .moved _ (lookup current known) ?_ ?_
              · rw [downgraded]
                simp [PeerSessions.preferredEgress]
              · rw [downgraded]
                simp
        · exact .same _ (lookup current known) (by rw [unchanged, state])
    | moved current known other settled =>
        rcases downgradeL2cap_cases current channelId with
          ⟨held, fallback, preferring, -⟩ | ⟨-, unchanged⟩
        · exact absurd preferring (settled closing held channelId fallback)
        · exact .moved current (by rw [lookup current known, unchanged]) other settled
    | closed closed => exact .closed closed
  · apply egress.of_entry
    intro current known
    exact ⟨current, by rw [sessions_handleL2capChannelClosed, if_neg registered, known], rfl⟩

section
variable [PeerDirectory δ BlePeerKey DiscoveredPeerHint]

theorem not_closesChannels_of_admits (admits : Admits start turn deviceId nodeId) :
    ¬ ClosesChannels turn := by
  obtain ⟨-, ⟨event, -⟩ | ⟨device, event, -⟩⟩ := admits
  · rintro (⟨channelId, closed⟩ | ⟨batch, dispatched⟩)
    · rw [event] at closed
      cases closed
    · rw [event] at dispatched
      cases dispatched
  · rintro (⟨channelId, closed⟩ | ⟨batch, dispatched⟩)
    · rw [event] at closed
      cases closed
    · rw [event] at dispatched
      cases dispatched

theorem EgressDuring.change (egress : EgressDuring start turn nodeId sessions session before)
    (preferred : sessions.preferredEgress = some session)
    (connected : ∀ deviceId, ¬ Disconnects deviceId turn)
    (change : Change start turn before after) :
    EgressDuring start turn nodeId sessions session after := by
  -- Installing a session in a turn that closes no channel gives the node an egress for good.
  have installs (closesNone : ¬ ClosesChannels turn) (other : NodeId) (updated : PeerSessions)
      (known : after.sessions[other]? = some updated) (egressed : updated.preferredEgress ≠ none)
      (others : other ≠ nodeId → after.sessions[nodeId]? = before.sessions[nodeId]?) :
      EgressDuring start turn nodeId sessions session after := by
    by_cases same : other = nodeId
    · subst same
      exact .moved updated known egressed fun closes => absurd closes closesNone
    · refine egress.of_entry fun current known => ⟨current, ?_, rfl⟩
      rw [others same, known]
  cases change with
  | quiet quiet => exact egress.of_sessions quiet.sessions
  | hint other hint => exact egress.of_sessions rfl
  | forget other hint hinted => exact egress.of_sessions rfl
  | resolve other otherNode admits unchanged read => exact egress.of_sessions rfl
  | installGatt other otherNode admits resolved =>
      refine installs (not_closesChannels_of_admits admits) otherNode _
        (sessions_installGattSession.trans (if_pos rfl)) ?_
        fun different => sessions_installGattSession.trans (if_neg (Ne.symm different))
      cases before.sessions[otherNode]? with
      | none => simp [PeerSessions.gattWithFallback, PeerSessions.gattOnly,
          PeerSessions.preferredEgress]
      | some held =>
          rcases preferredEgress_installGattCentral held (.gattCentral other) with
            central | ⟨kept, _, _, left⟩
          · simp [central]
          · simp [left]
  | installL2cap other otherNode source resolved =>
      have closesNone : ¬ ClosesChannels turn := by
        rcases source with admits | event
        · exact not_closesChannels_of_admits admits
        · rintro (⟨channelId, closed⟩ | ⟨batch, dispatched⟩)
          · rw [event] at closed
            cases closed
          · rw [event] at dispatched
            cases dispatched
      refine installs closesNone otherNode _
        (sessions_installL2capSession.trans (if_pos rfl)) ?_
        fun different => sessions_installL2capSession.trans (if_neg (Ne.symm different))
      cases before.sessions[otherNode]? <;> simp [PeerSessions.l2capPreferred,
        PeerSessions.promoteL2cap, PeerSessions.preferredEgress]
  | payload other otherNode endpoint value located attributed => exact egress.of_sessions rfl
  | close channelId closes =>
      exact egress.close preferred (closes.imp_right And.left)
  | notify other payload receivers deviceIds notified subscribers targets target multicasts =>
      exact egress.of_sessions rfl
  | subscribe other event first =>
      rcases handleP2cSubscription_cases before other with ⟨-, same⟩ | ⟨node, -, equal⟩
      · exact egress.of_sessions (by rw [same])
      · refine egress.of_entry fun current known => ?_
        rw [equal, EntryMap.getElem?_modifyOrInsert]
        split
        · rename_i same
          subst same
          exact ⟨current.installGattSubscription ⟨other⟩, by simp [known], rfl⟩
        · exact ⟨current, known, rfl⟩
  | unsubscribe other event first =>
      rcases handleP2cUnsubscription_cases before other with ⟨-, same⟩ | ⟨node, held, -, old, equal⟩
      · exact egress.of_sessions (by rw [same])
      · refine egress.of_entry fun current known => ?_
        rw [equal, EntryMap.getElem?_insert]
        split
        · rename_i same
          subst same
          rw [old, Option.some.injEq] at known
          subst known
          exact ⟨_, rfl, rfl⟩
        · exact ⟨current, known, rfl⟩
  | disconnect other cause event first => exact absurd ⟨cause, event⟩ (connected other)

theorem faulted_of_disconnect {cause : DisconnectCause}
    (resolved : task.resolvedNodeIdForDevice deviceId = some nodeId)
    (known : task.sessions[nodeId]? = some sessions) (held : session ∈ sessions.iterSessions)
    (same : session.deviceId = deviceId) :
    Effect.emitControl (rawBleLinkFaultedEvent nodeId session.endpoint) ∈
      (task.handleDeviceDisconnected deviceId cause).outbox := by
  obtain ⟨effects, -, outbox⟩ := (handleDeviceDisconnected_eq task deviceId cause).outbox
  rw [outbox]
  refine List.mem_append_left _ (List.mem_append_right _ ?_)
  have endpoint : session.endpoint ∈ sessions.endpointsForDevice deviceId :=
    mem_endpointsForDevice.mpr (Or.inl ⟨session, held, same, rfl⟩)
  simp only [disconnectFaults, resolved, known]
  exact List.mem_map_of_mem endpoint

/-- A node that loses its egress in a turn, other than by the disconnect of another device, has the
loss reported, or the device disconnects while it is not resolved to the node, or the egress was an
L2CAP session with nothing to fall back on whose channel closed. -/
theorem lost_egress_reported (task : BleRuntimeTask δ) (turn : Turn) (nodeId : NodeId)
    (sessions : PeerSessions) (session : BleSession) (known : task.sessions[nodeId]? = some sessions)
    (preferred : sessions.preferredEgress = some session)
    (lost : ∀ left, (task.step turn).sessions[nodeId]? = some left → left.preferredEgress = none)
    (own : ∀ deviceId, Disconnects deviceId turn → session.deviceId = deviceId) :
    .emitControl (rawBleLinkFaultedEvent nodeId session.endpoint) ∈ (task.step turn).outbox ∨
      (Disconnects session.deviceId turn ∧
        task.resolvedNodeIdForDevice session.deviceId ≠ some nodeId) ∨
      ClosedWithoutFallback { task with outbox := [] } turn sessions session := by
  by_cases disconnects : ∃ deviceId, Disconnects deviceId turn
  · obtain ⟨deviceId, disconnects⟩ := disconnects
    have same := own deviceId disconnects
    by_cases resolved : task.resolvedNodeIdForDevice deviceId = some nodeId
    · obtain ⟨cause, event⟩ := disconnects
      have held := preferredEgress_mem_iterSessions preferred
      have cleared : BleRuntimeTask.resolvedNodeIdForDevice { task with outbox := [] } deviceId =
          some nodeId := resolved
      rw [step_deviceDisconnected event]
      exact Or.inl (faulted_of_disconnect cleared known held same)
    · rw [same]
      exact Or.inr (Or.inl ⟨disconnects, resolved⟩)
  · have during : EgressDuring { task with outbox := [] } turn nodeId sessions session
        (task.step turn) := by
      apply step_induction task turn (.same sessions known rfl)
      intro before after change egress
      exact egress.change preferred (fun deviceId disconnect => disconnects ⟨deviceId, disconnect⟩)
        change
    cases during with
    | same current found state =>
        have none := lost current found
        unfold PeerSessions.preferredEgress at none preferred
        rw [state] at none
        rw [none] at preferred
        cases preferred
    | moved current found egressed settled => exact absurd (lost current found) egressed
    | closed closed => exact Or.inr (Or.inr closed)

/-! A peer with one device: its disconnect is reported. A node met through a second device: the first
one disconnects silently, and the channel that the second one opens then has no session to fall back on
and closes silently. -/

theorem lost_egress_reported_meet :
    .emitControl (rawBleLinkFaultedEvent (Scenario.node 2) (gattEndpoint ⟨"peer"⟩)) ∈
        ((Scenario.reached .other (Scenario.meet ⟨"peer"⟩ (Scenario.node 2) none)).step
          (Scenario.disconnect ⟨"peer"⟩)).outbox ∨
      (Disconnects ⟨"peer"⟩ (Scenario.disconnect ⟨"peer"⟩) ∧
        (Scenario.reached .other (Scenario.meet ⟨"peer"⟩ (Scenario.node 2) none)).resolvedNodeIdForDevice
          ⟨"peer"⟩ ≠ some (Scenario.node 2)) ∨
      ClosedWithoutFallback
        { Scenario.reached .other (Scenario.meet ⟨"peer"⟩ (Scenario.node 2) none) with outbox := [] }
        (Scenario.disconnect ⟨"peer"⟩) (.gattWithFallback (.gattCentral ⟨"peer"⟩))
        (.gattCentral ⟨"peer"⟩) := by
  have known : (Scenario.reached .other
      (Scenario.meet ⟨"peer"⟩ (Scenario.node 2) none)).sessions[Scenario.node 2]? =
        some (.gattWithFallback (.gattCentral ⟨"peer"⟩)) := by decide +kernel
  have gone : ((Scenario.reached .other (Scenario.meet ⟨"peer"⟩ (Scenario.node 2) none)).step
      (Scenario.disconnect ⟨"peer"⟩)).sessions[Scenario.node 2]? = none := by decide +kernel
  refine lost_egress_reported _ _ (Scenario.node 2) _ (.gattCentral ⟨"peer"⟩) known rfl ?_ ?_
  · intro left found
    rw [gone] at found
    cases found
  · rintro deviceId ⟨cause, ⟨⟩⟩
    rfl

def accept (deviceId : DeviceId) (nodeId : NodeId) : Turn :=
  ⟨.l2capAccept (.ok deviceId), { Scenario.silent with readL2capIdentity := some nodeId }⟩

def acceptedOnly : List Turn :=
  Scenario.returnedAddress ++ [Scenario.disconnect ⟨"new"⟩, accept ⟨"old"⟩ (Scenario.node 2)]

def ReportsLostEgress (task : BleRuntimeTask δ) (turn : Turn) : Prop :=
  ∀ (nodeId : NodeId) (sessions : PeerSessions) (session : BleSession),
    task.sessions[nodeId]? = some sessions → sessions.preferredEgress = some session →
      (∀ left, (task.step turn).sessions[nodeId]? = some left → left.preferredEgress = none) →
        .emitControl (rawBleLinkFaultedEvent nodeId session.endpoint) ∈ (task.step turn).outbox

theorem not_reports_of_quiet {task : BleRuntimeTask δ} {turn : Turn} {nodeId : NodeId}
    {sessions : PeerSessions} {session : BleSession} (known : task.sessions[nodeId]? = some sessions)
    (preferred : sessions.preferredEgress = some session)
    (lost : ∀ left, (task.step turn).sessions[nodeId]? = some left → left.preferredEgress = none)
    (quiet : (task.step turn).outbox = []) : ¬ ReportsLostEgress task turn := by
  intro reports
  have reported := reports nodeId sessions session known preferred lost
  rw [quiet] at reported
  cases reported

theorem egress_lost_silently :
    ((Scenario.reached .other acceptedOnly).sessions[Scenario.node 2]? =
        some (.l2capPreferred (.l2cap ⟨"old"⟩ ⟨2⟩) none) ∧
      ((Scenario.reached .other acceptedOnly).step
        ⟨.l2cap (.channelClosed ⟨2⟩), Scenario.silent⟩).sessions[Scenario.node 2]? =
        some ⟨.disconnected, []⟩ ∧
      ((Scenario.reached .other acceptedOnly).step
        ⟨.l2cap (.channelClosed ⟨2⟩), Scenario.silent⟩).outbox = [] ∧
      ¬ ReportsLostEgress (Scenario.reached .other acceptedOnly)
        ⟨.l2cap (.channelClosed ⟨2⟩), Scenario.silent⟩) ∧
    -- The directory has taken back the resolution of the device that disconnects.
    ((Scenario.reached .other Scenario.returnedAddress).sessions[Scenario.node 2]? =
        some (.l2capPreferred (.l2cap ⟨"new"⟩ ⟨1⟩) (some (.gattCentral ⟨"new"⟩))) ∧
      ((Scenario.reached .other Scenario.returnedAddress).step
        (Scenario.disconnect ⟨"new"⟩)).sessions[Scenario.node 2]? = none ∧
      ((Scenario.reached .other Scenario.returnedAddress).step
        (Scenario.disconnect ⟨"new"⟩)).outbox = [] ∧
      ¬ ReportsLostEgress (Scenario.reached .other Scenario.returnedAddress)
        (Scenario.disconnect ⟨"new"⟩)) := by
  constructor
  · have known : (Scenario.reached .other acceptedOnly).sessions[Scenario.node 2]? =
        some (.l2capPreferred (.l2cap ⟨"old"⟩ ⟨2⟩) none) := by decide +kernel
    have lost : ((Scenario.reached .other acceptedOnly).step
        ⟨.l2cap (.channelClosed ⟨2⟩), Scenario.silent⟩).sessions[Scenario.node 2]? =
          some ⟨.disconnected, []⟩ := by decide +kernel
    have quiet : ((Scenario.reached .other acceptedOnly).step
        ⟨.l2cap (.channelClosed ⟨2⟩), Scenario.silent⟩).outbox = [] := by decide +kernel
    refine ⟨known, lost, quiet, not_reports_of_quiet known rfl (fun left found => ?_) quiet⟩
    rw [lost, Option.some.injEq] at found
    subst found
    rfl
  · have known : (Scenario.reached .other Scenario.returnedAddress).sessions[Scenario.node 2]? =
        some (.l2capPreferred (.l2cap ⟨"new"⟩ ⟨1⟩) (some (.gattCentral ⟨"new"⟩))) := by decide +kernel
    have lost : ((Scenario.reached .other Scenario.returnedAddress).step
        (Scenario.disconnect ⟨"new"⟩)).sessions[Scenario.node 2]? = none := by decide +kernel
    have quiet : ((Scenario.reached .other Scenario.returnedAddress).step
        (Scenario.disconnect ⟨"new"⟩)).outbox = [] := by decide +kernel
    refine ⟨known, lost, quiet, not_reports_of_quiet known rfl (fun left found => ?_) quiet⟩
    rw [lost] at found
    cases found

/-! ## What a disconnect takes along -/

/-- A disconnect of the device leaves the egress, the channels and the subscriptions of every other
device as they are. -/
def DisconnectLocal (task : BleRuntimeTask δ) (deviceId : DeviceId) (cause : DisconnectCause) :
    Prop :=
  ∀ other, other ≠ deviceId →
    (task.handleDeviceDisconnected deviceId cause).egressSessionForDevice other =
        task.egressSessionForDevice other ∧
      (∀ (channelId : BleChannelId) (nodeId : NodeId),
        task.l2capChannels[channelId]? = some ⟨nodeId, other⟩ →
          (task.handleDeviceDisconnected deviceId cause).l2capChannels[channelId]? =
            some ⟨nodeId, other⟩) ∧
      ∀ (nodeId : NodeId) (sessions : PeerSessions), task.sessions[nodeId]? = some sessions →
        ⟨other⟩ ∈ sessions.notifySubscribers →
          ∃ left, (task.handleDeviceDisconnected deviceId cause).sessions[nodeId]? = some left ∧
            ⟨other⟩ ∈ left.notifySubscribers

/-- Where the device is mentioned no other device is preferred or subscribed, and the channels of
its node are its own. -/
structure MentionedAlone (task : BleRuntimeTask δ) (deviceId : DeviceId) : Prop where
  preferred : ∀ (nodeId : NodeId) (sessions : PeerSessions) (session : BleSession),
    task.sessions[nodeId]? = some sessions → sessions.referencesDevice deviceId = true →
      sessions.preferredEgress = some session → session.deviceId = deviceId
  subscribed : ∀ (nodeId : NodeId) (sessions : PeerSessions) (subscriber : BleNotifySubscriber),
    task.sessions[nodeId]? = some sessions → sessions.referencesDevice deviceId = true →
      subscriber ∈ sessions.notifySubscribers → subscriber.deviceId = deviceId
  channels : ∀ (channelId : BleChannelId) (nodeId : NodeId) (other : DeviceId),
    task.resolvedNodeIdForDevice deviceId = some nodeId →
      task.l2capChannels[channelId]? = some ⟨nodeId, other⟩ → other = deviceId

theorem disconnectLocal_of_mentionedAlone {cause : DisconnectCause}
    (alone : MentionedAlone task deviceId) : DisconnectLocal task deviceId cause := by
  have disconnected := handleDeviceDisconnected_eq task deviceId cause
  intro other different
  refine ⟨?_, ?_, ?_⟩
  · unfold BleRuntimeTask.egressSessionForDevice
    rw [disconnected.sessions]
    apply EntryMap.findValue_filter
    intro nodeId sessions known dropped
    have references : sessions.referencesDevice deviceId = true := by simpa using dropped
    cases egress : sessions.egressForDevice other with
    | none => rfl
    | some session =>
        obtain ⟨preferred, same⟩ := Option.filter_eq_some_iff.mp egress
        have device := alone.preferred nodeId sessions session known references preferred
        exact absurd (device.symm.trans (by simpa using same)) (Ne.symm different)
  · intro channelId nodeId registered
    rw [disconnected.l2capChannels]
    dsimp only
    split
    · exact registered
    · rename_i node resolved
      refine (EntryMap.getElem?_filter_eq_some ..).mpr ⟨registered, ?_⟩
      have elsewhere : nodeId ≠ node := by
        rintro rfl
        exact different (alone.channels channelId nodeId other resolved registered)
      simpa using elsewhere
  · intro nodeId sessions known member
    refine ⟨sessions, ?_, member⟩
    rw [disconnected.sessions]
    refine (EntryMap.getElem?_filter_eq_some ..).mpr ⟨known, ?_⟩
    cases references : sessions.referencesDevice deviceId with
    | false => rfl
    | true => exact absurd (alone.subscribed nodeId sessions ⟨other⟩ known references member) different

theorem mentionedAlone_of_disconnectLocal {cause : DisconnectCause}
    (unique : UniqueEgress task) (isLocal : DisconnectLocal task deviceId cause) :
    MentionedAlone task deviceId := by
  have disconnected := handleDeviceDisconnected_eq task deviceId cause
  have dropped (nodeId : NodeId) (sessions left : PeerSessions)
      (known : task.sessions[nodeId]? = some sessions)
      (references : sessions.referencesDevice deviceId = true)
      (found : (task.handleDeviceDisconnected deviceId cause).sessions[nodeId]? = some left) :
      False := by
    rw [disconnected.sessions] at found
    obtain ⟨found, kept⟩ := (EntryMap.getElem?_filter_eq_some ..).mp found
    rw [known, Option.some.injEq] at found
    subst found
    simp [references] at kept
  refine ⟨?_, ?_, ?_⟩
  · intro nodeId sessions session known references preferred
    by_contra different
    obtain ⟨same, -⟩ := isLocal session.deviceId different
    rw [unique.egressSession known preferred] at same
    -- The session found afterwards is on the same device, so it belongs to the same node.
    obtain ⟨other, others, found, otherPreferred, -⟩ := preferred_of_egressSession same
    have old : task.sessions[other]? = some others := by
      rw [disconnected.sessions] at found
      exact ((EntryMap.getElem?_filter_eq_some ..).mp found).1
    obtain rfl := unique nodeId other session.deviceId ⟨sessions, session, known, preferred, rfl⟩
      ⟨others, session, old, otherPreferred, rfl⟩
    exact dropped nodeId sessions others known references found
  · intro nodeId sessions subscriber known references member
    by_contra different
    obtain ⟨-, -, recorded⟩ := isLocal subscriber.deviceId different
    obtain ⟨left, found, -⟩ := recorded nodeId sessions known member
    exact dropped nodeId sessions left known references found
  · intro channelId nodeId other resolved registered
    by_contra different
    obtain ⟨-, kept, -⟩ := isLocal other different
    have found := kept channelId nodeId registered
    rw [disconnected.l2capChannels] at found
    simp only [resolved] at found
    have elsewhere := ((EntryMap.getElem?_filter_eq_some ..).mp found).2
    simp at elsewhere

/-- The disconnect of a device that is mentioned alone is local; where no device is the preferred one of
two nodes, no other disconnect is. -/
theorem disconnect_local_iff (task : BleRuntimeTask δ) (deviceId : DeviceId) (cause : DisconnectCause) :
    (MentionedAlone task deviceId → DisconnectLocal task deviceId cause) ∧
      (UniqueEgress task → DisconnectLocal task deviceId cause → MentionedAlone task deviceId) :=
  ⟨disconnectLocal_of_mentionedAlone, mentionedAlone_of_disconnectLocal⟩
/-! A peer that is met through one device, and one whose device left its channel behind when a second
device was met: the disconnect of the second closes the channel of the first. -/

theorem disconnect_local_met :
    MentionedAlone (Scenario.reached .other (Scenario.meet ⟨"peer"⟩ (Scenario.node 2) none)) ⟨"peer"⟩ ↔
      DisconnectLocal (Scenario.reached .other (Scenario.meet ⟨"peer"⟩ (Scenario.node 2) none))
        ⟨"peer"⟩ .linkLoss := by
  have alone : Execution.Meets BleRuntimeTask.step AdmitsAlone (Scenario.launched .other)
      (Scenario.meet ⟨"peer"⟩ (Scenario.node 2) none) :=
    ⟨admitsAlone_of_empty rfl, admitsAlone_of_empty rfl, trivial⟩
  have owned := ownedDevices_run (Scenario.new_launched .other) alone
  obtain ⟨isLocal, mentionedAlone⟩ := disconnect_local_iff
    (Scenario.reached .other (Scenario.meet ⟨"peer"⟩ (Scenario.node 2) none)) ⟨"peer"⟩ .linkLoss
  exact ⟨isLocal, mentionedAlone owned.uniqueEgress⟩

theorem disconnect_closes_other_channel :
    (Scenario.reached .other Scenario.returnedAddress).l2capChannels[BleChannelId.mk 1]? =
        some ⟨Scenario.node 2, ⟨"new"⟩⟩ ∧
      ((Scenario.reached .other Scenario.returnedAddress).handleDeviceDisconnected ⟨"old"⟩
        .linkLoss).l2capChannels[BleChannelId.mk 1]? = none ∧
      ¬ DisconnectLocal (Scenario.reached .other Scenario.returnedAddress) ⟨"old"⟩ .linkLoss := by
  have registered :
      (Scenario.reached .other Scenario.returnedAddress).l2capChannels[BleChannelId.mk 1]? =
      some ⟨Scenario.node 2, ⟨"new"⟩⟩ := by decide +kernel
  have dropped : ((Scenario.reached .other Scenario.returnedAddress).handleDeviceDisconnected ⟨"old"⟩
      .linkLoss).l2capChannels[BleChannelId.mk 1]? = none := by decide +kernel
  refine ⟨registered, dropped, ?_⟩
  intro isLocal
  obtain ⟨-, kept, -⟩ := isLocal ⟨"new"⟩ (by decide)
  have found := kept ⟨1⟩ (Scenario.node 2) registered
  rw [dropped] at found
  cases found

end

end JqBle.Proof.LinkProfile
