import JqBle.Proof.LinkProfile.Attribution
import JqBle.Proof.LinkProfile.Channels

/-!
# Announced endpoints and the sessions behind them

A unicast endpoint that a turn announces as active is served by the preferred session of its node
when the turn ends, unless the turn admits a device of a node whose L2CAP session is on another
device: the announced GATT session then stays behind that one.
-/

namespace JqBle.Proof.LinkProfile
open Std Host Library Execution JqBle.LinkProfile

variable {δ : Type} {task before after : BleRuntimeTask δ} {turn : Turn} {nodeId : NodeId}
  {deviceId : DeviceId} {endpoint : LinkEndpoint} {effect : Effect}

def Announces (state : LinkRuntimeState) (nodeId : NodeId) (endpoint : LinkEndpoint) :
    Effect → Prop
  | .emitControl (.linkObserved remoteNodeId link _ _ _) =>
      remoteNodeId = nodeId ∧ link.endpoint = endpoint ∧ link.state = state
  | _ => False

theorem not_announces_of_quiet {state : LinkRuntimeState} (quiet : Quiet effect) :
    ¬ Announces state nodeId endpoint effect := by
  cases effect <;> simp_all [Quiet, Announces]

theorem announces_observed {other : NodeId} {observed : LinkEndpoint}
    (announces : Announces .active nodeId endpoint
      (.emitControl (rawBleLinkObservedEvent other observed))) :
    other = nodeId ∧ observed = endpoint :=
  ⟨announces.1, announces.2.1⟩

theorem not_announces_faulted {other : NodeId} {observed : LinkEndpoint} :
    ¬ Announces .active nodeId endpoint (.emitControl (rawBleLinkFaultedEvent other observed)) := by
  rintro ⟨-, -, active⟩
  cases active

/-! ## Admissions -/

theorem prefersDevice_installL2capSession (task : BleRuntimeTask δ) (nodeId : NodeId)
    (deviceId : DeviceId) :
    PrefersDevice (task.installL2capSession nodeId deviceId) nodeId deviceId := by
  refine ⟨(task.sessions[nodeId]?.map fun sessions =>
    sessions.promoteL2cap (.l2cap deviceId ⟨task.nextChannelId⟩)).getD
    (.l2capPreferred (.l2cap deviceId ⟨task.nextChannelId⟩) none),
    .l2cap deviceId ⟨task.nextChannelId⟩, ?_, ?_, rfl⟩
  · rw [sessions_installL2capSession, if_pos rfl]
  · cases task.sessions[nodeId]? <;> rfl

theorem prefersDevice_installGattSession (formed : WellFormedSessions task)
    (own : ∀ held channelId, PrefersL2cap task nodeId held channelId → held = deviceId) :
    PrefersDevice (task.installGattSession nodeId deviceId) nodeId deviceId := by
  cases old : task.sessions[nodeId]? with
  | none =>
      refine ⟨.gattWithFallback (.gattCentral deviceId), .gattCentral deviceId, ?_, rfl, rfl⟩
      rw [sessions_installGattSession, if_pos rfl, old]
      rfl
  | some sessions =>
      have lookup : (task.installGattSession nodeId deviceId).sessions[nodeId]? =
          some (sessions.installGattCentral (.gattCentral deviceId)) := by
        rw [sessions_installGattSession, if_pos rfl, old]
        rfl
      rcases preferredEgress_installGattCentral sessions (.gattCentral deviceId) with
        central | ⟨session, fallback, state, kept⟩
      · exact ⟨_, .gattCentral deviceId, lookup, central, rfl⟩
      · refine ⟨_, session, lookup, kept, ?_⟩
        have preferred : sessions.preferredEgress = some session := by
          simp [PeerSessions.preferredEgress, state]
        have wellFormed := formed nodeId sessions old
        unfold WellFormed at wellFormed
        rw [state] at wellFormed
        cases session with
        | gattCentral held => cases wellFormed.1
        | l2cap held channelId => exact own held channelId ⟨sessions, old, preferred⟩

theorem installResolvedPeer_announces [PeerDirectory δ BlePeerKey DiscoveredPeerHint]
    (backend : Backend) (key : BlePeerKey)
    (formed : WellFormedSessions task) (silent : ∀ effect ∈ task.outbox, Quiet effect)
    (own : (∀ held channelId, PrefersL2cap task nodeId held channelId → held = deviceId) ∨
      backend.upgradesL2cap deviceId = true) :
    PrefersDevice (task.installResolvedPeer backend key nodeId deviceId) nodeId deviceId ∧
      ∀ effect ∈ (task.installResolvedPeer backend key nodeId deviceId).outbox,
        ∀ other endpoint, Announces .active other endpoint effect →
          other = nodeId ∧ deviceIdFromEndpoint endpoint = some deviceId := by
  obtain ⟨called, quiet, equal⟩ := tryUpgradeL2cap_eq (({ task with
    peers := PeerDirectory.resolve task.peers key nodeId }.installGattSession nodeId
      deviceId).emitLinkObserved nodeId (gattEndpoint deviceId)) backend nodeId deviceId
  obtain ⟨effects, quietEffects, outbox⟩ := quiet.outbox
  have announcedGatt (effect : Effect) (member : effect ∈ called.outbox) (other : NodeId)
      (endpoint : LinkEndpoint) (announces : Announces .active other endpoint effect) :
      other = nodeId ∧ deviceIdFromEndpoint endpoint = some deviceId := by
    rw [outbox] at member
    rcases List.mem_append.mp member with member | member
    · rcases List.mem_append.mp member with member | member
      · rcases List.mem_append.mp member with member | member
        · exact absurd announces (not_announces_of_quiet (silent effect member))
        · obtain rfl := List.mem_singleton.mp member
          cases announces
      · obtain rfl := List.mem_singleton.mp member
        obtain ⟨rfl, rfl⟩ := announces_observed announces
        exact ⟨rfl, by simp⟩
    · exact absurd announces (not_announces_of_quiet (quietEffects effect member))
  have installed : task.installResolvedPeer backend key nodeId deviceId =
      if backend.upgradesL2cap deviceId then called.installL2capSession nodeId deviceId
      else called := equal
  rw [installed]
  split_ifs with upgrades
  · refine ⟨prefersDevice_installL2capSession called nodeId deviceId, ?_⟩
    intro effect member other endpoint announces
    rw [outbox_installL2capSession] at member
    rcases List.mem_append.mp member with member | member
    · exact announcedGatt effect member other endpoint announces
    · rcases List.mem_cons.mp member with rfl | member
      · cases announces
      · obtain rfl := List.mem_singleton.mp member
        obtain ⟨rfl, rfl⟩ := announces_observed announces
        exact ⟨rfl, by simp⟩
  · refine ⟨?_, announcedGatt⟩
    have central : PrefersDevice ({ task with
        peers := PeerDirectory.resolve task.peers key nodeId }.installGattSession nodeId deviceId)
        nodeId deviceId :=
      prefersDevice_installGattSession formed (own.resolve_right upgrades)
    obtain ⟨sessions, session, known, preferred⟩ := central
    exact ⟨sessions, session, by rw [quiet.sessions]; exact known, preferred⟩

/-! ## Turns without an admission -/

/-- The rest of the turn does not take the session away from the device. -/
def StaysPreferred (turn : Turn) (deviceId : DeviceId) (session : BleSession) : Prop :=
  match turn.event with
  | .command (.dispatch _) => session.isL2cap = false
  | .l2capAccept (.ok accepted) => accepted = deviceId
  | .l2cap (.channelClosed closed) =>
      ∀ held channelId, session = .l2cap held channelId → channelId ≠ closed
  | _ => False

def AnnouncedStay (turn : Turn) (task : BleRuntimeTask δ) : Prop :=
  ∀ effect ∈ task.outbox, ∀ nodeId endpoint deviceId, Announces .active nodeId endpoint effect →
    deviceIdFromEndpoint endpoint = some deviceId →
      ∃ sessions session, task.sessions[nodeId]? = some sessions ∧
        sessions.preferredEgress = some session ∧ session.deviceId = deviceId ∧
        StaysPreferred turn deviceId session

theorem ChannelIds.closed_is_preferred (ids : ChannelIds task) {holder : NodeId}
    {held current : DeviceId} {closed channelId : BleChannelId} {channel : ActiveL2capChannel}
    (prefersClosed : PrefersL2cap task holder held closed)
    (registered : task.l2capChannels[closed]? = some channel)
    (prefers : PrefersL2cap task channel.nodeId current channelId) : channelId = closed := by
  rcases ids.own holder held closed channel prefersClosed registered with same | last
  · obtain ⟨sessions, known, preferred⟩ := prefers
    obtain ⟨sessions', known', preferred'⟩ := prefersClosed
    rw [same, known', Option.some.injEq] at known
    subst known
    rw [preferred', Option.some.injEq] at preferred
    cases preferred
    rfl
  · -- The ids have run out: the node's own channel is at least as new.
    have newer := ids.latest closed channelId channel current registered prefers
    have assigned := ids.preferred _ _ _ prefers
    have bounded := ids.bounded
    unfold Assigned at assigned
    have equal : channelId.value = closed.value := by omega
    cases channelId
    cases closed
    simpa using equal

theorem AnnouncedStay.close (stay : AnnouncedStay turn task) (ids : ChannelIds task)
    {closed : BleChannelId}
    (closes : turn.event = .l2cap (.channelClosed closed) ∨
      (∃ batch, turn.event = .command (.dispatch batch)) ∧
        ∃ nodeId deviceId, PrefersL2cap task nodeId deviceId closed) :
    AnnouncedStay turn (task.handleL2capChannelClosed closed) := by
  intro effect member nodeId endpoint deviceId announces located
  rw [outbox_handleL2capChannelClosed] at member
  rcases List.mem_append.mp member with old | new
  · -- What was announced before prefers another channel or none, so closing leaves it alone.
    obtain ⟨sessions, session, known, preferred, same, stays⟩ :=
      stay effect old nodeId endpoint deviceId announces located
    have other : ∀ held channelId, sessions.preferredEgress = some (.l2cap held channelId) →
        channelId ≠ closed := by
      intro held channelId prefers
      rw [preferred, Option.some.injEq] at prefers
      subst prefers
      unfold StaysPreferred at stays
      rcases closes with event | ⟨⟨batch, event⟩, -⟩
      · rw [event] at stays
        exact stays held channelId rfl
      · rw [event] at stays
        cases stays
    refine ⟨sessions, session, ?_, preferred, same, stays⟩
    rw [sessions_handleL2capChannelClosed, known]
    split
    · rw [Option.map_some, downgradeL2cap_of_ne other]
    · rfl
  · unfold closeAnnouncement at new
    split at new
    · cases new
    · rename_i channel registered
      split at new
      · cases new
      · rename_i sessions known
        obtain ⟨session, left, rfl⟩ := List.mem_map.mp new
        obtain ⟨rfl, rfl⟩ := announces_observed announces
        rw [BleSession.deviceIdFromEndpoint_endpoint, Option.some.injEq] at located
        have preferred := Option.mem_toList.mp left
        refine ⟨_, session, ?_, preferred, located, ?_⟩
        · rw [sessions_handleL2capChannelClosed, registered, Option.map_some, if_pos rfl, known]
          rfl
        · have notClosed (held : DeviceId) (channelId : BleChannelId)
              (isL2cap : session = .l2cap held channelId) :
              channelId ≠ closed ∧ PrefersL2cap task channel.nodeId held channelId := by
            subst isL2cap
            obtain ⟨different, prefers⟩ :=
              preferredEgress_downgradeL2cap (ids.formed _ sessions known) preferred
            exact ⟨different, sessions, known, prefers⟩
          unfold StaysPreferred
          rcases closes with event | ⟨⟨batch, event⟩, holder, holding, prefersClosed⟩
          · rw [event]
            exact fun held channelId isL2cap => (notClosed held channelId isL2cap).1
          · rw [event]
            cases session with
            | gattCentral held => rfl
            | l2cap held channelId =>
                obtain ⟨different, prefers⟩ := notClosed held channelId rfl
                exact absurd (ids.closed_is_preferred prefersClosed registered prefers) different

theorem AnnouncedStay.installL2capSession (stay : AnnouncedStay turn task)
    (event : turn.event = .l2capAccept (.ok deviceId)) :
    AnnouncedStay turn (task.installL2capSession nodeId deviceId) := by
  obtain ⟨sessions, session, known, preferred, same⟩ :=
    prefersDevice_installL2capSession task nodeId deviceId
  intro effect member other endpoint announced announces located
  rw [outbox_installL2capSession] at member
  rcases List.mem_append.mp member with old | new
  · obtain ⟨others, otherSession, otherKnown, otherPreferred, device, stays⟩ :=
      stay effect old other endpoint announced announces located
    have accepted : deviceId = announced := by
      unfold StaysPreferred at stays
      rwa [event] at stays
    by_cases equal : other = nodeId
    · subst equal
      refine ⟨sessions, session, known, preferred, same.trans accepted, ?_⟩
      unfold StaysPreferred
      rw [event]
      exact accepted
    · refine ⟨others, otherSession, ?_, otherPreferred, device, stays⟩
      rw [sessions_installL2capSession, if_neg equal]
      exact otherKnown
  · rcases List.mem_cons.mp new with rfl | new
    · cases announces
    · obtain rfl := List.mem_singleton.mp new
      obtain ⟨rfl, rfl⟩ := announces_observed announces
      rw [deviceIdFromEndpoint_l2capEndpoint, Option.some.injEq] at located
      refine ⟨sessions, session, known, preferred, same.trans located, ?_⟩
      unfold StaysPreferred
      rw [event]
      exact located

def AnnouncesNoDevice (effect : Effect) : Prop :=
  ∀ nodeId endpoint, Announces .active nodeId endpoint effect →
    deviceIdFromEndpoint endpoint = none

theorem announcesNoDevice_of_quiet (quiet : Quiet effect) : AnnouncesNoDevice effect :=
  fun _ _ announces => absurd announces (not_announces_of_quiet quiet)

theorem announcesNoDevice_faulted {other : NodeId} {observed : LinkEndpoint} :
    AnnouncesNoDevice (.emitControl (rawBleLinkFaultedEvent other observed)) :=
  fun _ _ announces => absurd announces not_announces_faulted

theorem AnnouncedStay.of_sessions (stay : AnnouncedStay turn before)
    (sessions : after.sessions = before.sessions)
    (new : ∀ effect ∈ after.outbox, effect ∈ before.outbox ∨ AnnouncesNoDevice effect) :
    AnnouncedStay turn after := by
  intro effect member nodeId endpoint deviceId announces located
  rw [sessions]
  rcases new effect member with old | silent
  · exact stay effect old nodeId endpoint deviceId announces located
  · rw [silent nodeId endpoint announces] at located
    cases located

theorem AnnouncedStay.of_other_event (stay : AnnouncedStay turn before)
    (event : ∀ deviceId session, ¬ StaysPreferred turn deviceId session)
    (new : ∀ effect ∈ after.outbox, effect ∈ before.outbox ∨ AnnouncesNoDevice effect) :
    AnnouncedStay turn after := by
  intro effect member nodeId endpoint deviceId announces located
  rcases new effect member with old | silent
  · obtain ⟨-, session, -, -, -, stays⟩ :=
      stay effect old nodeId endpoint deviceId announces located
    exact absurd stays (event deviceId session)
  · rw [silent nodeId endpoint announces] at located
    cases located

section
variable [PeerDirectory δ BlePeerKey DiscoveredPeerHint] {start : BleRuntimeTask δ}

theorem AnnouncedStay.change (stay : AnnouncedStay turn before) (ids : ChannelIds before)
    (unadmitted : ∀ deviceId nodeId, ¬ Admits start turn deviceId nodeId)
    (change : Change start turn before after) : AnnouncedStay turn after := by
  cases change with
  | quiet quiet =>
      obtain ⟨effects, others, outbox⟩ := quiet.outbox
      refine stay.of_sessions quiet.sessions ?_
      intro effect member
      rw [outbox] at member
      rcases List.mem_append.mp member with old | new
      · exact Or.inl old
      · exact Or.inr (announcesNoDevice_of_quiet (others effect new))
  | hint other hint => exact stay.of_sessions rfl fun effect member => Or.inl member
  | forget other hint hinted => exact stay.of_sessions rfl fun effect member => Or.inl member
  | resolve other otherNode admits unchanged read => exact absurd admits (unadmitted _ _)
  | installGatt other otherNode admits resolved => exact absurd admits (unadmitted _ _)
  | installL2cap other otherNode source resolved =>
      rcases source with admits | accepted
      · exact absurd admits (unadmitted _ _)
      · exact stay.installL2capSession accepted
  | payload other otherNode endpoint value located attributed =>
      refine stay.of_sessions rfl ?_
      intro effect member
      rcases List.mem_append.mp member with old | new
      · exact Or.inl old
      · obtain rfl := List.mem_singleton.mp new
        exact Or.inr fun _ _ announces => absurd announces id
  | close channelId closes =>
      exact stay.close ids (closes.imp_right (And.imp_left dispatches_of_failedSends))
  | notify other payload receivers deviceIds notified subscribers targets target multicasts =>
      refine stay.of_sessions rfl ?_
      intro effect member
      rcases List.mem_append.mp member with old | new
      · exact Or.inl old
      · obtain rfl := List.mem_singleton.mp new
        exact Or.inr fun _ _ announces => absurd announces id
  | subscribe other event first =>
      refine stay.of_other_event (by simp [StaysPreferred, event]) ?_
      intro effect member
      rcases handleP2cSubscription_cases before other with ⟨-, same⟩ | ⟨node, -, equal⟩
      · exact Or.inl (by rwa [same] at member)
      · rw [equal] at member
        rcases List.mem_append.mp member with old | new
        · exact Or.inl old
        · obtain rfl := List.mem_singleton.mp new
          refine Or.inr fun _ _ announces => ?_
          obtain ⟨-, rfl⟩ := announces_observed announces
          exact deviceIdFromEndpoint_gattNotifyFanoutEndpoint
  | unsubscribe other event first =>
      refine stay.of_other_event (by simp [StaysPreferred, event]) ?_
      intro effect member
      rcases handleP2cUnsubscription_cases before other with ⟨-, same⟩ | ⟨node, sessions, -, -, equal⟩
      · exact Or.inl (by rwa [same] at member)
      · rw [equal] at member
        rcases List.mem_append.mp member with old | new
        · exact Or.inl old
        · split at new
          · obtain rfl := List.mem_singleton.mp new
            exact Or.inr announcesNoDevice_faulted
          · cases new
  | disconnect other cause event first =>
      refine stay.of_other_event (by simp [StaysPreferred, event]) ?_
      intro effect member
      obtain ⟨effects, others, outbox⟩ := (handleDeviceDisconnected_eq before other cause).outbox
      rw [outbox] at member
      rcases List.mem_append.mp member with member | quiet
      · rcases List.mem_append.mp member with old | fault
        · exact Or.inl old
        · obtain ⟨node, endpoint, rfl⟩ := faulted_of_mem_disconnectFaults fault
          exact Or.inr announcesNoDevice_faulted
      · exact Or.inr (announcesNoDevice_of_quiet (others effect quiet))

/-! ## Dispatchable announcements -/

/-- Every admission of the turn is of a device that is not referenced for another node, and if the
L2CAP session of its node is on another device, the device's own upgrade succeeds. -/
def AdmitsPreferred (task : BleRuntimeTask δ) (turn : Turn) : Prop :=
  ∀ deviceId nodeId, Admits task turn deviceId nodeId →
    (∀ other, Referenced task other deviceId → other = nodeId) ∧
      ((∀ held channelId, PrefersL2cap task nodeId held channelId → held = deviceId) ∨
        turn.backend.upgradesL2cap deviceId = true)

/-- Every unicast endpoint that the turn announces as active and does not fault again leads, after
the turn, to a session of its node. -/
def AnnouncesDispatchable (task : BleRuntimeTask δ) (turn : Turn) : Prop :=
  ∀ earlier effect later nodeId endpoint deviceId,
    (task.step turn).outbox = earlier ++ effect :: later →
      Announces .active nodeId endpoint effect →
        deviceIdFromEndpoint endpoint = some deviceId →
          (∀ fault ∈ later, ¬ Announces .faulted nodeId endpoint fault) →
            ∃ sessions session, (task.step turn).sessions[nodeId]? = some sessions ∧
              session ∈ sessions.iterSessions ∧
              (task.step turn).egressSessionForDevice deviceId = some session

theorem AdmitsPreferred.alone (allowed : AdmitsPreferred task turn) : AdmitsAlone task turn :=
  fun deviceId nodeId admits => (allowed deviceId nodeId admits).1

theorem egressSession_of_prefersDevice (owned : OwnedDevices task)
    (prefers : PrefersDevice task nodeId deviceId) :
    ∃ sessions session, task.sessions[nodeId]? = some sessions ∧
      session ∈ sessions.iterSessions ∧ task.egressSessionForDevice deviceId = some session := by
  obtain ⟨sessions, session, known, preferred, rfl⟩ := prefers
  exact ⟨sessions, session, known, preferredEgress_mem_iterSessions preferred,
    owned.uniqueEgress.egressSession known preferred⟩

theorem prefersDevice_of_announced (ids : ChannelIds task) (allowed : AdmitsPreferred task turn)
    (member : effect ∈ (task.step turn).outbox) (announces : Announces .active nodeId endpoint effect)
    (located : deviceIdFromEndpoint endpoint = some deviceId) :
    PrefersDevice (task.step turn) nodeId deviceId := by
  by_cases admission : ∃ admitted node, Admits task turn admitted node
  · obtain ⟨admitted, node, admits⟩ := admission
    have admits' : Admits { task with outbox := [] } turn admitted node := admits
    obtain ⟨called, quiet, handled⟩ := handle_of_admits admits'
    have formed : WellFormedSessions called := by
      unfold WellFormedSessions
      rw [quiet.sessions]
      exact ids.formed
    have own : (∀ held channelId, PrefersL2cap called node held channelId → held = admitted) ∨
        turn.backend.upgradesL2cap admitted = true := by
      unfold PrefersL2cap
      rw [quiet.sessions]
      exact (allowed admitted node admits).2
    have silent : ∀ effect ∈ called.outbox, Quiet effect := by
      obtain ⟨effects, others, outbox⟩ := quiet.outbox
      rw [outbox]
      exact others
    obtain ⟨prefers, announced⟩ := installResolvedPeer_announces turn.backend
      (BlePeerKey.ofDevice admitted) formed silent own
    have stepped : task.step turn = _ := handled
    rw [stepped] at member ⊢
    obtain ⟨rfl, device⟩ := announced effect member nodeId endpoint announces
    rw [located, Option.some.injEq] at device
    rw [device]
    exact prefers
  · have unadmitted : ∀ admitted node, ¬ Admits { task with outbox := [] } turn admitted node :=
      fun admitted node admits => admission ⟨admitted, node, admits⟩
    have both := step_induction (P := fun task => ChannelIds task ∧ AnnouncedStay turn task) task turn
      ⟨ids.of_outbox, by intro effect member; cases member⟩ (by
        rintro before after change ⟨ids, stay⟩
        exact ⟨ids.change change, stay.change ids unadmitted change⟩)
    obtain ⟨sessions, session, known, preferred, same, -⟩ :=
      both.2 effect member nodeId endpoint deviceId announces located
    exact ⟨sessions, session, known, preferred, same⟩

theorem announcesDispatchable_step (owned : OwnedDevices task) (ids : ChannelIds task)
    (allowed : AdmitsPreferred task turn) : AnnouncesDispatchable task turn := by
  intro earlier effect later nodeId endpoint deviceId outbox announces located _
  have member : effect ∈ (task.step turn).outbox := by simp [outbox]
  exact egressSession_of_prefersDevice (owned.step allowed.alone)
    (prefersDevice_of_announced ids allowed member announces located)

theorem admitsPreferred_of_dispatchable (owned : OwnedDevices task) (ids : ChannelIds task)
    (alone : AdmitsAlone task turn) (dispatchable : AnnouncesDispatchable task turn) :
    AdmitsPreferred task turn := by
  intro deviceId nodeId admits
  refine ⟨alone deviceId nodeId admits, ?_⟩
  by_cases upgrades : turn.backend.upgradesL2cap deviceId = true
  · exact Or.inr upgrades
  left
  rintro held channelId ⟨sessions, known, preferred⟩
  have admits' : Admits { task with outbox := [] } turn deviceId nodeId := admits
  obtain ⟨called, quiet, handled⟩ := handle_of_admits admits'
  obtain ⟨final, finalQuiet, equal⟩ := tryUpgradeL2cap_eq (({ called with
    peers := PeerDirectory.resolve called.peers (BlePeerKey.ofDevice deviceId) nodeId
    }.installGattSession nodeId deviceId).emitLinkObserved nodeId (gattEndpoint deviceId))
    turn.backend nodeId deviceId
  rw [if_neg upgrades] at equal
  have stepped : task.step turn = final := handled.trans equal
  obtain ⟨later, quietLater, outbox⟩ := finalQuiet.outbox
  have announced : (task.step turn).outbox =
      (called.outbox ++ [.subscribeCharacteristic deviceId jacquardP2cCharUuid]) ++
        .emitControl (rawBleLinkObservedEvent nodeId (gattEndpoint deviceId)) :: later := by
    rw [stepped, outbox]
    exact List.append_assoc ..
  obtain ⟨-, session, -, -, egress⟩ := dispatchable _ _ _ nodeId (gattEndpoint deviceId) deviceId
    announced ⟨rfl, rfl, rfl⟩ (by simp)
    fun fault member => not_announces_of_quiet (quietLater fault member)
  obtain ⟨other, others, otherKnown, otherPreferred, same⟩ := preferred_of_egressSession egress
  -- The session found is the preferred one of the node, which the installation has left in place.
  have own : other = nodeId := by
    have mentioned : Referenced (task.step turn) other deviceId :=
      referenced_of_prefersDevice ⟨others, session, otherKnown, otherPreferred, same⟩
    have resolved : (task.step turn).resolvedNodeIdForDevice deviceId = some nodeId := by
      rw [stepped, resolved_of_peers finalQuiet.peers, resolvedNodeIdForDevice_eq_some]
      exact PeerDirectory.identityState_resolve ..
    exact (owned.step alone).resolved other nodeId deviceId mentioned resolved
  subst own
  obtain ⟨fallback, state⟩ := preferredEgress_eq_some_l2cap (ids.formed other sessions known) preferred
  have kept : (task.step turn).sessions[other]? =
      some (sessions.installGattCentral (.gattCentral deviceId)) := by
    rw [stepped, finalQuiet.sessions]
    apply sessions_installGattSession.trans
    rw [if_pos rfl]
    have unchanged : called.sessions[other]? = some sessions := by
      rw [quiet.sessions]
      exact known
    simp [unchanged]
  rw [otherKnown, Option.some.injEq] at kept
  subst kept
  have held : session = .l2cap held channelId := by
    simpa [PeerSessions.installGattCentral, PeerSessions.preferredEgress, state] using
      otherPreferred.symm
  rw [← same, held]
  rfl

/-! ## Whole runs -/

variable {targetOs : TargetOs} {localNodeId : NodeId} {config : BleConfig}
  {restoredState : BleRestoredState} {initial : BleRuntimeTask δ}

/-- In a run whose admissions are all preferred, every announced endpoint is dispatchable after its
turn; and where no device is admitted while it is referenced for another node, these are the only
runs. -/
theorem announcements_dispatchable
    (created : BleRuntimeTask.new targetOs localNodeId config restoredState = .ok initial)
    (turns : List Turn) :
    (Meets BleRuntimeTask.step AdmitsPreferred initial turns →
      ∀ before turn, before ++ [turn] <+: turns →
        AnnouncesDispatchable (exec BleRuntimeTask.step initial before) turn) ∧
    (Meets BleRuntimeTask.step AdmitsAlone initial turns →
      (∀ before turn, before ++ [turn] <+: turns →
        AnnouncesDispatchable (exec BleRuntimeTask.step initial before) turn) →
      Meets BleRuntimeTask.step AdmitsPreferred initial turns) := by
  constructor
  · intro meets before turn initially
    obtain ⟨earlier, allowed⟩ := meets_snoc.mp (meets.of_prefix initially)
    exact announcesDispatchable_step
      (ownedDevices_run created (earlier.imp fun _ _ allowed => allowed.alone))
      (channelIds_run created before) allowed
  · intro alone dispatchable
    induction turns using List.reverseRecOn with
    | nil => trivial
    | append_singleton before turn ih =>
        obtain ⟨earlier, last⟩ := meets_snoc.mp alone
        refine meets_snoc.mpr ⟨ih earlier fun first next initially =>
          dispatchable first next (initially.trans (List.prefix_append before [turn])), ?_⟩
        exact admitsPreferred_of_dispatchable (ownedDevices_run created earlier)
          (channelIds_run created before) last (dispatchable before turn List.prefix_rfl)

end

/-! A peer that is met once is reachable at the endpoint announced. When its second device connects
while the first has the L2CAP channel, the endpoint announced for the second leads nowhere. -/

theorem announcements_dispatchable_meet :
    AnnouncesDispatchable (Scenario.reached .other [Scenario.discover ⟨"peer"⟩ (Scenario.node 2)])
      (Scenario.connect ⟨"peer"⟩ (Scenario.node 2) none) := by
  have empty : (Scenario.reached .other
      [Scenario.discover ⟨"peer"⟩ (Scenario.node 2)]).sessions = ∅ := rfl
  have connecting : AdmitsPreferred
      (Scenario.reached .other [Scenario.discover ⟨"peer"⟩ (Scenario.node 2)])
      (Scenario.connect ⟨"peer"⟩ (Scenario.node 2) none) := by
    intro deviceId nodeId admits
    refine ⟨admitsAlone_of_empty empty deviceId nodeId admits, Or.inl ?_⟩
    rintro held channelId ⟨sessions, known, -⟩
    simp [empty] at known
  refine (announcements_dispatchable (Scenario.new_launched .other)
    (Scenario.meet ⟨"peer"⟩ (Scenario.node 2) none)).1 ⟨?_, connecting, trivial⟩ _ _ List.prefix_rfl
  rintro deviceId nodeId ⟨-, ⟨⟨⟩, -⟩ | ⟨device, ⟨⟩, -⟩⟩

def behindL2cap : List Turn :=
  Scenario.meet ⟨"old"⟩ (Scenario.node 2) (some ⟨129⟩) ++
    [Scenario.discover ⟨"new"⟩ (Scenario.node 2)]

theorem announced_endpoint_unserved :
    ((Scenario.reached .other behindL2cap).step
        (Scenario.connect ⟨"new"⟩ (Scenario.node 2) none)).outbox =
        [identityRead ⟨"new"⟩ (Scenario.node 2),
          .subscribeCharacteristic ⟨"new"⟩ jacquardP2cCharUuid,
          .emitControl (rawBleLinkObservedEvent (Scenario.node 2) (gattEndpoint ⟨"new"⟩)),
          .readCharacteristic ⟨"new"⟩ jacquardPsmCharUuid (.error (.other 0))] ∧
      ((Scenario.reached .other behindL2cap).step
        (Scenario.connect ⟨"new"⟩ (Scenario.node 2) none)).egressSessionForDevice ⟨"new"⟩ = none ∧
      ¬ AnnouncesDispatchable (Scenario.reached .other behindL2cap)
        (Scenario.connect ⟨"new"⟩ (Scenario.node 2) none) := by
  have outbox : ((Scenario.reached .other behindL2cap).step
      (Scenario.connect ⟨"new"⟩ (Scenario.node 2) none)).outbox =
        [identityRead ⟨"new"⟩ (Scenario.node 2),
          .subscribeCharacteristic ⟨"new"⟩ jacquardP2cCharUuid,
          .emitControl (rawBleLinkObservedEvent (Scenario.node 2) (gattEndpoint ⟨"new"⟩)),
          .readCharacteristic ⟨"new"⟩ jacquardPsmCharUuid (.error (.other 0))] := by
    decide +kernel
  have unserved : ((Scenario.reached .other behindL2cap).step
      (Scenario.connect ⟨"new"⟩ (Scenario.node 2) none)).egressSessionForDevice ⟨"new"⟩ = none := by
    decide +kernel
  refine ⟨outbox, unserved, ?_⟩
  intro dispatchable
  obtain ⟨-, session, -, -, egress⟩ := dispatchable [_, _] _ [_] (Scenario.node 2)
    (gattEndpoint ⟨"new"⟩) ⟨"new"⟩ outbox ⟨rfl, rfl, rfl⟩ (by simp) (by simp [Announces])
  rw [unserved] at egress
  cases egress

end JqBle.Proof.LinkProfile
