import JqBle.Proof.LinkProfile.ChannelTasks

/-!
# The channel that a node prefers

What keeps a registered L2CAP channel the preferred egress of a node: dispatch closes only channels
that turn a payload away, and of the link events only a disconnect or a newer channel to the node
takes the preference away.
-/

namespace JqBle.Proof.LinkProfile
open Std Host Library Execution JqBle.LinkProfile

variable {δ : Type} {task before after : BleRuntimeTask δ} {nodeId : NodeId} {deviceId : DeviceId}
  {channelId : BleChannelId} {payload : List UInt8}

/-! ## The runtime task -/

/-- The preferred egress of the node is a registered L2CAP channel. -/
structure HoldsChannel (task : BleRuntimeTask δ) (nodeId : NodeId) (deviceId : DeviceId)
    (channelId : BleChannelId) : Prop where
  prefers : PrefersL2cap task nodeId deviceId channelId
  registered : (task.l2capChannels[channelId]?).isSome = true

theorem HoldsChannel.congr (holds : HoldsChannel before nodeId deviceId channelId)
    (sessions : after.sessions = before.sessions)
    (l2capChannels : after.l2capChannels = before.l2capChannels) :
    HoldsChannel after nodeId deviceId channelId := by
  constructor
  · unfold PrefersL2cap
    rw [sessions]
    exact holds.prefers
  · rw [l2capChannels]
    exact holds.registered

theorem HoldsChannel.channelClosed {closed : BleChannelId}
    (holds : HoldsChannel task nodeId deviceId channelId) (other : channelId ≠ closed) :
    HoldsChannel (task.handleL2capChannelClosed closed) nodeId deviceId channelId := by
  obtain ⟨⟨sessions, known, preferred⟩, registered⟩ := holds
  constructor
  · refine ⟨sessions, ?_, preferred⟩
    rw [sessions_channelClosed_of_other, known]
    rintro held ⟨current, knownNow, preferredNow⟩
    rw [known] at knownNow
    cases knownNow
    rw [preferred] at preferredNow
    cases preferredNow
    exact other rfl
  · rwa [l2capChannels_handleL2capChannelClosed, if_neg other]

theorem HoldsChannel.sendViaSession (holds : HoldsChannel task nodeId deviceId channelId)
    (accepted : Bool) (session : BleSession) (payload : List UInt8) :
    HoldsChannel (task.sendViaSession accepted session payload).1 nodeId deviceId channelId := by
  have quiet := sendViaSession_quiet task accepted session payload
  exact holds.congr quiet.sessions quiet.l2capChannels

/-- Dispatch closes only channels that turn a payload away. -/
theorem HoldsChannel.dispatchUnicastOver {isOpen : BleChannelId → Bool} {target : DeviceId}
    {fuel : Nat} {downgradedL2cap : Option BleChannelId}
    (holds : HoldsChannel task nodeId deviceId channelId) (opened : isOpen channelId = true) :
    HoldsChannel (task.dispatchUnicastOver isOpen target payload fuel downgradedL2cap).1 nodeId
      deviceId channelId := by
  refine dispatchUnicastOver_induction
    (P := fun task => HoldsChannel task nodeId deviceId channelId) ?_ ?_ fuel downgradedL2cap holds
  · intro task accepted session holds
    exact holds.sendViaSession accepted session payload
  · intro task closed turnsAway holds
    refine holds.channelClosed ?_
    -- An open channel that is registered takes the payload.
    rintro rfl
    rw [ExtTreeMap.contains_eq_isSome_getElem?, holds.registered, opened] at turnsAway
    cases turnsAway

theorem prefersL2cap_channelClosed {closed : BleChannelId} (formed : WellFormedSessions task)
    (prefers : PrefersL2cap (task.handleL2capChannelClosed closed) nodeId deviceId channelId) :
    PrefersL2cap task nodeId deviceId channelId := by
  obtain ⟨updated, known, preferred⟩ := prefers
  rw [sessions_handleL2capChannelClosed] at known
  split at known
  · obtain ⟨sessions, old, rfl⟩ := Option.map_eq_some_iff.mp known
    exact ⟨sessions, old, (preferredEgress_downgradeL2cap (formed nodeId sessions old) preferred).2⟩
  · exact ⟨updated, known, preferred⟩

theorem WellFormedSessions.channelClosed (formed : WellFormedSessions task)
    (closed : BleChannelId) : WellFormedSessions (task.handleL2capChannelClosed closed) := by
  intro nodeId updated known
  rw [sessions_handleL2capChannelClosed] at known
  split at known
  · obtain ⟨sessions, old, rfl⟩ := Option.map_eq_some_iff.mp known
    exact (formed nodeId sessions old).downgradeL2cap
  · exact formed nodeId updated known

theorem prefersL2cap_of_taken {isOpen : BleChannelId → Bool} {fuel : Nat}
    {downgradedL2cap : Option BleChannelId} (formed : WellFormedSessions task)
    (taken : (task.dispatchUnicastOver isOpen deviceId payload fuel downgradedL2cap).2 =
      some channelId) :
    ∃ nodeId, PrefersL2cap task nodeId deviceId channelId := by
  induction fuel generalizing downgradedL2cap task with
  | zero => cases taken
  | succ fuel ih =>
      unfold BleRuntimeTask.dispatchUnicastOver at taken
      cases search : task.egressSessionForDevice deviceId with
      | none => simp [search] at taken
      | some session =>
          rw [search] at taken
          cases session with
          | gattCentral held => cases taken
          | l2cap held current =>
              dsimp only at taken
              split at taken
              · cases taken
                obtain ⟨nodeId, sessions, known, preferred, same⟩ := preferred_of_egressSession search
                cases same
                exact ⟨nodeId, sessions, known, preferred⟩
              · rename_i closed rejected
                split at taken
                · cases taken
                · have quiet := sendViaSession_quiet task (isOpen current) (.l2cap held current)
                    payload
                  have formedSent : WellFormedSessions
                      (task.sendViaSession (isOpen current) (.l2cap held current) payload).1 := by
                    unfold WellFormedSessions
                    rw [quiet.sessions]
                    exact formed
                  obtain ⟨nodeId, prefers⟩ := ih (formedSent.channelClosed closed) taken
                  obtain ⟨sessions, known, preferred⟩ :=
                    prefersL2cap_channelClosed formedSent prefers
                  rw [quiet.sessions] at known
                  exact ⟨nodeId, sessions, known, preferred⟩

/-! ## Turns -/

theorem HoldsChannel.of_lookup (holds : HoldsChannel before nodeId deviceId channelId)
    (kept : ∀ sessions, before.sessions[nodeId]? = some sessions →
      sessions.preferredEgress = some (.l2cap deviceId channelId) →
        ∃ updated, after.sessions[nodeId]? = some updated ∧
          updated.preferredEgress = some (.l2cap deviceId channelId))
    (registered : (after.l2capChannels[channelId]?).isSome = true) :
    HoldsChannel after nodeId deviceId channelId := by
  obtain ⟨sessions, known, preferred⟩ := holds.prefers
  exact ⟨kept sessions known preferred, registered⟩

theorem HoldsChannel.installGattSession (formed : WellFormedSessions task)
    (holds : HoldsChannel task nodeId deviceId channelId) (installed : NodeId)
    (held : DeviceId) :
    HoldsChannel (task.installGattSession installed held) nodeId deviceId channelId := by
  refine holds.of_lookup ?_ holds.registered
  intro sessions known preferred
  rw [sessions_installGattSession]
  split
  · rename_i same
    subst same
    -- A central session becomes the fallback of an L2CAP state.
    obtain ⟨fallback, state⟩ :=
      preferredEgress_eq_some_l2cap (formed nodeId sessions known) preferred
    rw [known]
    refine ⟨_, rfl, ?_⟩
    simp [PeerSessions.installGattCentral, PeerSessions.preferredEgress, state]
  · exact ⟨sessions, known, preferred⟩

theorem HoldsChannel.installL2capSession (holds : HoldsChannel task nodeId deviceId channelId)
    {installed : NodeId} (other : nodeId ≠ installed) (held : DeviceId) :
    HoldsChannel (task.installL2capSession installed held) nodeId deviceId channelId := by
  refine holds.of_lookup ?_ ?_
  · intro sessions known preferred
    rw [sessions_installL2capSession, if_neg other]
    exact ⟨sessions, known, preferred⟩
  · rw [l2capChannels_installL2capSession]
    split
    · rfl
    · exact holds.registered

section
variable [PeerDirectory δ BlePeerKey DiscoveredPeerHint]
variable {start : BleRuntimeTask δ} {turn : Turn}

/-- The turn takes neither the sessions of the node nor the channel along with a disconnect, and
opens no newer channel to the node. -/
structure LeavesChannel (nodeId : NodeId) (channelId : BleChannelId) (task : BleRuntimeTask δ)
    (turn : Turn) : Prop where
  sessions : ∀ deviceId cause sessions, turn.event = .central (.deviceDisconnected deviceId cause) →
    task.sessions[nodeId]? = some sessions → sessions.referencesDevice deviceId = false
  channel : ∀ deviceId cause channel, turn.event = .central (.deviceDisconnected deviceId cause) →
    task.l2capChannels[channelId]? = some channel →
      task.resolvedNodeIdForDevice deviceId ≠ some channel.nodeId
  upgraded : ∀ deviceId, Admits task turn deviceId nodeId →
    turn.backend.upgradesL2cap deviceId = false
  accepted : ∀ deviceId, turn.event = .l2capAccept (.ok deviceId) →
    turn.backend.readL2capIdentity = some nodeId →
      task.resolvedNodeIdForDevice deviceId ≠ some nodeId

/-- A change of a turn that opens no channel to the node. -/
theorem HoldsChannel.change (formed : WellFormedSessions before)
    (holds : HoldsChannel before nodeId deviceId channelId) (change : Change start turn before after)
    (leaves : LeavesChannel nodeId channelId start turn)
    (dispatches : ∀ batch, turn.event ≠ .command (.dispatch batch))
    (closes : ∀ event, turn.event ≠ .l2cap event)
    (accepts : ∀ accepted, turn.event ≠ .l2capAccept accepted)
    (admits : ∀ deviceId, ¬ Admits start turn deviceId nodeId) :
    HoldsChannel after nodeId deviceId channelId := by
  cases change with
  | quiet quiet => exact holds.congr quiet.sessions quiet.l2capChannels
  | hint other hint => exact holds.congr rfl rfl
  | forget other hint hinted => exact holds.congr rfl rfl
  | resolve other otherNode admitted unchanged read => exact holds.congr rfl rfl
  | installGatt other otherNode admitted resolved =>
      exact (holds.installGattSession formed otherNode other).congr rfl rfl
  | installL2cap other otherNode source resolved =>
      rcases source with admitted | accepted
      · refine holds.installL2capSession ?_ other
        rintro rfl
        exact admits other admitted
      · exact absurd accepted (accepts _)
  | payload other otherNode endpoint value located attributed => exact holds.congr rfl rfl
  | close closed closing =>
      rcases closing with event | ⟨failed, -⟩
      · exact absurd event (closes _)
      · obtain ⟨batch, event⟩ := dispatches_of_failedSends failed
        exact absurd event (dispatches _)
  | notify other payload receivers deviceIds notified subscribers targets target dispatched =>
      exact holds.congr rfl rfl
  | subscribe other event first =>
      rcases handleP2cSubscription_cases before other with ⟨-, same⟩ | ⟨otherNode, resolved, equal⟩
      · rwa [same]
      · rw [equal]
        refine holds.of_lookup ?_ holds.registered
        intro sessions known preferred
        rw [EntryMap.getElem?_modifyOrInsert]
        split
        · rename_i same
          subst same
          rw [known]
          exact ⟨_, rfl, preferred⟩
        · exact ⟨sessions, known, preferred⟩
  | unsubscribe other event first =>
      rcases handleP2cUnsubscription_cases before other with
        ⟨-, same⟩ | ⟨otherNode, oldSessions, -, old, equal⟩
      · rwa [same]
      · rw [equal]
        refine holds.of_lookup ?_ holds.registered
        intro sessions known preferred
        rw [EntryMap.getElem?_insert]
        split
        · rename_i same
          subst same
          rw [old] at known
          cases known
          exact ⟨_, rfl, preferred⟩
        · exact ⟨sessions, known, preferred⟩
  | disconnect other cause event first =>
      subst first
      have disconnected := handleDeviceDisconnected_eq before other cause
      obtain ⟨⟨sessions, known, preferred⟩, registered⟩ := holds
      constructor
      · refine ⟨sessions, ?_, preferred⟩
        rw [disconnected.sessions]
        exact (EntryMap.getElem?_filter_eq_some ..).mpr
          ⟨known, by simp [leaves.sessions other cause sessions event known]⟩
      · rw [disconnected.l2capChannels]
        dsimp only
        split
        · exact registered
        · rename_i dropped resolved
          obtain ⟨channel, entry⟩ := Option.isSome_iff_exists.mp registered
          have owner := leaves.channel other cause channel event entry
          have kept : channel.nodeId ≠ dropped := by
            rintro rfl
            exact owner resolved
          rw [(EntryMap.getElem?_filter_eq_some ..).mpr ⟨entry, by simpa using kept⟩]
          rfl

theorem HoldsChannel.installResolvedPeer (formed : WellFormedSessions task)
    (holds : HoldsChannel task nodeId deviceId channelId) {backend : Backend} {key : BlePeerKey}
    {installed : NodeId} {held : DeviceId} (upgraded : backend.upgradesL2cap held = false) :
    HoldsChannel (task.installResolvedPeer backend key installed held) nodeId deviceId channelId := by
  unfold BleRuntimeTask.installResolvedPeer
  dsimp only
  obtain ⟨called, quiet, equal⟩ := tryUpgradeL2cap_eq (({ task with
    peers := PeerDirectory.resolve task.peers key installed
    }.installGattSession installed held).emitLinkObserved installed (gattEndpoint held))
    backend installed held
  rw [equal, upgraded]
  have resolved : HoldsChannel { task with
      peers := PeerDirectory.resolve task.peers key installed } nodeId deviceId channelId :=
    holds.congr rfl rfl
  have formedResolved : WellFormedSessions { task with
      peers := PeerDirectory.resolve task.peers key installed } := formed
  exact (resolved.installGattSession formedResolved installed held).congr quiet.sessions
    quiet.l2capChannels

theorem HoldsChannel.handleL2capAccept (holds : HoldsChannel task nodeId deviceId channelId)
    {backend : Backend} {accepted : Except BlewError DeviceId}
    (other : ∀ held, accepted = .ok held → backend.readL2capIdentity = some nodeId →
      task.resolvedNodeIdForDevice held ≠ some nodeId) :
    HoldsChannel (task.handleL2capAccept backend accepted) nodeId deviceId channelId := by
  unfold BleRuntimeTask.handleL2capAccept
  split
  · exact holds
  · rename_i held
    split
    · exact holds
    · rename_i remoteNodeId identity
      split
      · exact holds
      · rename_i resolved
        refine holds.installL2capSession ?_ held
        rintro rfl
        exact other held rfl identity (not_not.mp resolved)

/-- The node goes on preferring the channel over every turn that leaves it connected. -/
theorem HoldsChannel.step (formed : WellFormedSessions task)
    (holds : HoldsChannel task nodeId deviceId channelId)
    (leaves : LeavesChannel nodeId channelId task turn)
    (dispatches : ∀ batch, turn.event ≠ .command (.dispatch batch))
    (closes : ∀ event, turn.event ≠ .l2cap event) :
    HoldsChannel (task.step turn) nodeId deviceId channelId := by
  have cleared : HoldsChannel { task with outbox := [] } nodeId deviceId channelId :=
    holds.congr rfl rfl
  have formedCleared : WellFormedSessions { task with outbox := [] } := formed
  have leavesCleared : LeavesChannel nodeId channelId { task with outbox := [] } turn :=
    ⟨leaves.sessions, leaves.channel, leaves.upgraded, leaves.accepted⟩
  by_cases accepts : ∃ accepted, turn.event = .l2capAccept accepted
  · obtain ⟨accepted, event⟩ := accepts
    have accepting : task.step turn =
        BleRuntimeTask.handleL2capAccept { task with outbox := [] } turn.backend accepted := by
      unfold BleRuntimeTask.step BleRuntimeTask.handle
      rw [event]
    rw [accepting]
    apply cleared.handleL2capAccept
    rintro held rfl
    exact leavesCleared.accepted held event
  · by_cases admits : ∃ held, Admits { task with outbox := [] } turn held nodeId
    · obtain ⟨held, admitted⟩ := admits
      obtain ⟨called, quiet, installed⟩ := handle_of_admits admitted
      unfold BleRuntimeTask.step
      rw [installed]
      have formedCalled : WellFormedSessions called := by
        unfold WellFormedSessions
        rw [quiet.sessions]
        exact formed
      exact (cleared.congr quiet.sessions quiet.l2capChannels).installResolvedPeer formedCalled
        (leavesCleared.upgraded held admitted)
    · push Not at accepts admits
      have both := step_induction
        (P := fun task => WellFormedSessions task ∧ HoldsChannel task nodeId deviceId channelId)
        task turn ⟨formedCleared, cleared⟩ (by
          rintro earlier later change ⟨formed, holds⟩
          exact ⟨formed.change change, holds.change formed change leavesCleared dispatches closes
            accepts admits⟩)
      exact both.2

/-! ## Registered channels after a turn -/

theorem registered_step (registered : ((task.step turn).l2capChannels[channelId]?).isSome = true) :
    Effect.spawnL2capChannelTasks channelId ∈ (task.step turn).outbox ∨
      (task.l2capChannels[channelId]?).isSome = true := by
  have either := step_induction
    (P := fun reached : BleRuntimeTask δ =>
      (reached.l2capChannels[channelId]?).isSome = true →
        Effect.spawnL2capChannelTasks channelId ∈ reached.outbox ∨
          (task.l2capChannels[channelId]?).isSome = true)
    task turn (fun registered => Or.inr registered) (by
      intro before after change ih registered
      obtain ⟨channel, entry⟩ := Option.isSome_iff_exists.mp registered
      rcases l2capChannels_change change entry with old | ⟨rfl, -, rfl⟩
      · obtain ⟨effects, outbox, -⟩ := effects_change change
        rw [outbox]
        rcases ih (by rw [old]; rfl) with spawned | earlier
        · exact Or.inl (List.mem_append_left _ spawned)
        · exact Or.inr earlier
      · rw [outbox_installL2capSession]
        exact Or.inl (by simp))
  exact either registered

end

end JqBle.Proof.LinkProfile
