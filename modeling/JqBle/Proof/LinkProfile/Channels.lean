import JqBle.Proof.LinkProfile.Scenario
import JqBle.Proof.LinkProfile.Tables

/-!
# L2CAP sessions and their channels

A session that prefers L2CAP names a channel, and the channel table is kept apart from the
sessions. The two agree as long as no disconnect drops the channels of a node whose L2CAP session
it leaves in place.
-/

namespace JqBle.Proof.LinkProfile
open Std Host Library Execution JqBle.LinkProfile

variable {δ : Type}

/-! ## Counting registrations -/

def isRegistration : Effect → Bool
  | .spawnL2capChannelTasks _ => true
  | _ => false

def registrations (effects : List Effect) : Nat := effects.countP isRegistration

theorem isRegistration_of_quiet {effect : Effect} (quiet : Quiet effect) :
    isRegistration effect = false := by
  cases effect <;> simp_all [Quiet, isRegistration]

theorem registrations_append (first second : List Effect) :
    registrations (first ++ second) = registrations first + registrations second :=
  List.countP_append

theorem registrations_eq_zero {effects : List Effect}
    (others : ∀ effect ∈ effects, isRegistration effect = false) : registrations effects = 0 := by
  apply List.countP_eq_zero.mpr
  intro effect member
  simp [others effect member]

theorem registrations_installL2capSession (task : BleRuntimeTask δ) (nodeId : NodeId)
    (deviceId : DeviceId) : registrations (task.installL2capSession nodeId deviceId).outbox =
      registrations task.outbox + 1 := by
  rw [outbox_installL2capSession, registrations_append]
  rfl

/-! ## Channel ids -/

variable {nodeId : NodeId} {deviceId : DeviceId} {channelId : BleChannelId}

def WellFormedSessions (task : BleRuntimeTask δ) : Prop :=
  ∀ (nodeId : NodeId) (sessions : PeerSessions), task.sessions[nodeId]? = some sessions →
    WellFormed sessions

/-- The id has been given out. The last id is given out again and again. -/
def Assigned (task : BleRuntimeTask δ) (channelId : BleChannelId) : Prop :=
  channelId.value < task.nextChannelId ∨
    (channelId.value = u64Max ∧ task.nextChannelId = u64Max)

/-- What holds of the channel ids whatever is disconnected: a session's channel is registered for
nobody else unless the ids have run out, and no channel of a node is newer than the one its session
prefers. -/
structure ChannelIds (task : BleRuntimeTask δ) : Prop where
  formed : WellFormedSessions task
  bounded : task.nextChannelId ≤ u64Max
  registered : ∀ (channelId : BleChannelId) (channel : ActiveL2capChannel),
    task.l2capChannels[channelId]? = some channel → Assigned task channelId
  preferred : ∀ nodeId deviceId channelId, PrefersL2cap task nodeId deviceId channelId →
    Assigned task channelId
  own : ∀ (nodeId : NodeId) (deviceId : DeviceId) (channelId : BleChannelId)
    (channel : ActiveL2capChannel), PrefersL2cap task nodeId deviceId channelId →
      task.l2capChannels[channelId]? = some channel →
        channel.nodeId = nodeId ∨ channelId.value = u64Max
  latest : ∀ (older newer : BleChannelId) (channel : ActiveL2capChannel) (deviceId : DeviceId),
    task.l2capChannels[older]? = some channel →
      PrefersL2cap task channel.nodeId deviceId newer → older.value ≤ newer.value

def LiveL2cap (task : BleRuntimeTask δ) : Prop :=
  ∀ nodeId deviceId channelId, PrefersL2cap task nodeId deviceId channelId →
    task.l2capChannels[channelId]? = some ⟨nodeId, deviceId⟩

theorem prefersL2cap_installL2capSession {task : BleRuntimeTask δ} {other : NodeId}
    {otherDevice : DeviceId}
    (prefers : PrefersL2cap (task.installL2capSession nodeId deviceId) other otherDevice channelId) :
    (other = nodeId ∧ otherDevice = deviceId ∧ channelId = ⟨task.nextChannelId⟩) ∨
      (other ≠ nodeId ∧ PrefersL2cap task other otherDevice channelId) := by
  obtain ⟨updated, known, preferred⟩ := prefers
  rw [sessions_installL2capSession] at known
  split at known
  · rename_i same
    have promoted : updated.preferredEgress = some (.l2cap deviceId ⟨task.nextChannelId⟩) := by
      cases old : task.sessions[nodeId]? with
      | none =>
          obtain rfl := by simpa [old] using known
          rfl
      | some sessions =>
          obtain rfl := by simpa [old] using known
          rfl
    rw [promoted] at preferred
    cases preferred
    exact Or.inl ⟨same, rfl, rfl⟩
  · rename_i different
    exact Or.inr ⟨different, updated, known, preferred⟩

theorem sessions_channelClosed_of_other {task : BleRuntimeTask δ}
    (other : ∀ deviceId, ¬ PrefersL2cap task nodeId deviceId channelId) :
    (task.handleL2capChannelClosed channelId).sessions[nodeId]? = task.sessions[nodeId]? := by
  rw [sessions_handleL2capChannelClosed]
  split
  · cases known : task.sessions[nodeId]? with
    | none => rfl
    | some sessions =>
        rw [Option.map_some, downgradeL2cap_of_ne]
        rintro deviceId current preferred rfl
        exact other deviceId ⟨sessions, known, preferred⟩
  · rfl

theorem ChannelIds.installL2capSession {task : BleRuntimeTask δ} (ids : ChannelIds task)
    (formed : WellFormedSessions (task.installL2capSession nodeId deviceId)) :
    ChannelIds (task.installL2capSession nodeId deviceId) := by
  have next : (task.installL2capSession nodeId deviceId).nextChannelId =
      min (task.nextChannelId + 1) u64Max := rfl
  have bounded := ids.bounded
  have assigned (channelId : BleChannelId) (old : Assigned task channelId) :
      Assigned (task.installL2capSession nodeId deviceId) channelId := by
    unfold Assigned at old ⊢
    rw [next]
    omega
  have assignedNow : Assigned (task.installL2capSession nodeId deviceId) ⟨task.nextChannelId⟩ := by
    unfold Assigned
    rw [next]
    dsimp only
    omega
  refine ⟨formed, ?_, ?_, ?_, ?_, ?_⟩
  · rw [next]
    omega
  · intro channelId channel registered
    rw [l2capChannels_installL2capSession] at registered
    split at registered
    · rename_i same
      rw [same]
      exact assignedNow
    · exact assigned channelId (ids.registered channelId channel registered)
  · intro other otherDevice channelId prefers
    rcases prefersL2cap_installL2capSession prefers with ⟨-, -, rfl⟩ | ⟨-, old⟩
    · exact assignedNow
    · exact assigned channelId (ids.preferred other otherDevice channelId old)
  · intro other otherDevice channelId channel prefers registered
    rw [l2capChannels_installL2capSession] at registered
    rcases prefersL2cap_installL2capSession prefers with ⟨rfl, -, rfl⟩ | ⟨-, old⟩
    · rw [if_pos rfl, Option.some.injEq] at registered
      exact Or.inl (by rw [← registered])
    · split at registered
      · rename_i same
        have used := ids.preferred other otherDevice channelId old
        subst same
        unfold Assigned at used
        dsimp only at used ⊢
        omega
      · exact ids.own other otherDevice channelId channel old registered
  · intro older newer channel otherDevice registered prefers
    rw [l2capChannels_installL2capSession] at registered
    rcases prefersL2cap_installL2capSession prefers with ⟨-, -, rfl⟩ | ⟨different, old⟩
    · split at registered
      · rename_i same
        exact Nat.le_of_eq (by rw [same])
      · have used := ids.registered older channel registered
        unfold Assigned at used
        dsimp only
        omega
    · split at registered
      · cases registered
        exact absurd rfl different
      · exact ids.latest older newer channel otherDevice registered old

theorem ChannelIds.of_outbox {task : BleRuntimeTask δ} (ids : ChannelIds task) :
    ChannelIds { task with outbox := [] } :=
  ⟨ids.formed, ids.bounded, ids.registered, ids.preferred, ids.own, ids.latest⟩

section
variable [PeerDirectory δ BlePeerKey DiscoveredPeerHint]
variable {start before after : BleRuntimeTask δ} {turn : Turn}

theorem registrations_change (change : Change start turn before after) :
    (after.nextChannelId = before.nextChannelId ∧
      registrations after.outbox = registrations before.outbox) ∨
    ∃ nodeId deviceId, after = before.installL2capSession nodeId deviceId := by
  by_cases installs : ∃ nodeId deviceId, after = before.installL2capSession nodeId deviceId
  · exact Or.inr installs
  · refine Or.inl ⟨(settings_change change).2.resolve_right installs, ?_⟩
    obtain ⟨effects, outbox, sources⟩ := effects_change change
    have others : ∀ effect ∈ effects, isRegistration effect = false := by
      intro effect member
      cases sources effect member with
      | quiet quiet => exact isRegistration_of_quiet quiet
      | spawn channelId deviceId nodeId registers =>
          exact absurd ⟨nodeId, deviceId, registers⟩ installs
      | closed channelId announced =>
          obtain ⟨otherNode, session, rfl⟩ := observed_of_mem_closeAnnouncement announced
          rfl
      | faulted deviceId cause event fault =>
          obtain ⟨otherNode, endpoint, rfl⟩ := faulted_of_mem_disconnectFaults fault
          rfl
      | _ => rfl
    rw [outbox, registrations_append, registrations_eq_zero others]
    rfl

/-- With `earlier` channels registered before the turn, the id of the next one counts them and the
ones of the turn, up to the last id there is. -/
def ChannelsNumbered (earlier : Nat) (task : BleRuntimeTask δ) : Prop :=
  task.nextChannelId = min (earlier + registrations task.outbox + 1) u64Max

theorem ChannelsNumbered.change {earlier : Nat} (numbered : ChannelsNumbered earlier before)
    (change : Change start turn before after) : ChannelsNumbered earlier after := by
  unfold ChannelsNumbered at numbered ⊢
  rcases registrations_change change with ⟨next, same⟩ | ⟨nodeId, deviceId, rfl⟩
  · rw [next, same, numbered]
  · rw [registrations_installL2capSession]
    show min (before.nextChannelId + 1) u64Max = _
    rw [numbered]
    omega

/-! ## Sessions and the channels they prefer -/

theorem WellFormedSessions.change (formed : WellFormedSessions before)
    (change : Change start turn before after) : WellFormedSessions after := by
  intro nodeId updated known
  cases entryUpdate_change change known with
  | kept old => exact formed nodeId updated old
  | freshCentral deviceId resolved => exact wellFormed_gattWithFallback
  | central deviceId resolved old => exact (formed nodeId _ old).installGattCentral
  | freshChannel deviceId resolved registers => exact wellFormed_l2capPreferred
  | channel deviceId resolved registers old => exact WellFormed.promoteL2cap
  | closed channelId old => exact (formed nodeId _ old).downgradeL2cap
  | freshSubscriber deviceId resolved => exact wellFormed_gattNotifyFanout
  | subscribed deviceId resolved old => exact (formed nodeId _ old).installGattSubscription
  | unsubscribed deviceId old => exact (formed nodeId _ old).removeGattSubscription

theorem prefersL2cap_change (formed : WellFormedSessions before)
    (change : Change start turn before after)
    (prefers : PrefersL2cap after nodeId deviceId channelId) :
    PrefersL2cap before nodeId deviceId channelId ∨
      (channelId = ⟨before.nextChannelId⟩ ∧
        after = before.installL2capSession nodeId deviceId) := by
  obtain ⟨updated, known, preferred⟩ := prefers
  cases entryUpdate_change change known with
  | kept known => exact Or.inl ⟨updated, known, preferred⟩
  | freshCentral other resolved => cases preferred
  | central other resolved old =>
      rename_i sessions
      rcases preferredEgress_installGattCentral sessions (.gattCentral other) with
        central | ⟨session, fallback, state, kept⟩
      · rw [central] at preferred
        cases preferred
      · refine Or.inl ⟨sessions, old, ?_⟩
        rw [← preferred, kept]
        simp [PeerSessions.preferredEgress, state]
  | freshChannel other resolved registers =>
      cases preferred
      exact Or.inr ⟨rfl, registers⟩
  | channel other resolved registers old =>
      cases preferred
      exact Or.inr ⟨rfl, registers⟩
  | closed closed old =>
      rename_i sessions
      rcases preferredEgress_downgradeL2cap (formed nodeId sessions old) preferred with
        ⟨-, kept⟩
      exact Or.inl ⟨sessions, old, kept⟩
  | freshSubscriber other resolved => cases preferred
  | subscribed other resolved old => exact Or.inl ⟨_, old, preferred⟩
  | unsubscribed other old => exact Or.inl ⟨_, old, preferred⟩

theorem ChannelIds.change (ids : ChannelIds before) (change : Change start turn before after) :
    ChannelIds after := by
  have formed := ids.formed.change change
  by_cases registers : ∃ nodeId deviceId, after = before.installL2capSession nodeId deviceId
  · obtain ⟨nodeId, deviceId, rfl⟩ := registers
    exact ids.installL2capSession formed
  · -- No change but a registration prefers or registers a channel that was not before.
    have next : after.nextChannelId = before.nextChannelId := by
      rcases registrations_change change with ⟨next, -⟩ | registered
      · exact next
      · exact absurd registered registers
    have prefers (nodeId : NodeId) (deviceId : DeviceId) (channelId : BleChannelId)
        (now : PrefersL2cap after nodeId deviceId channelId) :
        PrefersL2cap before nodeId deviceId channelId := by
      rcases prefersL2cap_change ids.formed change now with old | ⟨-, registered⟩
      · exact old
      · exact absurd ⟨nodeId, deviceId, registered⟩ registers
    have registered (channelId : BleChannelId) (channel : ActiveL2capChannel)
        (now : after.l2capChannels[channelId]? = some channel) :
        before.l2capChannels[channelId]? = some channel := by
      rcases l2capChannels_change change now with old | ⟨-, -, registered⟩
      · exact old
      · exact absurd ⟨_, _, registered⟩ registers
    have assigned (channelId : BleChannelId) (old : Assigned before channelId) :
        Assigned after channelId := by
      unfold Assigned
      rwa [next]
    refine ⟨formed, by rw [next]; exact ids.bounded, ?_, ?_, ?_, ?_⟩
    · intro channelId channel now
      exact assigned channelId (ids.registered channelId channel (registered _ _ now))
    · intro nodeId deviceId channelId now
      exact assigned channelId (ids.preferred nodeId deviceId channelId (prefers _ _ _ now))
    · intro nodeId deviceId channelId channel now entry
      exact ids.own nodeId deviceId channelId channel (prefers _ _ _ now) (registered _ _ entry)
    · intro older newer channel deviceId entry now
      exact ids.latest older newer channel deviceId (registered _ _ entry) (prefers _ _ _ now)

theorem ChannelIds.step {task : BleRuntimeTask δ} (ids : ChannelIds task) :
    ChannelIds (task.step turn) :=
  step_induction task turn ids.of_outbox fun _ _ change ids => ids.change change

theorem channelIds_new {targetOs : TargetOs} {localNodeId : NodeId} {config : BleConfig}
    {restoredState : BleRestoredState} {initial : BleRuntimeTask δ}
    (created : BleRuntimeTask.new targetOs localNodeId config restoredState = .ok initial) :
    ChannelIds initial := by
  obtain rfl := eq_launch_of_new created
  have first : 1 ≤ u64Max := by decide
  refine ⟨?_, first, ?_, ?_, ?_, ?_⟩
  · intro nodeId sessions known
    simp [BleRuntimeTask.launch] at known
  · intro channelId channel registered
    simp [BleRuntimeTask.launch] at registered
  · rintro nodeId deviceId channelId ⟨sessions, known, -⟩
    simp [BleRuntimeTask.launch] at known
  · rintro nodeId deviceId channelId channel ⟨sessions, known, -⟩
    simp [BleRuntimeTask.launch] at known
  · intro older newer channel deviceId registered
    simp [BleRuntimeTask.launch] at registered

/-! ## Live channels over one turn -/

/-- A disconnect of a device resolved to a node whose session prefers L2CAP takes that session
away too. -/
def TakesL2capAlong (task : BleRuntimeTask δ) (turn : Turn) : Prop :=
  ∀ (deviceId : DeviceId) (cause : DisconnectCause) (nodeId : NodeId) (sessions : PeerSessions)
    (held : DeviceId) (channelId : BleChannelId),
    turn.event = .central (.deviceDisconnected deviceId cause) →
      task.resolvedNodeIdForDevice deviceId = some nodeId →
        task.sessions[nodeId]? = some sessions →
          sessions.preferredEgress = some (.l2cap held channelId) →
            sessions.referencesDevice deviceId = true

theorem LiveL2cap.change (live : LiveL2cap before) (ids : ChannelIds before)
    (allowed : TakesL2capAlong start turn) (change : Change start turn before after)
    (bounded : registrations after.outbox ≠ registrations before.outbox →
      before.nextChannelId < u64Max) : LiveL2cap after := by
  intro nodeId deviceId channelId prefers
  rcases prefersL2cap_change ids.formed change prefers with old | ⟨rfl, rfl⟩
  · have registered := live nodeId deviceId channelId old
    rcases l2capChannels_kept change registered with
      kept | rfl | ⟨rfl, other, otherDevice, rfl⟩ | ⟨lost, cause, event, first, rfl, resolved⟩
    · exact kept
    · -- Closing the channel leaves no session that prefers it.
      obtain ⟨updated, known, preferred⟩ := prefers
      rw [sessions_handleL2capChannelClosed, registered, Option.map_some, if_pos rfl] at known
      obtain ⟨sessions, held, rfl⟩ := Option.map_eq_some_iff.mp known
      exact absurd rfl (preferredEgress_downgradeL2cap (ids.formed nodeId sessions held) preferred).1
    · -- An id that is given out is above every registered one.
      have fresh : before.nextChannelId < u64Max := by
        apply bounded
        rw [registrations_installL2capSession]
        exact Nat.succ_ne_self _
      have used := ids.registered _ _ registered
      unfold Assigned at used
      dsimp only at used
      omega
    · -- The disconnect takes the session along.
      subst first
      obtain ⟨updated, known, preferred⟩ := prefers
      rw [(handleDeviceDisconnected_eq before lost cause).sessions] at known
      obtain ⟨known, unreferenced⟩ := (EntryMap.getElem?_filter_eq_some ..).mp known
      have referenced := allowed lost cause nodeId updated deviceId channelId event resolved known
        preferred
      simp [referenced] at unreferenced
  · rw [l2capChannels_installL2capSession, if_pos rfl]

/-! ## Whole runs -/

/-- With `earlier` channels registered before the turn, the id of the next one counts them and the
ones of the turn. -/
def ChannelsCounted (earlier : Nat) (task : BleRuntimeTask δ) : Prop :=
  earlier + registrations task.outbox < u64Max →
    LiveL2cap task ∧ task.nextChannelId = earlier + registrations task.outbox + 1

theorem ChannelsCounted.change {earlier : Nat} (counted : ChannelsCounted earlier before)
    (ids : ChannelIds before) (allowed : TakesL2capAlong start turn)
    (change : Change start turn before after) :
    ChannelsCounted earlier after := by
  intro bounded
  rcases registrations_change change with ⟨next, same⟩ | ⟨nodeId, deviceId, registered⟩
  · rw [same] at bounded
    obtain ⟨live, numbered⟩ := counted bounded
    refine ⟨live.change ids allowed change (absurd same), ?_⟩
    rw [next, same, numbered]
  · have grown : registrations after.outbox = registrations before.outbox + 1 := by
      rw [registered, registrations_installL2capSession]
    obtain ⟨live, next⟩ := counted (by omega)
    refine ⟨live.change ids allowed change fun _ => by omega, ?_⟩
    have numbered : ChannelsNumbered earlier before := by
      unfold ChannelsNumbered
      omega
    have numbered' := numbered.change change
    unfold ChannelsNumbered at numbered'
    omega

theorem ChannelsCounted.step {earlier : Nat} {task : BleRuntimeTask δ}
    (counted : LiveL2cap task ∧ task.nextChannelId = earlier + 1) (ids : ChannelIds task)
    (allowed : TakesL2capAlong task turn) : ChannelsCounted earlier (task.step turn) := by
  have cleared : TakesL2capAlong { task with outbox := [] } turn := allowed
  have both := step_induction (P := fun task => ChannelIds task ∧ ChannelsCounted earlier task) task
    turn ⟨ids.of_outbox, fun _ => counted⟩ (by
      rintro before after change ⟨ids, counted⟩
      exact ⟨ids.change change, counted.change ids cleared change⟩)
  exact both.2

variable {targetOs : TargetOs} {localNodeId : NodeId} {config : BleConfig}
  {restoredState : BleRestoredState} {initial : BleRuntimeTask δ}

theorem channelIds_run
    (created : BleRuntimeTask.new targetOs localNodeId config restoredState = .ok initial)
    (turns : List Turn) : ChannelIds (exec BleRuntimeTask.step initial turns) := by
  induction turns using List.reverseRecOn with
  | nil => exact channelIds_new created
  | append_singleton before turn ih =>
      rw [exec_snoc]
      exact ih.step

theorem nextChannelId_run
    (created : BleRuntimeTask.new targetOs localNodeId config restoredState = .ok initial)
    (turns : List Turn) : (exec BleRuntimeTask.step initial turns).nextChannelId =
      min (registrations (trace BleRuntimeTask.step BleRuntimeTask.outbox initial turns) + 1)
        u64Max := by
  induction turns using List.reverseRecOn with
  | nil =>
      obtain rfl := eq_launch_of_new created
      rfl
  | append_singleton before turn ih =>
      rw [exec_snoc, trace_snoc, registrations_append]
      apply step_induction (P := ChannelsNumbered _) _ turn
      · exact ih
      · intro earlier later change numbered
        exact numbered.change change

theorem liveL2cap_run
    (created : BleRuntimeTask.new targetOs localNodeId config restoredState = .ok initial)
    {turns : List Turn} (meets : Meets BleRuntimeTask.step TakesL2capAlong initial turns)
    (bounded : registrations (trace BleRuntimeTask.step BleRuntimeTask.outbox initial turns) <
      u64Max) : LiveL2cap (exec BleRuntimeTask.step initial turns) := by
  have launched : LiveL2cap initial ∧ initial.nextChannelId = 1 := by
    obtain rfl := eq_launch_of_new created
    refine ⟨?_, rfl⟩
    rintro nodeId deviceId channelId ⟨sessions, known, -⟩
    simp [BleRuntimeTask.launch] at known
  have counted := meets_induction (P := fun turns =>
    registrations (trace BleRuntimeTask.step BleRuntimeTask.outbox initial turns) < u64Max →
      LiveL2cap (exec BleRuntimeTask.step initial turns) ∧
        (exec BleRuntimeTask.step initial turns).nextChannelId =
          registrations (trace BleRuntimeTask.step BleRuntimeTask.outbox initial turns) + 1)
    (fun _ => launched)
    (by
      intro before turn earlier allowed
      rw [trace_snoc, registrations_append, exec_snoc]
      intro bounded
      exact ChannelsCounted.step (earlier (by omega)) (channelIds_run created before) allowed bounded)
    meets
  exact (counted bounded).1

theorem takesL2capAlong_of_live {task : BleRuntimeTask δ}
    (liveAfter : LiveL2cap (task.step turn)) : TakesL2capAlong task turn := by
  intro deviceId cause nodeId sessions held channelId event resolved known preferred
  by_contra unreferenced
  have disconnected := handleDeviceDisconnected_eq { task with outbox := [] } deviceId cause
  have after : task.step turn = _ := step_deviceDisconnected event
  have kept : (task.step turn).sessions[nodeId]? = some sessions := by
    rw [after, disconnected.sessions]
    exact (EntryMap.getElem?_filter_eq_some ..).mpr ⟨known, by simpa using unreferenced⟩
  have registered := liveAfter nodeId held channelId ⟨sessions, kept, preferred⟩
  rw [after, disconnected.l2capChannels] at registered
  have resolved' : BleRuntimeTask.resolvedNodeIdForDevice { task with outbox := [] } deviceId =
      some nodeId := resolved
  simp only [resolved'] at registered
  have elsewhere := ((EntryMap.getElem?_filter_eq_some ..).mp registered).2
  simp at elsewhere

/-- In a run that registers fewer than `2^64 - 1` channels, every L2CAP session names a live channel
of its own in every state reached, exactly when no disconnect drops the channels of a node whose
L2CAP session it leaves in place. -/
theorem liveL2cap_iff_takesL2capAlong
    (created : BleRuntimeTask.new targetOs localNodeId config restoredState = .ok initial)
    (turns : List Turn)
    (bounded : registrations (trace BleRuntimeTask.step BleRuntimeTask.outbox initial turns) <
      u64Max) :
    Meets BleRuntimeTask.step TakesL2capAlong initial turns ↔
      ∀ before, before <+: turns → LiveL2cap (exec BleRuntimeTask.step initial before) := by
  have prefixBounded (before : List Turn) (initially : before <+: turns) :
      registrations (trace BleRuntimeTask.step BleRuntimeTask.outbox initial before) < u64Max := by
    obtain ⟨after, rfl⟩ := initially
    rw [trace_append, registrations_append] at bounded
    omega
  constructor
  · intro meets before initially
    exact liveL2cap_run created (meets.of_prefix initially) (prefixBounded before initially)
  · intro live
    clear bounded prefixBounded
    induction turns using List.reverseRecOn with
    | nil => trivial
    | append_singleton before turn ih =>
        have liveAfter := live _ List.prefix_rfl
        rw [exec_snoc] at liveAfter
        refine meets_snoc.mpr ⟨ih fun earlier initially =>
          live earlier (initially.trans (List.prefix_append before [turn])), ?_⟩
        exact takesL2capAlong_of_live liveAfter

end

/-! Two devices of one node, one of them with the L2CAP channel. When that one disconnects its session
goes with the channel; when the one without disconnects while it is resolved, the session stays. -/

section
open Scenario

theorem liveL2cap_rotation :
    LiveL2cap (reached .other addressRotation) ∧
      LiveL2cap (reached .other (addressRotation ++ [disconnect ⟨"new"⟩])) := by
  have connecting : Meets BleRuntimeTask.step TakesL2capAlong (launched .other) addressRotation := by
    refine ⟨?_, ?_, ?_, ?_, trivial⟩ <;> rintro _ _ _ _ _ _ ⟨⟩
  have leaving : TakesL2capAlong (reached .other addressRotation) (disconnect ⟨"new"⟩) := by
    rintro _ _ nodeId sessions held channelId ⟨⟩ resolved known preferred
    have resolvedNode : (reached .other addressRotation).resolvedNodeIdForDevice ⟨"new"⟩ =
        some (node 2) := by decide +kernel
    rw [resolvedNode] at resolved
    cases resolved
    have session : (reached .other addressRotation).sessions[node 2]? =
        some (.l2capPreferred (.l2cap ⟨"new"⟩ ⟨1⟩) (some (.gattCentral ⟨"new"⟩))) := by
      decide +kernel
    rw [session] at known
    cases known
    rfl
  have live := (liveL2cap_iff_takesL2capAlong (new_launched .other)
    (addressRotation ++ [disconnect ⟨"new"⟩]) (by decide +kernel)).mp
    (meets_snoc.mpr ⟨connecting, leaving⟩)
  exact ⟨live addressRotation (List.prefix_append ..), live _ List.prefix_rfl⟩

theorem l2cap_session_without_channel :
    RunOf [] leftBehind ∧
      (reachedFinite leftBehind).sessions[node 2]? =
        some (.l2capPreferred (.l2cap ⟨"new"⟩ ⟨1⟩) (some (.gattCentral ⟨"new"⟩))) ∧
      (reachedFinite leftBehind).l2capChannels[BleChannelId.mk 1]? = none ∧
      ¬ LiveL2cap (reachedFinite leftBehind) ∧ ¬ LiveL2cap (reached .other leftBehind) := by
  have kept : (reachedFinite leftBehind).sessions[node 2]? =
      some (.l2capPreferred (.l2cap ⟨"new"⟩ ⟨1⟩) (some (.gattCentral ⟨"new"⟩))) := by
    decide +kernel
  have dropped : (reachedFinite leftBehind).l2capChannels[BleChannelId.mk 1]? = none := by
    decide +kernel
  refine ⟨runOf_looped leftBehind rfl, kept, dropped, ?_, ?_⟩
  · intro live
    have registered := live _ ⟨"new"⟩ ⟨1⟩ ⟨_, kept, rfl⟩
    rw [dropped] at registered
    cases registered
  · -- A directory that forgets the first address makes no difference.
    have kept : (reached .other leftBehind).sessions[node 2]? =
        some (.l2capPreferred (.l2cap ⟨"new"⟩ ⟨1⟩) (some (.gattCentral ⟨"new"⟩))) := by
      decide +kernel
    have dropped : (reached .other leftBehind).l2capChannels[BleChannelId.mk 1]? = none := by
      decide +kernel
    intro live
    have registered := live _ ⟨"new"⟩ ⟨1⟩ ⟨_, kept, rfl⟩
    rw [dropped] at registered
    cases registered

end

end JqBle.Proof.LinkProfile
