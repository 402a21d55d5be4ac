import JqBle.Proof.LinkProfile.Channels

/-!
# Closing a channel

Closures are reported by both tasks of a channel and found by dispatch, and a superseded channel
stays registered beside the one that replaced it. An id is given out once, so a late report finds
nothing to close.
-/

namespace JqBle.Proof.LinkProfile
open Std Host Library Execution JqBle.LinkProfile

def eventChannel : L2capRuntimeEvent → BleChannelId
  | .frameReceived channelId _ | .channelClosed channelId => channelId

variable {δ : Type} {task : BleRuntimeTask δ} {nodeId : NodeId} {deviceId : DeviceId}
  {channelId : BleChannelId}

/-! ## Ids that are given out -/

/-- With `earlier` channels registered before the turn, no id of the turn is beyond their number. -/
def SpawnedWithin (earlier : Nat) (task : BleRuntimeTask δ) : Prop :=
  ∀ channelId : BleChannelId, Effect.spawnL2capChannelTasks channelId ∈ task.outbox →
    channelId.value ≤ earlier + registrations task.outbox

/-- The channel had its id and is no longer registered. -/
def Retired (channelId : BleChannelId) (task : BleRuntimeTask δ) : Prop :=
  channelId.value < task.nextChannelId ∧ task.l2capChannels[channelId]? = none

/-! ## One closure -/

theorem sessions_channelClosed_of_current (ids : ChannelIds task)
    (used : channelId.value < task.nextChannelId)
    (prefers : PrefersL2cap task nodeId deviceId channelId)
    (registered : task.l2capChannels[channelId]?.isSome) :
    ∃ fallback subscribers,
      task.sessions[nodeId]? =
        some ⟨.l2capPreferred (.l2cap deviceId channelId) fallback, subscribers⟩ ∧
      (task.handleL2capChannelClosed channelId).sessions[nodeId]? =
        some ⟨fallback.elim .disconnected fun session => .gattOnly session session, subscribers⟩ := by
  obtain ⟨channel, entry⟩ := Option.isSome_iff_exists.mp registered
  have bounded := ids.bounded
  -- An id before the last one belongs to the node it was registered for.
  have owner : channel.nodeId = nodeId := by
    rcases ids.own nodeId deviceId channelId channel prefers entry with same | last
    · exact same
    · omega
  obtain ⟨sessions, known, preferred⟩ := prefers
  obtain ⟨fallback, state⟩ :=
    preferredEgress_eq_some_l2cap (ids.formed nodeId sessions known) preferred
  obtain ⟨_, subscribers⟩ := sessions
  obtain rfl := state
  refine ⟨fallback, subscribers, known, ?_⟩
  rw [sessions_handleL2capChannelClosed, entry, Option.map_some, owner, if_pos rfl, known,
    Option.map_some]
  cases fallback <;> simp [PeerSessions.downgradeL2cap]

theorem retired_channelClosed (task : BleRuntimeTask δ)
    (used : channelId.value < task.nextChannelId) :
    Retired channelId (task.handleL2capChannelClosed channelId) := by
  constructor
  · rcases handleL2capChannelClosed_cases task channelId with ⟨-, same⟩ | ⟨_, -, -, -, -, next, -⟩
    · rwa [same]
    · rwa [next]
  · rw [l2capChannels_handleL2capChannelClosed, if_pos rfl]

section
variable [PeerDirectory δ BlePeerKey DiscoveredPeerHint]
variable {start before after : BleRuntimeTask δ} {turn : Turn}

/-! ## Ids over one turn -/

theorem SpawnedWithin.change {earlier : Nat} (within : SpawnedWithin earlier before)
    (numbered : ChannelsNumbered earlier before) (change : Change start turn before after) :
    SpawnedWithin earlier after := by
  intro channelId spawned
  rcases registrations_change change with ⟨-, same⟩ | ⟨otherNode, otherDevice, rfl⟩
  · obtain ⟨effects, outbox, -⟩ := effects_change change
    rw [outbox] at spawned
    rcases List.mem_append.mp spawned with old | new
    · rw [same]
      exact within channelId old
    · rw [outbox, registrations_append] at same
      have none : registrations effects = 0 := by omega
      have other := List.countP_eq_zero.mp none _ new
      simp [isRegistration] at other
  · rw [registrations_installL2capSession]
    rw [outbox_installL2capSession] at spawned
    rcases List.mem_append.mp spawned with old | new
    · have earlierId := within channelId old
      omega
    · obtain rfl : channelId = ⟨before.nextChannelId⟩ := by simpa using new
      unfold ChannelsNumbered at numbered
      dsimp only
      omega

theorem Retired.change (retired : Retired channelId before) (ids : ChannelIds before)
    (change : Change start turn before after) : Retired channelId after := by
  obtain ⟨used, unregistered⟩ := retired
  constructor
  · rcases registrations_change change with ⟨next, -⟩ | ⟨otherNode, otherDevice, rfl⟩
    · rwa [next]
    · have bounded := ids.bounded
      show channelId.value < min (before.nextChannelId + 1) u64Max
      omega
  · cases now : after.l2capChannels[channelId]? with
    | none => rfl
    | some channel =>
        -- Only a registration adds an entry, under an id that was still to come.
        rcases l2capChannels_change change now with old | ⟨rfl, -, -⟩
        · rw [unregistered] at old
          cases old
        · exact absurd used (Nat.lt_irrefl _)

theorem Retired.exec (retired : Retired channelId task) (ids : ChannelIds task)
    (turns : List Turn) : Retired channelId (exec BleRuntimeTask.step task turns) := by
  induction turns using List.reverseRecOn with
  | nil => exact retired
  | append_singleton before turn ih =>
      rw [exec_snoc]
      have idsBefore : ChannelIds (Execution.exec BleRuntimeTask.step task before) :=
        exec_always ids (fun _ _ ids => ids.step) before
      have both := step_induction (P := fun task => ChannelIds task ∧ Retired channelId task) _ turn
        ⟨idsBefore.of_outbox, ih⟩ (by
          rintro earlier later change ⟨ids, retired⟩
          exact ⟨ids.change change, retired.change ids change⟩)
      exact both.2

/-! ## Events of an unregistered channel -/

theorem step_l2cap (task : BleRuntimeTask δ) (event : L2capRuntimeEvent) (backend : Backend) :
    task.step ⟨.l2cap event, backend⟩ =
      BleRuntimeTask.handleL2capRuntimeEvent { task with outbox := [] } event := rfl

theorem step_l2cap_of_unregistered {event : L2capRuntimeEvent}
    (unregistered : task.l2capChannels[eventChannel event]? = none)
    (backend : Backend) : task.step ⟨.l2cap event, backend⟩ = { task with outbox := [] } := by
  rw [step_l2cap]
  cases event with
  | frameReceived channelId payload =>
      simp only [eventChannel] at unregistered
      simp [BleRuntimeTask.handleL2capRuntimeEvent, unregistered]
  | channelClosed channelId =>
      simp only [eventChannel] at unregistered
      simp [BleRuntimeTask.handleL2capRuntimeEvent, BleRuntimeTask.handleL2capChannelClosed,
        unregistered]

/-! ## Closures of a run -/

variable {targetOs : TargetOs} {localNodeId : NodeId} {config : BleConfig}
  {restoredState : BleRestoredState} {initial : BleRuntimeTask δ}

theorem spawned_run
    (created : BleRuntimeTask.new targetOs localNodeId config restoredState = .ok initial)
    {turns : List Turn} (allocated : Effect.spawnL2capChannelTasks channelId ∈
      trace BleRuntimeTask.step BleRuntimeTask.outbox initial turns) :
    channelId.value ≤
      registrations (trace BleRuntimeTask.step BleRuntimeTask.outbox initial turns) := by
  induction turns using List.reverseRecOn with
  | nil => cases allocated
  | append_singleton before turn ih =>
      rw [trace_snoc] at allocated ⊢
      rw [registrations_append]
      rcases List.mem_append.mp allocated with old | new
      · exact Nat.le_add_right_of_le (ih old)
      · have both := step_induction
          (P := fun task : BleRuntimeTask δ =>
            ChannelsNumbered (registrations
              (trace BleRuntimeTask.step BleRuntimeTask.outbox initial before)) task ∧
            SpawnedWithin (registrations
              (trace BleRuntimeTask.step BleRuntimeTask.outbox initial before)) task)
          (Execution.exec BleRuntimeTask.step initial before) turn
          ⟨nextChannelId_run created before, fun _ none => nomatch none⟩
          (by
            rintro earlier later change ⟨numbered, within⟩
            exact ⟨numbered.change change, within.change numbered change⟩)
        exact both.2 channelId new

/-- What the closure of a channel does and what every later event of it does. -/
structure ClosesPrecisely (channelId : BleChannelId) (task closed : BleRuntimeTask δ) : Prop where
  others : ∀ nodeId : NodeId, (∀ deviceId, ¬ PrefersL2cap task nodeId deviceId channelId) →
    closed.sessions[nodeId]? = task.sessions[nodeId]?
  current : ∀ nodeId deviceId, PrefersL2cap task nodeId deviceId channelId →
    task.l2capChannels[channelId]?.isSome →
      ∃ fallback subscribers,
        task.sessions[nodeId]? =
          some ⟨.l2capPreferred (.l2cap deviceId channelId) fallback, subscribers⟩ ∧
        closed.sessions[nodeId]? =
          some ⟨fallback.elim .disconnected fun session => .gattOnly session session, subscribers⟩
  stale : ∀ (later : List Turn) (event : L2capRuntimeEvent) (backend : Backend),
    eventChannel event = channelId →
      (exec BleRuntimeTask.step closed later).step ⟨.l2cap event, backend⟩ =
        { exec BleRuntimeTask.step closed later with outbox := [] }

/-- The closure of a channel that was given out turns the one session that prefers it into its
fallback and touches no other, and no event of the channel does anything ever after. -/
theorem channelClosed_is_precise_and_idempotent
    (created : BleRuntimeTask.new targetOs localNodeId config restoredState = .ok initial)
    (turns : List Turn) (channelId : BleChannelId) (backend : Backend)
    (allocated : Effect.spawnL2capChannelTasks channelId ∈
      trace BleRuntimeTask.step BleRuntimeTask.outbox initial turns)
    (bounded : registrations (trace BleRuntimeTask.step BleRuntimeTask.outbox initial turns) <
      u64Max) :
    ClosesPrecisely channelId (exec BleRuntimeTask.step initial turns)
      ((exec BleRuntimeTask.step initial turns).step
        ⟨.l2cap (.channelClosed channelId), backend⟩) := by
  have ids := channelIds_run created turns
  have used : channelId.value < (exec BleRuntimeTask.step initial turns).nextChannelId := by
    have given := spawned_run created allocated
    rw [nextChannelId_run created]
    omega
  rw [step_l2cap]
  constructor
  · intro nodeId other
    exact sessions_channelClosed_of_other other
  · intro nodeId deviceId prefers registered
    exact sessions_channelClosed_of_current ids.of_outbox used prefers registered
  · rintro later event backend rfl
    have closedIds : ChannelIds ((exec BleRuntimeTask.step initial turns).step
        ⟨.l2cap (.channelClosed (eventChannel event)), backend⟩) := ids.step
    have retired := (retired_channelClosed
      { exec BleRuntimeTask.step initial turns with outbox := [] } used).exec closedIds later
    exact step_l2cap_of_unregistered retired.2 backend

end

section
open Scenario

theorem channelClosed_rotation :
    ClosesPrecisely ⟨1⟩ (reached .other addressRotation)
      ((reached .other addressRotation).step ⟨.l2cap (.channelClosed ⟨1⟩), silent⟩) :=
  channelClosed_is_precise_and_idempotent (new_launched .other) addressRotation ⟨1⟩ silent
    (by decide +kernel) (by decide +kernel)

end

end JqBle.Proof.LinkProfile
