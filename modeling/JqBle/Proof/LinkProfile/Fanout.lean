import JqBle.Proof.LinkProfile.Attribution

/-!
# The subscribers of the notify fanout

The runtime records a subscriber with the sessions of the node its device is resolved to. Only
subscription events and disconnects change the record. On Linux one notification reaches every
subscribed central, and the record is all that the receivers are checked against.
-/

namespace JqBle.Proof.LinkProfile
open Std Host Library Execution JqBle.LinkProfile

variable {δ : Type}

def subscribersOf (task : BleRuntimeTask δ) (nodeId : NodeId) : List BleNotifySubscriber :=
  (task.sessions[nodeId]?.map PeerSessions.notifySubscribers).getD []

theorem subscribersOf_of_known {task : BleRuntimeTask δ} {nodeId : NodeId} {sessions : PeerSessions}
    (known : task.sessions[nodeId]? = some sessions) :
    subscribersOf task nodeId = sessions.notifySubscribers := by
  simp [subscribersOf, known]

theorem known_of_subscribersOf_ne_nil {task : BleRuntimeTask δ} {nodeId : NodeId}
    (subscribed : subscribersOf task nodeId ≠ []) :
    ∃ sessions, task.sessions[nodeId]? = some sessions ∧ sessions.notifySubscribers ≠ [] := by
  unfold subscribersOf at subscribed
  cases known : task.sessions[nodeId]? with
  | none => simp [known] at subscribed
  | some sessions => exact ⟨sessions, rfl, by simpa [known] using subscribed⟩

theorem subscribersOf_of_sessions {before after : BleRuntimeTask δ}
    (sessions : after.sessions = before.sessions) (nodeId : NodeId) :
    subscribersOf after nodeId = subscribersOf before nodeId := by
  unfold subscribersOf
  rw [sessions]

theorem mem_allSubscribers {task : BleRuntimeTask δ} {nodeId : NodeId} :
    nodeId ∈ allSubscribers task.sessions ↔ subscribersOf task nodeId ≠ [] := by
  unfold allSubscribers
  rw [List.mem_filterMap]
  constructor
  · rintro ⟨⟨key, sessions⟩, member, image⟩
    obtain ⟨deviceId, found, rfl⟩ := Option.map_eq_some_iff.mp image
    rw [subscribersOf_of_known (ExtTreeMap.mem_toList_iff_getElem?_eq_some.mp member)]
    exact notifySubscriberDeviceId_isSome.mp (Option.isSome_of_eq_some found)
  · intro subscribed
    obtain ⟨sessions, known, nonempty⟩ := known_of_subscribersOf_ne_nil subscribed
    obtain ⟨deviceId, found⟩ := Option.isSome_iff_exists.mp
      (notifySubscriberDeviceId_isSome.mpr nonempty)
    exact ⟨(nodeId, sessions), ExtTreeMap.mem_toList_iff_getElem?_eq_some.mpr known, by simp [found]⟩

theorem mem_receivers_iff {task : BleRuntimeTask δ} {receivers : List NodeId}
    {deviceIds notified : List DeviceId}
    (targets : platformNotifyDeviceIds .linux task.sessions receivers deviceIds = some notified)
    (nodeId : NodeId) : nodeId ∈ receivers ↔ subscribersOf task nodeId ≠ [] := by
  unfold platformNotifyDeviceIds at targets
  split_ifs at targets with equal
  rw [Bool.and_eq_true] at equal
  constructor
  · intro member
    have subscribed := List.all_eq_true.mp equal.1 nodeId member
    exact mem_allSubscribers.mp (by simpa using subscribed)
  · intro subscribed
    have covered := List.all_eq_true.mp equal.2 nodeId (mem_allSubscribers.mpr subscribed)
    simpa using covered

section
variable [PeerDirectory δ BlePeerKey DiscoveredPeerHint]
  {start before after task : BleRuntimeTask δ} {turn : Turn} {deviceId : DeviceId}

/-! ## What changes the record -/

def subscriptionEvent (deviceId : DeviceId) (subscribed : Bool) : RuntimeEvent :=
  .peripheralState (.subscriptionChanged deviceId jacquardP2cCharUuid subscribed)

theorem subscribersOf_subscription (deviceId : DeviceId) (nodeId : NodeId) :
    subscribersOf (task.handleP2cSubscription deviceId) nodeId =
      if task.resolvedNodeIdForDevice deviceId = some nodeId then
        PeerSessions.installSubscriber ⟨deviceId⟩ (subscribersOf task nodeId)
      else subscribersOf task nodeId := by
  rcases handleP2cSubscription_cases task deviceId with ⟨unresolved, same⟩ | ⟨other, resolved, equal⟩
  · simp [same, unresolved]
  · unfold subscribersOf
    rw [equal]
    simp only [EntryMap.getElem?_modifyOrInsert, resolved, Option.some.injEq]
    by_cases same : nodeId = other
    · subst same
      rw [if_pos rfl, if_pos rfl]
      cases task.sessions[nodeId]? <;> rfl
    · rw [if_neg same, if_neg (Ne.symm same)]

theorem subscribersOf_unsubscription (deviceId : DeviceId) (nodeId : NodeId) :
    subscribersOf (task.handleP2cUnsubscription deviceId) nodeId =
      if task.resolvedNodeIdForDevice deviceId = some nodeId then
        (subscribersOf task nodeId).filter fun subscriber => subscriber.deviceId ≠ deviceId
      else subscribersOf task nodeId := by
  rcases handleP2cUnsubscription_cases task deviceId with
    ⟨unknown, same⟩ | ⟨other, sessions, resolved, known, equal⟩
  · rw [same]
    split_ifs with resolved
    · simp [subscribersOf, unknown nodeId resolved]
    · rfl
  · unfold subscribersOf
    rw [equal]
    simp only [EntryMap.getElem?_insert, resolved, Option.some.injEq]
    by_cases same : nodeId = other
    · subst same
      rw [if_pos rfl, if_pos rfl, known]
      rfl
    · rw [if_neg same, if_neg (Ne.symm same)]

theorem subscribersOf_disconnect (deviceId : DeviceId) (cause : DisconnectCause) (nodeId : NodeId) :
    subscribersOf (task.handleDeviceDisconnected deviceId cause) nodeId =
      ((task.sessions[nodeId]?.filter fun sessions => !sessions.referencesDevice deviceId).map
        PeerSessions.notifySubscribers).getD [] := by
  unfold subscribersOf
  rw [(handleDeviceDisconnected_eq task deviceId cause).sessions, ExtTreeMap.getElem?_filter']

theorem subscribersOf_change (change : Change start turn before after) (nodeId : NodeId) :
    subscribersOf after nodeId = subscribersOf before nodeId ∨
      (∃ deviceId, turn.event = subscriptionEvent deviceId true ∧ before = start ∧
        after = before.handleP2cSubscription deviceId) ∨
      (∃ deviceId, turn.event = subscriptionEvent deviceId false ∧ before = start ∧
        after = before.handleP2cUnsubscription deviceId) ∨
      ∃ deviceId cause, turn.event = .central (.deviceDisconnected deviceId cause) ∧
        before = start ∧ after = before.handleDeviceDisconnected deviceId cause := by
  cases change with
  | quiet quiet => exact Or.inl (subscribersOf_of_sessions quiet.sessions nodeId)
  | hint other hint => exact Or.inl rfl
  | forget other hint hinted => exact Or.inl rfl
  | resolve other otherNode admits unchanged read => exact Or.inl rfl
  | installGatt deviceId otherNode admits resolved =>
      left
      change subscribersOf (before.installGattSession otherNode deviceId) nodeId = _
      unfold subscribersOf
      rw [sessions_installGattSession]
      split_ifs with same
      · subst same
        cases before.sessions[nodeId]? <;> simp [PeerSessions.gattWithFallback, PeerSessions.gattOnly]
      · rfl
  | installL2cap deviceId otherNode source resolved =>
      left
      unfold subscribersOf
      rw [sessions_installL2capSession]
      split_ifs with same
      · subst same
        cases before.sessions[nodeId]? <;> simp [PeerSessions.l2capPreferred]
      · rfl
  | payload deviceId otherNode endpoint value located attributed => exact Or.inl rfl
  | close channelId closes =>
      left
      unfold subscribersOf
      rw [sessions_handleL2capChannelClosed]
      split_ifs
      · cases before.sessions[nodeId]? <;> simp
      · rfl
  | notify deviceId payload receivers deviceIds notified subscribers targets target multicasts =>
      exact Or.inl rfl
  | subscribe deviceId event first =>
      exact Or.inr (Or.inl ⟨deviceId, event, first, rfl⟩)
  | unsubscribe deviceId event first =>
      exact Or.inr (Or.inr (Or.inl ⟨deviceId, event, first, rfl⟩))
  | disconnect deviceId cause event first =>
      exact Or.inr (Or.inr (Or.inr ⟨deviceId, cause, event, first, rfl⟩))

/-! ## Subscribed centrals and recorded ones -/

/-- The device has subscribed to notifications, and has not unsubscribed or disconnected since. -/
def Subscribed (deviceId : DeviceId) (turns : List Turn) : Prop :=
  Since (fun _ turn => turn.event = subscriptionEvent deviceId true)
    (fun turn => turn.event ≠ subscriptionEvent deviceId false ∧ ¬ Disconnects deviceId turn) turns

def Recorded (task : BleRuntimeTask δ) (deviceId : DeviceId) : Prop :=
  ∃ nodeId, ⟨deviceId⟩ ∈ subscribersOf task nodeId

/-- A device subscribes only while it is resolved, a device that disconnects is mentioned with no
subscriber but itself, and a multicast to the nodes that have subscribers finds each of these resolved
to one of the nodes. -/
structure RecordsSubscribers (task : BleRuntimeTask δ) (turn : Turn) : Prop where
  resolved : ∀ deviceId, turn.event = subscriptionEvent deviceId true →
    task.resolvedNodeIdForDevice deviceId ≠ none
  disconnected : ∀ deviceId, Disconnects deviceId turn → ∀ (nodeId : NodeId) (sessions : PeerSessions),
    task.sessions[nodeId]? = some sessions → sessions.referencesDevice deviceId = true →
      ∀ subscriber ∈ sessions.notifySubscribers, subscriber.deviceId = deviceId
  current : ∀ receivers, Multicasts turn receivers →
    (∀ nodeId, nodeId ∈ receivers ↔ subscribersOf task nodeId ≠ []) →
      ∀ nodeId, ∀ subscriber ∈ subscribersOf task nodeId, ∃ known ∈ receivers,
        task.resolvedNodeIdForDevice subscriber.deviceId = some known

theorem step_subscription (event : turn.event = subscriptionEvent deviceId true) :
    task.step turn = BleRuntimeTask.handleP2cSubscription { task with outbox := [] } deviceId := by
  simp [BleRuntimeTask.step, BleRuntimeTask.handle, event, subscriptionEvent,
    BleRuntimeTask.handlePeripheralStateEvent]

theorem step_unsubscription (event : turn.event = subscriptionEvent deviceId false) :
    task.step turn =
      BleRuntimeTask.handleP2cUnsubscription { task with outbox := [] } deviceId := by
  simp [BleRuntimeTask.step, BleRuntimeTask.handle, event, subscriptionEvent,
    BleRuntimeTask.handlePeripheralStateEvent]

theorem mem_subscribersOf_of_subscription {nodeId : NodeId}
    (event : turn.event = subscriptionEvent deviceId true)
    (resolved : task.resolvedNodeIdForDevice deviceId = some nodeId) :
    ⟨deviceId⟩ ∈ subscribersOf (task.step turn) nodeId := by
  have cleared : BleRuntimeTask.resolvedNodeIdForDevice { task with outbox := [] } deviceId =
    some nodeId := resolved
  rw [step_subscription event, subscribersOf_subscription, if_pos cleared]
  exact mem_installSubscriber.mpr (Or.inl rfl)

/-- A subscriber stays recorded until it unsubscribes or disconnects, or a device disconnects that the
entry references. -/
theorem mem_subscribersOf_step {nodeId : NodeId}
    (stays : turn.event ≠ subscriptionEvent deviceId false)
    (keeps : ∀ other, Disconnects other turn → ∀ sessions : PeerSessions,
      task.sessions[nodeId]? = some sessions → sessions.referencesDevice other = false)
    (recorded : ⟨deviceId⟩ ∈ subscribersOf task nodeId) :
    ⟨deviceId⟩ ∈ subscribersOf (task.step turn) nodeId := by
  refine step_induction (P := fun reached => ⟨deviceId⟩ ∈ subscribersOf reached nodeId) task turn
    recorded ?_
  intro before after change member
  rcases subscribersOf_change change nodeId with
    same | ⟨other, event, -, rfl⟩ | ⟨other, event, -, rfl⟩ | ⟨other, cause, event, rfl, rfl⟩
  · rwa [same]
  · rw [subscribersOf_subscription]
    split_ifs
    · exact mem_installSubscriber.mpr (Or.inr member)
    · exact member
  · rw [subscribersOf_unsubscription]
    split_ifs
    · have different : deviceId ≠ other := by
        rintro rfl
        exact stays event
      exact List.mem_filter.mpr ⟨member, by simpa using different⟩
    · exact member
  · obtain ⟨sessions, known, -⟩ := known_of_subscribersOf_ne_nil (List.ne_nil_of_mem member)
    rw [subscribersOf_of_known known] at member
    have kept := keeps other ⟨cause, event⟩ sessions known
    rw [subscribersOf_disconnect, known]
    simpa [Option.filter, kept] using member

theorem recorded_run {initial : BleRuntimeTask δ} {turns : List Turn}
    (records : Meets BleRuntimeTask.step RecordsSubscribers initial turns)
    (subscribed : Subscribed deviceId turns) :
    Recorded (exec BleRuntimeTask.step initial turns) deviceId := by
  induction turns using List.reverseRecOn with
  | nil => exact absurd subscribed not_since_nil
  | append_singleton before turn ih =>
      obtain ⟨earlier, last⟩ := meets_snoc.mp records
      rw [exec_snoc]
      rcases since_snoc.mp subscribed with now | ⟨already, stays, connected⟩
      · obtain ⟨nodeId, resolved⟩ := Option.ne_none_iff_exists'.mp (last.resolved deviceId now)
        exact ⟨nodeId, mem_subscribersOf_of_subscription now resolved⟩
      · obtain ⟨nodeId, member⟩ := ih earlier already
        refine ⟨nodeId, mem_subscribersOf_step stays ?_ member⟩
        intro other disconnects sessions known
        rw [← Bool.not_eq_true]
        intro references
        rw [subscribersOf_of_known known] at member
        obtain rfl := last.disconnected other disconnects nodeId sessions known references _ member
        exact connected disconnects

/-! ## Notifications -/

theorem targetOs_run (initial : BleRuntimeTask δ) (turns : List Turn) :
    (exec BleRuntimeTask.step initial turns).targetOs = initial.targetOs := by
  induction turns using List.reverseRecOn with
  | nil => rfl
  | append_singleton before turn ih =>
      rw [exec_snoc]
      refine step_induction (P := fun task => task.targetOs = initial.targetOs) _ turn ih ?_
      intro earlier later change same
      exact (settings_change change).1.trans same

/-- What a dispatch has notified so far was for multicasts to the nodes that have subscribers. -/
structure NotifiesAll (task : BleRuntimeTask δ) (turn : Turn) (reached : BleRuntimeTask δ) :
    Prop where
  targetOs : reached.targetOs = task.targetOs
  subscribers : (∃ batch, turn.event = .command (.dispatch batch)) →
    ∀ nodeId, subscribersOf reached nodeId = subscribersOf task nodeId
  notified : ∀ target payload receivers,
    .notifyCharacteristic target jacquardP2cCharUuid payload receivers ∈ reached.outbox →
      Multicasts turn receivers ∧ ∀ nodeId, nodeId ∈ receivers ↔ subscribersOf task nodeId ≠ []

theorem NotifiesAll.change (linux : task.targetOs = .linux)
    (notifies : NotifiesAll task turn before) (change : Change start turn before after) :
    NotifiesAll task turn after := by
  refine ⟨(settings_change change).1.trans notifies.targetOs, ?_, ?_⟩
  · rintro ⟨batch, dispatches⟩ nodeId
    rcases subscribersOf_change change nodeId with
      same | ⟨other, event, -⟩ | ⟨other, event, -⟩ | ⟨other, cause, event, -⟩
    · exact same.trans (notifies.subscribers ⟨batch, dispatches⟩ nodeId)
    all_goals
      rw [dispatches] at event
      cases event
  · intro target payload receivers member
    obtain ⟨effects, outbox, sources⟩ := effects_change change
    rw [outbox] at member
    rcases List.mem_append.mp member with old | new
    · exact notifies.notified target payload receivers old
    · cases sources _ new with
      | quiet quiet => exact absurd quiet id
      | closed channelId announced =>
          obtain ⟨otherNode, session, equal⟩ := observed_of_mem_closeAnnouncement announced
          cases equal
      | faulted deviceId cause event fault =>
          obtain ⟨otherNode, endpoint, equal⟩ := faulted_of_mem_disconnectFaults fault
          cases equal
      | notify _ _ _ deviceIds notified targets multicasts =>
          rw [notifies.targetOs, linux] at targets
          obtain ⟨batch, -, -, -, dispatches, -, -⟩ := id multicasts
          refine ⟨multicasts, fun nodeId => ?_⟩
          rw [← notifies.subscribers ⟨batch, dispatches⟩]
          exact mem_receivers_iff targets nodeId

theorem notifiesAll_step (linux : task.targetOs = .linux) (turn : Turn) :
    NotifiesAll task turn (task.step turn) := by
  refine step_induction (P := NotifiesAll task turn) task turn ⟨rfl, fun _ _ => rfl, ?_⟩ ?_
  · intro target payload receivers member
    cases member
  · intro before after change notifies
    exact notifies.change linux change

variable {localNodeId : NodeId} {config : BleConfig} {restoredState : BleRestoredState}
  {initial : BleRuntimeTask δ}

/-- In a run on Linux that records its subscribers, every central that is subscribed when a
notification is issued is resolved to a node of the receiver list. -/
theorem fanout_reaches_receivers
    (created : BleRuntimeTask.new .linux localNodeId config restoredState = .ok initial)
    (before : List Turn) (turn : Turn)
    (records : Meets BleRuntimeTask.step RecordsSubscribers initial (before ++ [turn]))
    (target : DeviceId) (payload : List UInt8) (receivers : List NodeId)
    (issued : .notifyCharacteristic target jacquardP2cCharUuid payload receivers ∈
      ((exec BleRuntimeTask.step initial before).step turn).outbox)
    (deviceId : DeviceId) (subscribed : Subscribed deviceId before) :
    ∃ nodeId ∈ receivers,
      (exec BleRuntimeTask.step initial before).resolvedNodeIdForDevice deviceId =
        some nodeId := by
  obtain ⟨earlier, last⟩ := meets_snoc.mp records
  obtain ⟨nodeId, member⟩ := recorded_run earlier subscribed
  have linux : (exec BleRuntimeTask.step initial before).targetOs = .linux := by
    rw [targetOs_run, eq_launch_of_new created]
    rfl
  obtain ⟨multicasts, all⟩ := (notifiesAll_step linux turn).notified target payload receivers issued
  exact last.current receivers multicasts all nodeId ⟨deviceId⟩ member

/-! A central that subscribes before it is known hears what is meant for a known one. -/

def multicast (receivers : List NodeId) : Turn :=
  ⟨.command (.dispatch [⟨.multicast gattNotifyFanoutEndpoint ⟨Vector.replicate 16 0⟩ receivers,
    [7]⟩]), Scenario.silent⟩

def greeted : List Turn :=
  Scenario.meet ⟨"peer"⟩ (Scenario.node 2) none ++ [Scenario.subscription ⟨"peer"⟩ true]

def overheard : List Turn := greeted ++ [Scenario.subscription ⟨"stranger"⟩ true]

theorem subscribersOf_greeted (targetOs : TargetOs) :
    subscribersOf (Scenario.reached targetOs greeted) (Scenario.node 2) = [⟨⟨"peer"⟩⟩] := by
  cases targetOs <;> decide +kernel

theorem fanout_reaches_peer :
    ∃ nodeId ∈ [Scenario.node 2],
      (Scenario.reached .linux greeted).resolvedNodeIdForDevice ⟨"peer"⟩ = some nodeId := by
  have known : (Scenario.reached .linux greeted).resolvedNodeIdForDevice ⟨"peer"⟩ =
    some (Scenario.node 2) := by decide +kernel
  refine fanout_reaches_receivers (Scenario.new_launched .linux) greeted
    (multicast [Scenario.node 2]) ?_ ⟨"peer"⟩ [7] _ ?_ ⟨"peer"⟩ ?_
  · have quiet (turn : Turn) (event : CentralEvent) (central : turn.event = .central event)
        (connected : ∀ deviceId cause, event ≠ .deviceDisconnected deviceId cause)
        (task : BleRuntimeTask PeerMap) : RecordsSubscribers task turn := by
      refine ⟨?_, ?_, ?_⟩
      · intro deviceId subscribes
        cases central.symm.trans subscribes
      · rintro deviceId ⟨cause, disconnects⟩
        cases central.symm.trans disconnects
        exact absurd rfl (connected deviceId cause)
      · rintro receivers ⟨batch, -, -, -, dispatches, -⟩
        cases central.symm.trans dispatches
    refine ⟨quiet _ _ rfl (by simp) _, quiet _ _ rfl (by simp) _, ⟨?_, ?_, ?_⟩, ⟨nofun, ?_, ?_⟩,
      trivial⟩
    · rintro _ ⟨⟩
      decide +kernel
    · rintro _ ⟨_, ⟨⟩⟩
    · rintro _ ⟨_, _, _, _, ⟨⟩, _⟩
    · rintro _ ⟨_, ⟨⟩⟩
    · rintro receivers ⟨batch, command, endpoint, groupId, ⟨⟩, member, intent⟩ all nodeId subscriber
        recorded
      obtain rfl := List.mem_singleton.mp member
      cases intent
      obtain rfl := List.mem_singleton.mp ((all nodeId).mpr (List.ne_nil_of_mem recorded))
      have peer : subscriber ∈ subscribersOf (Scenario.reached .linux greeted) (Scenario.node 2) :=
        recorded
      rw [subscribersOf_greeted, List.mem_singleton] at peer
      exact ⟨Scenario.node 2, by simp, peer ▸ known⟩
  · decide +kernel
  · exact since_snoc.mpr (Or.inl rfl)

theorem stranger_overhears :
    .notifyCharacteristic ⟨"peer"⟩ jacquardP2cCharUuid [7] [Scenario.node 2] ∈
        ((Scenario.reached .linux overheard).step (multicast [Scenario.node 2])).outbox ∧
      Subscribed ⟨"stranger"⟩ overheard ∧
      ¬ ∃ nodeId ∈ [Scenario.node 2],
        (Scenario.reached .linux overheard).resolvedNodeIdForDevice ⟨"stranger"⟩ =
          some nodeId := by
  refine ⟨by decide +kernel, since_snoc.mpr (Or.inl rfl), ?_⟩
  have unresolved : (Scenario.reached .linux overheard).resolvedNodeIdForDevice ⟨"stranger"⟩ =
    none := by decide +kernel
  simp [unresolved]

end

end JqBle.Proof.LinkProfile
