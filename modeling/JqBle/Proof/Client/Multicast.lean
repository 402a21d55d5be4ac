import JqBle.Client.Multicast
import JqBle.Proof.LinkProfile.Fanout

/-!
# Multicast admission and the recorded subscribers

The admission keeps one mark for a node, the runtime a list of its subscribed devices. The mark is
taken away whenever one of the devices goes by itself, and stays when the whole entry goes with a
device that is no subscriber.
-/

namespace JqBle.Proof.Client
open Std Host Library Execution JqBle.LinkProfile JqBle.Client JqBle.Proof.LinkProfile

/-- The admitted nodes are those with a recorded subscriber. -/
def Agrees {δ : Type} (task : BleRuntimeTask δ) (admission : MulticastAdmission) : Prop :=
  ∀ nodeId : NodeId, nodeId ∈ admission.subscribers ↔
    ∃ sessions, task.sessions[nodeId]? = some sessions ∧ sessions.notifySubscribers ≠ []

theorem agrees_iff {δ : Type} {task : BleRuntimeTask δ} {admission : MulticastAdmission} :
    Agrees task admission ↔
      ∀ nodeId, nodeId ∈ admission.subscribers ↔ subscribersOf task nodeId ≠ [] := by
  refine forall_congr' fun nodeId => iff_congr Iff.rfl ?_
  constructor
  · rintro ⟨sessions, known, nonempty⟩
    rwa [subscribersOf_of_known known]
  · exact known_of_subscribersOf_ne_nil

/-- Shaping keeps the fanout endpoint as it is. -/
def KeepsFanoutEndpoint (shape : CastShaping) : Prop :=
  ∀ localNodeId remoteNodeId evidence,
    (shape (unicastObservation localNodeId remoteNodeId gattNotifyFanoutEndpoint evidence)
      ).payloadBytesMax = gattNotifyFanoutEndpoint.mtuBytes

/-! ## Ingesting the effects of a turn -/

section Ingest
variable {shape : CastShaping} {localNodeId nodeId remoteNodeId : NodeId}
  {admission : MulticastAdmission}

theorem mem_ingest_faulted (endpoint : LinkEndpoint) (stamp : Tick × OrderStamp) :
    nodeId ∈ (ingestEffect shape localNodeId stamp admission
        (.emitControl (rawBleLinkFaultedEvent remoteNodeId endpoint))).subscribers ↔
      nodeId ∈ admission.subscribers ∧
        ¬ (nodeId = remoteNodeId ∧ gattNotifyFanoutEndpoint = endpoint) := by
  simp only [ingestEffect, rawBleLinkFaultedEvent, rawBleLinkEvent, linkObservationFromBleEvent,
    linkCarrier, MulticastAdmission.ingestTransportObservation]
  by_cases fanout : endpoint = gattNotifyFanoutEndpoint
  · simp [fanout, ExtTreeMap.mem_erase, eq_comm (a := remoteNodeId), and_comm]
  · simp [fanout, eq_comm (a := gattNotifyFanoutEndpoint)]

theorem ingest_observed_of_located {endpoint : LinkEndpoint} {deviceId : DeviceId}
    (located : deviceIdFromEndpoint endpoint = some deviceId) (stamp : Tick × OrderStamp) :
    ingestEffect shape localNodeId stamp admission
      (.emitControl (rawBleLinkObservedEvent remoteNodeId endpoint)) = admission := by
  have elsewhere (mtuBytes : Nat) :
      ({ endpoint with mtuBytes := mtuBytes } : LinkEndpoint) ≠ gattNotifyFanoutEndpoint := by
    intro fanout
    have shaped : deviceIdFromEndpoint { endpoint with mtuBytes := mtuBytes } = some deviceId :=
      located
    rw [fanout, deviceIdFromEndpoint_gattNotifyFanoutEndpoint] at shaped
    cases shaped
  simp [ingestEffect, rawBleLinkObservedEvent, rawBleLinkEvent, linkObservationFromBleEvent,
    linkCarrier, linkFromUnicastDeliverySupport, MulticastAdmission.ingestTransportObservation,
    elsewhere]

theorem mem_ingest_fanout (keeps : KeepsFanoutEndpoint shape) (stamp : Tick × OrderStamp) :
    nodeId ∈ (ingestEffect shape localNodeId stamp admission
        (.emitControl (rawBleLinkObservedEvent remoteNodeId gattNotifyFanoutEndpoint))).subscribers ↔
      nodeId = remoteNodeId ∨ nodeId ∈ admission.subscribers := by
  simp [ingestEffect, rawBleLinkObservedEvent, rawBleLinkEvent, linkObservationFromBleEvent,
    linkCarrier, linkFromUnicastDeliverySupport, MulticastAdmission.ingestTransportObservation,
    keeps localNodeId remoteNodeId, ExtTreeMap.mem_insert,
    eq_comm (a := remoteNodeId)]

theorem ingestEffect_of_quiet {effect : Effect} (quiet : Quiet effect)
    (stamp : Tick × OrderStamp) : ingestEffect shape localNodeId stamp admission effect =
      admission := by
  cases effect with
  | emitControl event => cases quiet
  | _ => rfl

theorem mem_ingestEffects_faults (stamp : Nat → Tick × OrderStamp) (position : Nat)
    {effects : List Effect} (faults : ∀ effect ∈ effects, Quiet effect ∨ ∃ remoteNodeId endpoint,
      effect = .emitControl (rawBleLinkFaultedEvent remoteNodeId endpoint))
    (admission : MulticastAdmission) :
    nodeId ∈ (ingestEffects shape localNodeId stamp position effects admission).subscribers ↔
      nodeId ∈ admission.subscribers ∧
        .emitControl (rawBleLinkFaultedEvent nodeId gattNotifyFanoutEndpoint) ∉ effects := by
  induction effects generalizing position admission with
  | nil => simp [ingestEffects]
  | cons effect rest ih =>
      rw [ingestEffects, ih _ fun other member => faults other (List.mem_cons_of_mem _ member),
        List.mem_cons, not_or]
      rcases faults effect List.mem_cons_self with quiet | ⟨remoteNodeId, endpoint, rfl⟩
      · have other : Effect.emitControl
            (rawBleLinkFaultedEvent nodeId gattNotifyFanoutEndpoint) ≠ effect := by
          rintro rfl
          exact quiet
        rw [ingestEffect_of_quiet quiet]
        simp [other]
      · rw [mem_ingest_faulted, Effect.emitControl.injEq, rawBleLinkFaultedEvent,
          rawBleLinkFaultedEvent, rawBleLinkEvent_inj, and_assoc]
        simp only [and_true]

end Ingest

/-! ## One turn -/

section Turns
variable {δ : Type} [PeerDirectory δ BlePeerKey DiscoveredPeerHint]
  {start before after task : BleRuntimeTask δ} {turn : Turn} {deviceId : DeviceId}
  {shape : CastShaping} {localNodeId : NodeId} {admission : MulticastAdmission}

/-- A device that unsubscribes was the only subscriber of its node, and a device that disconnects is
mentioned with subscribers only for its own node and as one of them. -/
def MarksFanout (task : BleRuntimeTask δ) (turn : Turn) : Prop :=
  (∀ deviceId, turn.event = subscriptionEvent deviceId false →
    ∀ nodeId, task.resolvedNodeIdForDevice deviceId = some nodeId →
      ⟨deviceId⟩ ∈ subscribersOf task nodeId →
        ∀ subscriber ∈ subscribersOf task nodeId, subscriber = ⟨deviceId⟩) ∧
  ∀ deviceId, Disconnects deviceId turn → ∀ (nodeId : NodeId) (sessions : PeerSessions),
    task.sessions[nodeId]? = some sessions → sessions.referencesDevice deviceId = true →
      sessions.notifySubscribers ≠ [] →
        task.resolvedNodeIdForDevice deviceId = some nodeId ∧
          ⟨deviceId⟩ ∈ sessions.notifySubscribers

def ObservesDevices (effect : Effect) : Prop :=
  ∀ event, effect = .emitControl event → ∃ nodeId endpoint deviceId,
    event = rawBleLinkObservedEvent nodeId endpoint ∧
      deviceIdFromEndpoint endpoint = some deviceId

theorem ingestEffects_of_observesDevices (stamp : Nat → Tick × OrderStamp) (position : Nat)
    {effects : List Effect} (observes : ∀ effect ∈ effects, ObservesDevices effect) :
    ingestEffects shape localNodeId stamp position effects admission = admission := by
  induction effects generalizing position with
  | nil => rfl
  | cons effect rest ih =>
      have ignored : ingestEffect shape localNodeId (stamp position) admission effect =
          admission := by
        cases effect with
        | emitControl event =>
            obtain ⟨nodeId, endpoint, deviceId, rfl, located⟩ :=
              observes _ List.mem_cons_self event rfl
            exact ingest_observed_of_located located _
        | _ => rfl
      rw [ingestEffects, ignored]
      exact ih _ fun other member => observes other (List.mem_cons_of_mem _ member)

def KeepsRecord (turn : Turn) : Prop :=
  (∀ deviceId subscribed, turn.event ≠ subscriptionEvent deviceId subscribed) ∧
    ∀ deviceId, ¬ Disconnects deviceId turn

theorem observesDevices_of_effectOf (keeps : KeepsRecord turn) {effect : Effect}
    (source : EffectOf before after turn effect) : ObservesDevices effect := by
  intro event emitted
  cases source with
  | quiet quiet =>
      subst emitted
      exact absurd quiet id
  | gatt deviceId nodeId resolved =>
      cases emitted
      exact ⟨nodeId, _, deviceId, rfl, by simp⟩
  | l2cap deviceId nodeId resolved =>
      cases emitted
      exact ⟨nodeId, _, deviceId, rfl, by simp⟩
  | spawn channelId deviceId nodeId registers => cases emitted
  | payload deviceId nodeId endpoint value located attributed => cases emitted
  | closed channelId announced =>
      obtain ⟨nodeId, session, equal⟩ := observed_of_mem_closeAnnouncement announced
      rw [emitted, Effect.emitControl.injEq] at equal
      exact ⟨nodeId, _, session.deviceId, equal, by simp⟩
  | notify deviceId payload receivers deviceIds notified targets multicasts => cases emitted
  | subscribed deviceId nodeId subscribes => exact absurd subscribes (keeps.1 deviceId true)
  | unsubscribed deviceId nodeId unsubscribes => exact absurd unsubscribes (keeps.1 deviceId false)
  | faulted deviceId cause disconnects fault => exact absurd ⟨cause, disconnects⟩ (keeps.2 deviceId)

theorem step_of_keepsRecord (keeps : KeepsRecord turn) (task : BleRuntimeTask δ) :
    (∀ nodeId, subscribersOf (task.step turn) nodeId = subscribersOf task nodeId) ∧
      ∀ effect ∈ (task.step turn).outbox, ObservesDevices effect := by
  refine step_induction (P := fun reached =>
    (∀ nodeId, subscribersOf reached nodeId = subscribersOf task nodeId) ∧
      ∀ effect ∈ reached.outbox, ObservesDevices effect) task turn
    ⟨fun _ => rfl, fun _ member => absurd member List.not_mem_nil⟩ ?_
  rintro before after change ⟨kept, observes⟩
  constructor
  · intro nodeId
    rcases subscribersOf_change change nodeId with
      same | ⟨other, event, -⟩ | ⟨other, event, -⟩ | ⟨other, cause, event, -⟩
    · exact same.trans (kept nodeId)
    · exact absurd event (keeps.1 other true)
    · exact absurd event (keeps.1 other false)
    · exact absurd ⟨cause, event⟩ (keeps.2 other)
  · obtain ⟨effects, outbox, sources⟩ := effects_change change
    rw [outbox]
    intro effect member
    rcases List.mem_append.mp member with old | new
    · exact observes effect old
    · exact observesDevices_of_effectOf keeps (sources effect new)

theorem agrees_of_keepsRecord (keeps : KeepsRecord turn) (agrees : Agrees task admission)
    (stamp : Nat → Tick × OrderStamp) :
    Agrees (task.step turn)
      (ingestEffects shape localNodeId stamp 0 (task.step turn).outbox admission) := by
  obtain ⟨kept, observes⟩ := step_of_keepsRecord keeps task
  rw [ingestEffects_of_observesDevices stamp 0 observes]
  rw [agrees_iff] at agrees ⊢
  intro nodeId
  rw [kept]
  exact agrees nodeId

theorem agrees_of_subscription (keeps : KeepsFanoutEndpoint shape) (cleared : task.outbox = [])
    (agrees : Agrees task admission) (stamp : Nat → Tick × OrderStamp) :
    Agrees (task.handleP2cSubscription deviceId) (ingestEffects shape localNodeId stamp 0
      (task.handleP2cSubscription deviceId).outbox admission) := by
  rcases handleP2cSubscription_cases task deviceId with ⟨-, same⟩ | ⟨other, resolved, equal⟩
  · rw [same, cleared]
    exact agrees
  · rw [agrees_iff] at agrees ⊢
    intro nodeId
    have emitted : (task.handleP2cSubscription deviceId).outbox =
        [.emitControl (rawBleLinkObservedEvent other gattNotifyFanoutEndpoint)] := by
      rw [equal, cleared]
      rfl
    rw [emitted, ingestEffects, ingestEffects, mem_ingest_fanout keeps, subscribersOf_subscription]
    simp only [resolved, Option.some.injEq, eq_comm (a := other)]
    by_cases same : nodeId = other
    · simp [same, installSubscriber_ne_nil]
    · simpa [same] using agrees nodeId

theorem mem_removed {sessions : PeerSessions} :
    (sessions.removeGattSubscription deviceId).2 = true ↔
      ⟨deviceId⟩ ∈ sessions.notifySubscribers := by
  rw [removeGattSubscription_snd]
  constructor
  · rintro ⟨⟨held⟩, member, rfl⟩
    exact member
  · intro member
    exact ⟨_, member, rfl⟩

theorem agrees_unsubscription_iff (cleared : task.outbox = []) (agrees : Agrees task admission)
    (stamp : Nat → Tick × OrderStamp) :
    Agrees (task.handleP2cUnsubscription deviceId) (ingestEffects shape localNodeId stamp 0
        (task.handleP2cUnsubscription deviceId).outbox admission) ↔
      ∀ nodeId, task.resolvedNodeIdForDevice deviceId = some nodeId →
        ⟨deviceId⟩ ∈ subscribersOf task nodeId →
          ∀ subscriber ∈ subscribersOf task nodeId, subscriber = ⟨deviceId⟩ := by
  rcases handleP2cUnsubscription_cases task deviceId with
    ⟨unknown, same⟩ | ⟨other, sessions, resolved, known, equal⟩
  · rw [same, cleared]
    apply iff_of_true agrees
    intro nodeId resolved member
    simp [subscribersOf, unknown nodeId resolved] at member
  have emitted : (task.handleP2cUnsubscription deviceId).outbox =
      if (sessions.removeGattSubscription deviceId).2 then
        [.emitControl (rawBleLinkFaultedEvent other gattNotifyFanoutEndpoint)] else [] := by
    rw [equal, cleared]
    rfl
  have record (nodeId : NodeId) : subscribersOf (task.handleP2cUnsubscription deviceId) nodeId =
      if nodeId = other then
        (subscribersOf task nodeId).filter fun subscriber => subscriber.deviceId ≠ deviceId
      else subscribersOf task nodeId := by
    rw [subscribersOf_unsubscription]
    simp only [resolved, Option.some.injEq, eq_comm (a := other)]
  simp only [resolved, Option.some.injEq, forall_eq']
  rw [agrees_iff] at agrees ⊢
  by_cases subscribed : ⟨deviceId⟩ ∈ subscribersOf task other
  · rw [emitted, if_pos (mem_removed.mpr (subscribersOf_of_known known ▸ subscribed)), ingestEffects,
      ingestEffects]
    constructor
    · intro agreesAfter _ subscriber member
      by_contra different
      have unmarked := agreesAfter other
      rw [mem_ingest_faulted, record, if_pos rfl] at unmarked
      have left : subscriber ∈ (subscribersOf task other).filter
          fun subscriber => subscriber.deviceId ≠ deviceId := by
        refine List.mem_filter.mpr ⟨member, ?_⟩
        simpa using fun same => different (congrArg BleNotifySubscriber.mk same)
      exact (unmarked.mpr (List.ne_nil_of_mem left)).2 ⟨rfl, rfl⟩
    · intro alone nodeId
      rw [mem_ingest_faulted, record]
      by_cases same : nodeId = other
      · subst same
        simpa using fun subscriber member => congrArg BleNotifySubscriber.deviceId
          (alone subscribed subscriber member)
      · simpa [same] using agrees nodeId
  · have unmarked : (sessions.removeGattSubscription deviceId).2 = false := by
      rwa [← Bool.not_eq_true, mem_removed, ← subscribersOf_of_known known]
    rw [emitted, unmarked]
    refine iff_of_true ?_ fun member => absurd member subscribed
    intro nodeId
    have same : subscribersOf (task.handleP2cUnsubscription deviceId) nodeId =
        subscribersOf task nodeId := by
      rw [record]
      split_ifs with here
      · subst here
        apply List.filter_eq_self.mpr
        rintro ⟨held⟩ member
        have different : held ≠ deviceId := by
          rintro rfl
          exact subscribed member
        simpa using different
      · rfl
    rw [same]
    exact agrees nodeId

theorem fanout_mem_disconnectFaults {nodeId : NodeId} {sessions : PeerSessions}
    (known : task.sessions[nodeId]? = some sessions) :
    .emitControl (rawBleLinkFaultedEvent nodeId gattNotifyFanoutEndpoint) ∈
        disconnectFaults task deviceId ↔
      task.resolvedNodeIdForDevice deviceId = some nodeId ∧
        ⟨deviceId⟩ ∈ sessions.notifySubscribers := by
  unfold disconnectFaults
  cases resolved : task.resolvedNodeIdForDevice deviceId with
  | none => simp
  | some other =>
      dsimp only
      by_cases same : other = nodeId
      · subst same
        simp only [known, List.mem_map, Effect.emitControl.injEq, rawBleLinkFaultedEvent,
          rawBleLinkEvent_inj, true_and, and_true, exists_eq_right, mem_endpointsForDevice]
        constructor
        · rintro (⟨held, -, -, fanout⟩ | ⟨held, member, rfl⟩)
          · exact absurd fanout held.endpoint_ne_gattNotifyFanoutEndpoint
          · exact member
        · intro member
          exact Or.inr ⟨_, member, rfl⟩
      · have elsewhere (endpoint : LinkEndpoint) : rawBleLinkFaultedEvent other endpoint ≠
            rawBleLinkFaultedEvent nodeId gattNotifyFanoutEndpoint := by
          simp [rawBleLinkFaultedEvent, rawBleLinkEvent_inj, same]
        cases task.sessions[other]? <;> simp [same, elsewhere]

theorem agrees_disconnect_iff (cleared : task.outbox = []) (agrees : Agrees task admission)
    (cause : DisconnectCause) (stamp : Nat → Tick × OrderStamp) :
    Agrees (task.handleDeviceDisconnected deviceId cause) (ingestEffects shape localNodeId stamp 0
        (task.handleDeviceDisconnected deviceId cause).outbox admission) ↔
      ∀ (nodeId : NodeId) (sessions : PeerSessions), task.sessions[nodeId]? = some sessions →
        sessions.referencesDevice deviceId = true → sessions.notifySubscribers ≠ [] →
          task.resolvedNodeIdForDevice deviceId = some nodeId ∧
            ⟨deviceId⟩ ∈ sessions.notifySubscribers := by
  obtain ⟨effects, quiet, outbox⟩ := (handleDeviceDisconnected_eq task deviceId cause).outbox
  dsimp only at outbox
  rw [cleared, List.nil_append] at outbox
  have marks (nodeId : NodeId) : nodeId ∈ (ingestEffects shape localNodeId stamp 0
      (task.handleDeviceDisconnected deviceId cause).outbox admission).subscribers ↔
        nodeId ∈ admission.subscribers ∧ .emitControl
          (rawBleLinkFaultedEvent nodeId gattNotifyFanoutEndpoint) ∉
            disconnectFaults task deviceId := by
    rw [outbox, mem_ingestEffects_faults, List.mem_append, not_or]
    · refine and_congr_right fun _ => and_iff_left ?_
      exact fun member => quiet _ member
    · intro effect member
      rcases List.mem_append.mp member with fault | other
      · exact Or.inr (faulted_of_mem_disconnectFaults fault)
      · exact Or.inl (quiet effect other)
  rw [agrees_iff] at agrees ⊢
  refine forall_congr' fun nodeId => ?_
  rw [marks, agrees, subscribersOf_disconnect]
  cases known : task.sessions[nodeId]? with
  | none => simp [subscribersOf, known]
  | some sessions =>
      rw [subscribersOf_of_known known, fanout_mem_disconnectFaults known]
      cases references : sessions.referencesDevice deviceId with
      | true =>
          simp only [Option.filter, references, Option.some.injEq, forall_eq', forall_const,
            Bool.not_true, Bool.false_eq_true, ↓reduceIte, Option.map_none, Option.getD_none, ne_eq,
            not_true_eq_false, iff_false, not_and_not_right]
      | false =>
          have absent : ⟨deviceId⟩ ∉ sessions.notifySubscribers := by
            intro member
            have mentioned := referencesDevice_iff.mpr (Or.inr ⟨_, member, rfl⟩)
            rw [references] at mentioned
            cases mentioned
          simp [Option.filter, references, absent]

theorem agrees_step_iff (keeps : KeepsFanoutEndpoint shape) (agrees : Agrees task admission)
    (turn : Turn) (stamp : Nat → Tick × OrderStamp) :
    Agrees (task.step turn)
        (ingestEffects shape localNodeId stamp 0 (task.step turn).outbox admission) ↔
      MarksFanout task turn := by
  have cleared : Agrees { task with outbox := [] } admission := agrees
  by_cases subscription : ∃ deviceId subscribed, turn.event = subscriptionEvent deviceId subscribed
  · obtain ⟨deviceId, subscribed, event⟩ := subscription
    have connected (other : DeviceId) : ¬ Disconnects other turn := by
      rintro ⟨cause, disconnects⟩
      rw [event] at disconnects
      cases disconnects
    cases subscribed with
    | true =>
        rw [step_subscription event]
        refine iff_of_true (agrees_of_subscription keeps rfl cleared stamp) ⟨?_, ?_⟩
        · intro other unsubscribes
          rw [event] at unsubscribes
          cases unsubscribes
        · intro other disconnects
          exact absurd disconnects (connected other)
    | false =>
        rw [step_unsubscription event, agrees_unsubscription_iff rfl cleared stamp]
        constructor
        · intro alone
          refine ⟨?_, fun other disconnects => absurd disconnects (connected other)⟩
          intro other unsubscribes
          rw [event] at unsubscribes
          cases unsubscribes
          exact alone
        · intro marks
          exact marks.1 deviceId event
  have quiet (deviceId : DeviceId) (subscribed : Bool) :
      turn.event ≠ subscriptionEvent deviceId subscribed :=
    fun event => subscription ⟨deviceId, subscribed, event⟩
  by_cases disconnection : ∃ deviceId, Disconnects deviceId turn
  · obtain ⟨deviceId, cause, event⟩ := disconnection
    rw [step_deviceDisconnected event, agrees_disconnect_iff rfl cleared cause stamp]
    constructor
    · intro marked
      refine ⟨fun other unsubscribes => absurd unsubscribes (quiet other false), ?_⟩
      rintro other ⟨otherCause, disconnects⟩
      rw [event] at disconnects
      cases disconnects
      exact marked
    · intro marks
      exact marks.2 deviceId ⟨cause, event⟩
  · have connected (deviceId : DeviceId) : ¬ Disconnects deviceId turn :=
      fun disconnects => disconnection ⟨deviceId, disconnects⟩
    refine iff_of_true (agrees_of_keepsRecord ⟨quiet, connected⟩ agrees stamp) ⟨?_, ?_⟩
    · exact fun deviceId unsubscribes => absurd unsubscribes (quiet deviceId false)
    · exact fun deviceId disconnects => absurd disconnects (connected deviceId)

/-- Along any turns the admission agrees with the runtime, after every turn, exactly when every turn
marks what it does to the record. -/
theorem multicast_admission_agrees_iff (keeps : KeepsFanoutEndpoint shape) (targetOs : TargetOs)
    (config : BleConfig) (restoredState : BleRestoredState) (turns : List ObservedTurn) :
    Meets (ObservedRuntime.step shape)
        (fun runtime next => MarksFanout runtime.task next.turn)
        (.launch targetOs localNodeId config restoredState : ObservedRuntime δ) turns ↔
      ∀ before, before <+: turns →
        let runtime := exec (ObservedRuntime.step shape)
          (.launch targetOs localNodeId config restoredState : ObservedRuntime δ) before
        Agrees runtime.task runtime.multicastAdmission := by
  refine meets_iff_forall_prefix (P := fun before =>
    Agrees (exec (ObservedRuntime.step shape)
        (.launch targetOs localNodeId config restoredState : ObservedRuntime δ) before).task
      (exec (ObservedRuntime.step shape)
        (.launch targetOs localNodeId config restoredState : ObservedRuntime δ)
          before).multicastAdmission) ?_ ?_
  · intro nodeId
    simp [ObservedRuntime.launch, BleRuntimeTask.launch]
  · intro before next _ agrees
    rw [exec_snoc]
    exact agrees_step_iff keeps agrees next.turn next.stamp

end Turns

/-! Two devices of one node subscribe, the second after a change of address; the second unsubscribes. -/

def observed (turn : Turn) : ObservedTurn := ⟨turn, fun position => (1, position)⟩

def subscribedAlone : List ObservedTurn :=
  (Scenario.meet ⟨"peer"⟩ (Scenario.node 2) none ++
    [Scenario.subscription ⟨"peer"⟩ true, Scenario.subscription ⟨"peer"⟩ false]).map observed

def subscribedTwice : List ObservedTurn :=
  (Scenario.meet ⟨"old"⟩ (Scenario.node 2) none ++ [Scenario.subscription ⟨"old"⟩ true] ++
    Scenario.meet ⟨"new"⟩ (Scenario.node 2) none ++
    [Scenario.subscription ⟨"new"⟩ true, Scenario.subscription ⟨"new"⟩ false]).map observed

def observedRuntime : ObservedRuntime PeerMap := .launch .other (Scenario.node 1) {} {}

theorem keepsFanoutEndpoint_shaping : KeepsFanoutEndpoint Scenario.shaping := fun _ _ _ => rfl

theorem multicast_admission_agrees_alone :
    let runtime := exec (ObservedRuntime.step Scenario.shaping) observedRuntime subscribedAlone
    Agrees runtime.task runtime.multicastAdmission := by
  let subscribed := (exec (ObservedRuntime.step Scenario.shaping) observedRuntime
    (subscribedAlone.take 3)).task
  have known : subscribed.resolvedNodeIdForDevice ⟨"peer"⟩ = some (Scenario.node 2) := by
    decide +kernel
  have recorded : subscribersOf subscribed (Scenario.node 2) = [⟨⟨"peer"⟩⟩] := by decide +kernel
  have alone (nodeId : NodeId) (resolved : subscribed.resolvedNodeIdForDevice ⟨"peer"⟩ = some nodeId)
      (subscriber : BleNotifySubscriber) (member : subscriber ∈ subscribersOf subscribed nodeId) :
      subscriber = ⟨⟨"peer"⟩⟩ := by
    obtain rfl : Scenario.node 2 = nodeId := Option.some.inj (known.symm.trans resolved)
    rw [recorded] at member
    exact List.mem_singleton.mp member
  refine (multicast_admission_agrees_iff keepsFanoutEndpoint_shaping .other {} {}
    subscribedAlone).mp ⟨⟨nofun, ?_⟩, ⟨nofun, ?_⟩, ⟨?_, ?_⟩, ⟨?_, ?_⟩, trivial⟩ _ List.prefix_rfl
  · rintro _ ⟨_, ⟨⟩⟩
  · rintro _ ⟨_, ⟨⟩⟩
  · rintro _ ⟨⟩
  · rintro _ ⟨_, ⟨⟩⟩
  · rintro _ ⟨⟩ nodeId resolved -
    exact alone nodeId resolved
  · rintro _ ⟨_, ⟨⟩⟩

theorem multicast_admission_forgets_subscriber :
    let runtime := exec (ObservedRuntime.step Scenario.shaping) observedRuntime subscribedTwice
    Scenario.node 2 ∉ runtime.multicastAdmission.subscribers ∧
      subscribersOf runtime.task (Scenario.node 2) = [⟨⟨"old"⟩⟩] ∧
      ¬ Agrees runtime.task runtime.multicastAdmission := by
  intro runtime
  have unmarked : Scenario.node 2 ∉ runtime.multicastAdmission.subscribers := by decide +kernel
  have recorded : subscribersOf runtime.task (Scenario.node 2) = [⟨⟨"old"⟩⟩] := by decide +kernel
  refine ⟨unmarked, recorded, ?_⟩
  intro agrees
  exact unmarked ((agrees_iff.mp agrees (Scenario.node 2)).mpr (by simp [recorded]))

end JqBle.Proof.Client
