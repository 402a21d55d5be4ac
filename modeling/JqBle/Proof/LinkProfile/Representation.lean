import JqBle.Proof.LinkProfile.Tables

/-!
# The representation of one peer's sessions

Every slot of `PeerSessions` has the same type, and which kind of session a slot holds is kept by
the operations together: over any sequence of them, from any of the three constructors.
-/

namespace JqBle.Proof.LinkProfile
open Std Host Library Execution JqBle.LinkProfile PeerSessions

variable {sessions : PeerSessions} {subscriber : BleNotifySubscriber}

/-! ## Operations -/

inductive SessionsSource
  | gattWithFallback (deviceId : DeviceId)
  | gattNotifyFanout (subscriber : BleNotifySubscriber)
  | l2capPreferred (deviceId : DeviceId) (channelId : BleChannelId)

def SessionsSource.build : SessionsSource → PeerSessions
  | gattWithFallback deviceId => .gattWithFallback (.gattCentral deviceId)
  | gattNotifyFanout subscriber => .gattNotifyFanout subscriber
  | l2capPreferred deviceId channelId => .l2capPreferred (.l2cap deviceId channelId) none

inductive SessionsOp
  | installGattCentral (deviceId : DeviceId)
  | promoteL2cap (deviceId : DeviceId) (channelId : BleChannelId)
  | downgradeL2cap (channelId : BleChannelId)
  | installGattSubscription (subscriber : BleNotifySubscriber)
  | removeGattSubscription (deviceId : DeviceId)

def applyOp (sessions : PeerSessions) : SessionsOp → PeerSessions
  | .installGattCentral deviceId => sessions.installGattCentral (.gattCentral deviceId)
  | .promoteL2cap deviceId channelId => sessions.promoteL2cap (.l2cap deviceId channelId)
  | .downgradeL2cap channelId => (sessions.downgradeL2cap channelId).1
  | .installGattSubscription subscriber => sessions.installGattSubscription subscriber
  | .removeGattSubscription deviceId => (sessions.removeGattSubscription deviceId).1

def SessionsOp.isSubscription : SessionsOp → Bool
  | installGattCentral _ | promoteL2cap _ _ | downgradeL2cap _ => false
  | installGattSubscription _ | removeGattSubscription _ => true

/-! ## Roles -/

theorem isL2cap_eq_true {session : BleSession} :
    session.isL2cap = true ↔ ∃ deviceId channelId, session = .l2cap deviceId channelId := by
  cases session <;> simp [BleSession.isL2cap]

theorem isL2cap_eq_false {session : BleSession} :
    session.isL2cap = false ↔ ∃ deviceId, session = .gattCentral deviceId := by
  cases session <;> simp [BleSession.isL2cap]

/-- The kinds of session each state holds, and one subscriber for each subscribed device. -/
structure Represented (sessions : PeerSessions) : Prop where
  gattOnly : ∀ ingress egress, sessions.state = .gattOnly ingress egress →
    ingress = egress ∧ ∃ deviceId, egress = .gattCentral deviceId
  l2capPreferred : ∀ session fallback, sessions.state = .l2capPreferred session fallback →
    (∃ deviceId channelId, session = .l2cap deviceId channelId) ∧
      (fallback = none ∨ ∃ deviceId, fallback = some (.gattCentral deviceId))
  subscribers : (sessions.notifySubscribers.map BleNotifySubscriber.deviceId).Nodup

theorem WellFormed.represented (wellFormed : WellFormed sessions)
    (subscribers : (sessions.notifySubscribers.map BleNotifySubscriber.deviceId).Nodup) :
    Represented sessions := by
  unfold WellFormed at wellFormed
  refine ⟨?_, ?_, subscribers⟩
  · intro ingress egress state
    rw [state] at wellFormed
    exact ⟨wellFormed.1, isL2cap_eq_false.mp wellFormed.2⟩
  · intro session fallback state
    rw [state] at wellFormed
    refine ⟨isL2cap_eq_true.mp wellFormed.1, ?_⟩
    cases fallback with
    | none => exact Or.inl rfl
    | some held =>
        obtain ⟨deviceId, rfl⟩ := isL2cap_eq_false.mp (wellFormed.2 held rfl)
        exact Or.inr ⟨deviceId, rfl⟩

/-! ## One operation -/

theorem deviceIds_installSubscriber {subscribers : List BleNotifySubscriber}
    (distinct : (subscribers.map BleNotifySubscriber.deviceId).Nodup) :
    ((installSubscriber subscriber subscribers).map BleNotifySubscriber.deviceId).Nodup := by
  induction subscribers with
  | nil => simp [installSubscriber]
  | cons existing rest ih =>
      rw [List.map_cons, List.nodup_cons] at distinct
      unfold installSubscriber
      split
      · rename_i same
        rw [List.map_cons, ← same]
        exact List.nodup_cons.mpr distinct
      · rename_i different
        rw [List.map_cons, List.nodup_cons]
        refine ⟨?_, ih distinct.2⟩
        intro member
        obtain ⟨held, installed, equal⟩ := List.mem_map.mp member
        rcases mem_installSubscriber.mp installed with rfl | old
        · exact different equal.symm
        · exact distinct.1 (List.mem_map.mpr ⟨held, old, equal⟩)

theorem state_applyOp {op : SessionsOp} (subscription : op.isSubscription = true) :
    (applyOp sessions op).state = sessions.state := by
  cases op with
  | installGattSubscription subscriber => rfl
  | removeGattSubscription deviceId => rfl
  | _ => cases subscription

theorem notifySubscribers_applyOp {op : SessionsOp} (unicast : op.isSubscription = false) :
    (applyOp sessions op).notifySubscribers = sessions.notifySubscribers := by
  cases op with
  | installGattCentral deviceId => exact notifySubscribers_installGattCentral
  | promoteL2cap deviceId channelId => exact notifySubscribers_promoteL2cap
  | downgradeL2cap channelId => exact notifySubscribers_downgradeL2cap
  | _ => cases unicast

theorem WellFormed.applyOp (wellFormed : WellFormed sessions) (op : SessionsOp) :
    WellFormed (applyOp sessions op) := by
  cases op with
  | installGattCentral deviceId => exact wellFormed.installGattCentral
  | promoteL2cap deviceId channelId => exact WellFormed.promoteL2cap
  | downgradeL2cap channelId => exact wellFormed.downgradeL2cap
  | installGattSubscription subscriber => exact wellFormed.installGattSubscription
  | removeGattSubscription deviceId => exact wellFormed.removeGattSubscription

theorem deviceIds_applyOp (op : SessionsOp)
    (distinct : (sessions.notifySubscribers.map BleNotifySubscriber.deviceId).Nodup) :
    ((applyOp sessions op).notifySubscribers.map BleNotifySubscriber.deviceId).Nodup := by
  cases op with
  | installGattSubscription subscriber => exact deviceIds_installSubscriber distinct
  | removeGattSubscription deviceId => exact distinct.sublist (List.filter_sublist.map _)
  | _ => rwa [notifySubscribers_applyOp rfl]

/-! ## Sequences of operations -/

theorem wellFormed_exec (source : SessionsSource) (ops : List SessionsOp) :
    WellFormed (exec applyOp source.build ops) := by
  apply exec_always
  · cases source with
    | gattWithFallback deviceId => exact wellFormed_gattWithFallback
    | gattNotifyFanout subscriber => exact wellFormed_gattNotifyFanout
    | l2capPreferred deviceId channelId => exact wellFormed_l2capPreferred
  · intro sessions op wellFormed
    exact wellFormed.applyOp op

theorem represented_exec (source : SessionsSource) (ops : List SessionsOp) :
    Represented (exec applyOp source.build ops) := by
  have built : (source.build.notifySubscribers.map BleNotifySubscriber.deviceId).Nodup := by
    cases source with
    | gattNotifyFanout subscriber => simp [SessionsSource.build, PeerSessions.gattNotifyFanout]
    | _ => exact List.nodup_nil
  have distinct := exec_always (P := fun sessions : PeerSessions =>
    (sessions.notifySubscribers.map BleNotifySubscriber.deviceId).Nodup) built
    (fun sessions op distinct => deviceIds_applyOp op distinct) ops
  exact (wellFormed_exec source ops).represented distinct

theorem firstGattFallback_gattOnly {ingress egress : BleSession} (represented : Represented sessions)
    (state : sessions.state = .gattOnly ingress egress) :
    sessions.firstGattFallback = some egress := by
  obtain ⟨rfl, deviceId, rfl⟩ := represented.gattOnly ingress egress state
  simp [firstGattFallback, iterSessions, state, BleSession.isL2cap]

theorem downgradeL2cap_promoteL2cap (represented : Represented sessions) (deviceId : DeviceId)
    (channelId : BleChannelId)
    (notPreferred : ∀ session fallback, sessions.state ≠ .l2capPreferred session fallback) :
    ((sessions.promoteL2cap (.l2cap deviceId channelId)).downgradeL2cap channelId).1 = sessions := by
  obtain ⟨state, subscribers⟩ := sessions
  cases state with
  | disconnected => simp [promoteL2cap, downgradeL2cap, firstGattFallback, iterSessions]
  | gattOnly ingress egress =>
      have fallback := firstGattFallback_gattOnly represented rfl
      obtain ⟨rfl, -⟩ := represented.gattOnly ingress egress rfl
      simp [promoteL2cap, downgradeL2cap, fallback]
  | l2capPreferred session fallback => exact absurd rfl (notPreferred session fallback)

/-- Whatever is done to the sessions of a peer, every slot holds the kind of session its name says,
no device is subscribed twice, the subscribers and the unicast state do not touch each other, and a
channel that comes and goes leaves no trace. -/
theorem sessions_keep_their_representation (source : SessionsSource) (ops : List SessionsOp) :
    Represented (exec applyOp source.build ops) ∧
      (∀ op : SessionsOp, op.isSubscription = true →
        (applyOp (exec applyOp source.build ops) op).state =
          (exec applyOp source.build ops).state) ∧
      (∀ op : SessionsOp, op.isSubscription = false →
        (applyOp (exec applyOp source.build ops) op).notifySubscribers =
          (exec applyOp source.build ops).notifySubscribers) ∧
      ∀ deviceId channelId,
        (∀ session fallback,
          (exec applyOp source.build ops).state ≠ .l2capPreferred session fallback) →
        exec applyOp (exec applyOp source.build ops)
          [.promoteL2cap deviceId channelId, .downgradeL2cap channelId] =
            exec applyOp source.build ops := by
  have represented := represented_exec source ops
  refine ⟨represented, ?_, ?_, ?_⟩
  · intro op subscription
    exact state_applyOp subscription
  · intro op unicast
    exact notifySubscribers_applyOp unicast
  · intro deviceId channelId notPreferred
    exact downgradeL2cap_promoteL2cap represented deviceId channelId notPreferred

/-! ## The sessions of the runtime task -/

def BuiltByOps (sessions : PeerSessions) : Prop :=
  ∃ source ops, sessions = exec applyOp (SessionsSource.build source) ops

theorem BuiltByOps.applyOp (built : BuiltByOps sessions) (op : SessionsOp) :
    BuiltByOps (applyOp sessions op) := by
  obtain ⟨source, ops, rfl⟩ := built
  exact ⟨source, ops ++ [op], by rw [exec_snoc]⟩

section
variable {δ : Type} [PeerDirectory δ BlePeerKey DiscoveredPeerHint]

def SessionsBuiltByOps (task : BleRuntimeTask δ) : Prop :=
  ∀ (nodeId : NodeId) (sessions : PeerSessions), task.sessions[nodeId]? = some sessions →
    BuiltByOps sessions

theorem SessionsBuiltByOps.change {start before after : BleRuntimeTask δ} {turn : Turn}
    (built : SessionsBuiltByOps before) (change : Change start turn before after) :
    SessionsBuiltByOps after := by
  intro nodeId sessions known
  cases entryUpdate_change change known with
  | kept old => exact built nodeId sessions old
  | freshCentral deviceId resolved => exact ⟨.gattWithFallback deviceId, [], rfl⟩
  | central deviceId resolved old =>
      exact (built nodeId _ old).applyOp (.installGattCentral deviceId)
  | freshChannel deviceId resolved registers => exact ⟨.l2capPreferred deviceId _, [], rfl⟩
  | channel deviceId resolved registers old =>
      exact (built nodeId _ old).applyOp (.promoteL2cap deviceId _)
  | closed channelId old => exact (built nodeId _ old).applyOp (.downgradeL2cap channelId)
  | freshSubscriber deviceId resolved => exact ⟨.gattNotifyFanout ⟨deviceId⟩, [], rfl⟩
  | subscribed deviceId resolved old =>
      exact (built nodeId _ old).applyOp (.installGattSubscription ⟨deviceId⟩)
  | unsubscribed deviceId old =>
      exact (built nodeId _ old).applyOp (.removeGattSubscription deviceId)

/-- The runtime makes the sessions of every peer with these operations alone. -/
theorem represented_run {targetOs : TargetOs} {localNodeId : NodeId} {config : BleConfig}
    {restoredState : BleRestoredState} {initial : BleRuntimeTask δ}
    (created : BleRuntimeTask.new targetOs localNodeId config restoredState = .ok initial)
    (turns : List Turn) {nodeId : NodeId}
    (known : (exec BleRuntimeTask.step initial turns).sessions[nodeId]? = some sessions) :
    Represented sessions := by
  have built : SessionsBuiltByOps (exec BleRuntimeTask.step initial turns) := by
    apply exec_always
    · obtain rfl := eq_launch_of_new created
      intro nodeId sessions known
      simp [BleRuntimeTask.launch] at known
    · intro task turn built
      exact step_induction task turn built fun _ _ change built => built.change change
  obtain ⟨source, ops, rfl⟩ := built nodeId sessions known
  exact represented_exec source ops

end

end JqBle.Proof.LinkProfile
