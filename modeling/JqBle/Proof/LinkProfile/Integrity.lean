import JqBle.Proof.LinkProfile.Attribution

/-!
# The tables mention resolved devices only

Sessions and channels are pruned with different predicates: sessions by device, channels by node.
That a disconnect leaves nothing of its device behind follows from the invariant of the attribution
proof, by which the channels of a device are channels of the node it is resolved to. It holds of a
peer directory that is a finite map.
-/

namespace JqBle.Proof.LinkProfile
open Std Host Library Execution JqBle.LinkProfile

variable {δ : Type} [PeerDirectory δ BlePeerKey DiscoveredPeerHint] {task : BleRuntimeTask δ}
  {nodeId : NodeId} {deviceId : DeviceId}

/-- A session of the node, preferred or to fall back on, a notify subscriber or a channel of the
node is on the device. -/
inductive MentionedFor (task : BleRuntimeTask δ) (nodeId : NodeId) (deviceId : DeviceId) : Prop
  | session (sessions : PeerSessions) (session : BleSession)
      (known : task.sessions[nodeId]? = some sessions) (held : session ∈ sessions.iterSessions)
      (device : session.deviceId = deviceId) : MentionedFor task nodeId deviceId
  | subscriber (sessions : PeerSessions) (known : task.sessions[nodeId]? = some sessions)
      (subscribed : ⟨deviceId⟩ ∈ sessions.notifySubscribers) : MentionedFor task nodeId deviceId
  | channel (channelId : BleChannelId)
      (registered : task.l2capChannels[channelId]? = some ⟨nodeId, deviceId⟩) :
      MentionedFor task nodeId deviceId

theorem MentionedFor.associated (mentioned : MentionedFor task nodeId deviceId) :
    Associated task nodeId deviceId := by
  cases mentioned with
  | session sessions session known held device =>
      exact .referenced ⟨sessions, known, referencesDevice_iff.mpr (Or.inl ⟨session, held, device⟩)⟩
  | subscriber sessions known subscribed =>
      exact .referenced ⟨sessions, known,
        referencesDevice_iff.mpr (Or.inr ⟨⟨deviceId⟩, subscribed, rfl⟩)⟩
  | channel channelId registered => exact .channel channelId registered

theorem AttributedTables.not_mentioned_after_disconnect (finite : FiniteMapDirectory δ)
    (attributed : AttributedTables task) (cause : DisconnectCause) :
    ¬ MentionedFor (task.handleDeviceDisconnected deviceId cause) nodeId deviceId := by
  intro mentioned
  let turn : Turn := ⟨.central (.deviceDisconnected deviceId cause), Scenario.silent⟩
  have change : Change task turn task (task.handleDeviceDisconnected deviceId cause) :=
    .disconnect deviceId cause rfl rfl
  have consistent : AdmitsConsistently task turn :=
    admitsConsistently_of_looped fun device event => by cases event
  have resolved := attributed.change finite consistent change nodeId deviceId mentioned.associated
  rw [resolved_handleDeviceDisconnected, if_pos rfl] at resolved
  cases resolved

/-- In every state of a run over a finite map the sessions and channels of a node mention only devices
that are resolved to it, so no device is mentioned for two nodes, and when a device has disconnected neither
they nor the peer directory mention it. -/
theorem tables_mention_resolved {targetOs : TargetOs} {localNodeId : NodeId} {config : BleConfig}
    {restoredState : BleRestoredState} {initial : BleRuntimeTask δ} (finite : FiniteMapDirectory δ)
    (created : BleRuntimeTask.new targetOs localNodeId config restoredState = .ok initial)
    (distinct : (restoredState.centralDevices.map BleDevice.id).Nodup) (turns : List Turn)
    (run : RunOf restoredState.centralDevices turns) :
    (∀ nodeId deviceId, MentionedFor (exec BleRuntimeTask.step initial turns) nodeId deviceId →
      PeerDirectory.identityState (exec BleRuntimeTask.step initial turns).peers
        (BlePeerKey.ofDevice deviceId) = some (.resolved nodeId)) ∧
    (∀ nodeId other deviceId, MentionedFor (exec BleRuntimeTask.step initial turns) nodeId deviceId →
      MentionedFor (exec BleRuntimeTask.step initial turns) other deviceId → nodeId = other) ∧
    ∀ turn deviceId, Disconnects deviceId turn →
      (∀ nodeId, ¬ MentionedFor (exec BleRuntimeTask.step initial (turns ++ [turn])) nodeId
        deviceId) ∧
      PeerDirectory.identityState (exec BleRuntimeTask.step initial (turns ++ [turn])).peers
        (BlePeerKey.ofDevice deviceId) = none := by
  have attributed := attributedTables_run finite created distinct run
  have cleared : AttributedTables { exec BleRuntimeTask.step initial turns with outbox := [] } :=
    fun nodeId deviceId associated => attributed nodeId deviceId (associated_of_outbox.mp associated)
  refine ⟨?_, ?_, ?_⟩
  · intro nodeId deviceId mentioned
    exact resolvedNodeIdForDevice_eq_some.mp (attributed nodeId deviceId mentioned.associated)
  · intro nodeId other deviceId first second
    have resolved := attributed nodeId deviceId first.associated
    rw [attributed other deviceId second.associated, Option.some.injEq] at resolved
    exact resolved.symm
  · rintro turn deviceId ⟨cause, event⟩
    rw [exec_snoc, step_deviceDisconnected event]
    refine ⟨fun nodeId => cleared.not_mentioned_after_disconnect finite cause, ?_⟩
    rw [(handleDeviceDisconnected_eq _ deviceId cause).peers, PeerDirectory.identityState_remove,
      if_pos rfl]

theorem peer_mentioned_until_disconnect :
    PeerDirectory.identityState
        (Scenario.reachedFinite (Scenario.meet ⟨"peer"⟩ (Scenario.node 2) none)).peers
        (BlePeerKey.ofDevice ⟨"peer"⟩) = some (.resolved (Scenario.node 2)) ∧
      ¬ MentionedFor (Scenario.reachedFinite
        (Scenario.meet ⟨"peer"⟩ (Scenario.node 2) none ++ [Scenario.disconnect ⟨"peer"⟩]))
        (Scenario.node 2) ⟨"peer"⟩ := by
  have known : (Scenario.reachedFinite
      (Scenario.meet ⟨"peer"⟩ (Scenario.node 2) none)).sessions[Scenario.node 2]? =
        some (.gattWithFallback (.gattCentral ⟨"peer"⟩)) := by decide +kernel
  obtain ⟨resolved, -, gone⟩ := tables_mention_resolved finiteMapDirectory_finitePeerMap
    Scenario.new_launchedFinite (by simp) (Scenario.meet ⟨"peer"⟩ (Scenario.node 2) none)
    (Scenario.runOf_looped _ rfl)
  refine ⟨resolved _ _ (.session _ (.gattCentral ⟨"peer"⟩) known (by decide) rfl), ?_⟩
  exact (gone (Scenario.disconnect ⟨"peer"⟩) ⟨"peer"⟩ ⟨.linkLoss, rfl⟩).1 (Scenario.node 2)

end JqBle.Proof.LinkProfile
