import JqBle.Proof.LinkProfile.Fanout

/-!
# Subscriptions and the order of events

Subscriptions arrive on the peripheral role and identities on the central role. A subscription of a
device that is not resolved yet is dropped, and a disconnect takes the subscribers of other devices
along with the entry it removes; every other order of events keeps a subscriber with its node.
-/

namespace JqBle.Proof.LinkProfile
open Std Host Library Execution JqBle.LinkProfile

variable {δ : Type} [PeerDirectory δ BlePeerKey DiscoveredPeerHint]
  {start before after task : BleRuntimeTask δ} {turn : Turn} {deviceId : DeviceId}

/-! ## One turn -/

theorem resolved_step (task : BleRuntimeTask δ) (turn : Turn) {nodeId : NodeId}
    (resolved : (task.step turn).resolvedNodeIdForDevice deviceId = some nodeId) :
    task.resolvedNodeIdForDevice deviceId = some nodeId ∨ Admits task turn deviceId nodeId := by
  revert resolved
  refine step_induction (P := fun reached => reached.resolvedNodeIdForDevice deviceId = some nodeId →
    task.resolvedNodeIdForDevice deviceId = some nodeId ∨ Admits task turn deviceId nodeId) task turn
    Or.inl ?_
  intro before after change ih resolved
  rcases resolved_change change resolved with earlier | ⟨admits, -⟩
  · exact ih earlier
  · exact Or.inr admits

theorem resolved_of_admits {nodeId : NodeId} (admits : Admits task turn deviceId nodeId) :
    (task.step turn).resolvedNodeIdForDevice deviceId = some nodeId := by
  have admits : Admits { task with outbox := [] } turn deviceId nodeId := admits
  obtain ⟨called, -, handled⟩ := handle_of_admits admits
  obtain ⟨final, quiet, equal⟩ := tryUpgradeL2cap_eq (({ called with
    peers := PeerDirectory.resolve called.peers (BlePeerKey.ofDevice deviceId) nodeId
    }.installGattSession nodeId deviceId).emitLinkObserved nodeId (gattEndpoint deviceId))
    turn.backend nodeId deviceId
  have stepped : task.step turn = _ := handled.trans equal
  have resolved : final.resolvedNodeIdForDevice deviceId = some nodeId := by
    have peers : final.peers =
      PeerDirectory.resolve called.peers (BlePeerKey.ofDevice deviceId) nodeId := quiet.peers
    simp [resolvedNodeIdForDevice_eq_some, peers]
  rw [stepped]
  split
  · exact resolved
  · exact resolved

theorem not_admits_of_event {nodeId : NodeId} (admits : Admits task turn deviceId nodeId) :
    (∀ other subscribed, turn.event ≠ subscriptionEvent other subscribed) ∧
      ∀ other, ¬ Disconnects other turn := by
  obtain ⟨-, ⟨event, -⟩ | ⟨device, event, -⟩⟩ := admits
  all_goals
    rw [event]
    refine ⟨nofun, ?_⟩
    rintro other ⟨cause, disconnects⟩
    cases event.symm.trans disconnects

theorem subscribersOf_of_admits {nodeId : NodeId} (admits : Admits task turn deviceId nodeId)
    (other : NodeId) : subscribersOf (task.step turn) other = subscribersOf task other := by
  obtain ⟨subscribes, connected⟩ := not_admits_of_event admits
  refine step_induction (P := fun reached => subscribersOf reached other = subscribersOf task other)
    task turn rfl ?_
  intro before after change same
  rcases subscribersOf_change change other with
    kept | ⟨device, event, -⟩ | ⟨device, event, -⟩ | ⟨device, cause, event, -⟩
  · exact kept.trans same
  · exact absurd event (subscribes device true)
  · exact absurd event (subscribes device false)
  · exact absurd ⟨cause, event⟩ (connected device)

/-! ## Whole runs -/

variable {initial : BleRuntimeTask δ}

def SubscriptionsKept (initial : BleRuntimeTask δ) (turns : List Turn) : Prop :=
  ∀ deviceId nodeId, Subscribed deviceId turns →
    (exec BleRuntimeTask.step initial turns).resolvedNodeIdForDevice deviceId = some nodeId →
      ⟨deviceId⟩ ∈ subscribersOf (exec BleRuntimeTask.step initial turns) nodeId

/-- A device that is subscribed is resolved only to a node that it is recorded with, and no disconnect
of another device removes the entry of the node it is resolved to. -/
def KeepsSubscriptions (initial : BleRuntimeTask δ) (turns : List Turn) (turn : Turn) : Prop :=
  ∀ deviceId, Subscribed deviceId turns →
    (∀ nodeId, Admits (exec BleRuntimeTask.step initial turns) turn deviceId nodeId →
      ⟨deviceId⟩ ∈ subscribersOf (exec BleRuntimeTask.step initial turns) nodeId) ∧
    ∀ other, other ≠ deviceId → Disconnects other turn → ∀ (nodeId : NodeId) (sessions : PeerSessions),
      (exec BleRuntimeTask.step initial turns).resolvedNodeIdForDevice deviceId = some nodeId →
        (exec BleRuntimeTask.step initial turns).sessions[nodeId]? = some sessions →
          sessions.referencesDevice other = false

theorem SubscriptionsKept.snoc {turns : List Turn} (kept : SubscriptionsKept initial turns)
    (keeps : KeepsSubscriptions initial turns turn) : SubscriptionsKept initial (turns ++ [turn]) := by
  intro deviceId nodeId subscribed resolved
  rw [exec_snoc] at resolved ⊢
  rcases resolved_step _ turn resolved with earlier | admits
  · rcases since_snoc.mp subscribed with now | ⟨already, stays, connected⟩
    · exact mem_subscribersOf_of_subscription now earlier
    · refine mem_subscribersOf_step stays ?_ (kept deviceId nodeId already earlier)
      intro other disconnects sessions known
      have different : other ≠ deviceId := by
        rintro rfl
        exact connected disconnects
      exact (keeps deviceId already).2 other different disconnects nodeId sessions earlier known
  · rcases since_snoc.mp subscribed with now | ⟨already, -⟩
    · exact absurd now ((not_admits_of_event admits).1 deviceId true)
    · rw [subscribersOf_of_admits admits]
      exact (keeps deviceId already).1 nodeId admits

theorem SubscriptionsKept.keeps {turns : List Turn}
    (kept : SubscriptionsKept initial (turns ++ [turn])) : KeepsSubscriptions initial turns turn := by
  intro deviceId subscribed
  constructor
  · intro nodeId admits
    obtain ⟨subscribes, connected⟩ := not_admits_of_event admits
    have member := kept deviceId nodeId
      (since_snoc.mpr (Or.inr ⟨subscribed, subscribes deviceId false, connected deviceId⟩))
      (by rw [exec_snoc]; exact resolved_of_admits admits)
    rwa [exec_snoc, subscribersOf_of_admits admits] at member
  · rintro other different ⟨cause, event⟩ nodeId sessions resolved known
    have stepped : (exec BleRuntimeTask.step initial turns).step turn = _ :=
      step_deviceDisconnected event
    have stays : turn.event ≠ subscriptionEvent deviceId false ∧ ¬ Disconnects deviceId turn := by
      rw [event]
      refine ⟨by simp [subscriptionEvent], ?_⟩
      rintro ⟨otherCause, disconnects⟩
      cases event.symm.trans disconnects
      exact different rfl
    -- The device is still resolved, so its node's entry is still there.
    have member := kept deviceId nodeId (since_snoc.mpr (Or.inr ⟨subscribed, stays⟩)) (by
      rw [exec_snoc, stepped, resolved_handleDeviceDisconnected, if_neg different.symm]
      exact resolved)
    rw [exec_snoc, stepped, subscribersOf_disconnect] at member
    cases references : sessions.referencesDevice other with
    | false => rfl
    | true => simp [known, Option.filter, references] at member

/-- Along any turns no subscription is lost exactly when every subscribed device that is admitted is
recorded already and no disconnect removes the entry of another subscribed device. -/
theorem subscriptions_kept_iff (initial : BleRuntimeTask δ) (turns : List Turn) :
    (∀ before, before <+: turns → SubscriptionsKept initial before) ↔
      Preceded (KeepsSubscriptions initial) turns := by
  symm
  apply preceded_iff_forall_prefix
  · intro deviceId nodeId subscribed
    exact absurd subscribed not_since_nil
  · intro before turn first kept
    exact ⟨SubscriptionsKept.keeps, kept.snoc⟩

theorem subscription_of_resolved_peer_kept :
    ⟨⟨"peer"⟩⟩ ∈ subscribersOf (Scenario.reached .other greeted) (Scenario.node 2) := by
  have unsubscribed (turns : List Turn)
      (silent : ∀ turn ∈ turns, ∀ deviceId, turn.event ≠ subscriptionEvent deviceId true)
      (turn : Turn) : KeepsSubscriptions (Scenario.launched .other) turns turn := by
    intro deviceId subscribed
    refine absurd subscribed (not_since_of_forall ?_)
    exact fun turn member _ => silent turn member deviceId
  have keeps : Preceded (KeepsSubscriptions (Scenario.launched .other)) greeted := by
    change Preceded _ ((([] ++ [Scenario.discover ⟨"peer"⟩ (Scenario.node 2)]) ++
      [Scenario.connect ⟨"peer"⟩ (Scenario.node 2) none]) ++ [Scenario.subscription ⟨"peer"⟩ true])
    rw [preceded_snoc, preceded_snoc, preceded_snoc]
    refine ⟨⟨⟨preceded_nil, unsubscribed _ ?_ _⟩, unsubscribed _ ?_ _⟩, unsubscribed _ ?_ _⟩
    all_goals simp [Scenario.discover, Scenario.connect, subscriptionEvent]
  exact (subscriptions_kept_iff (Scenario.launched .other) greeted).mpr keeps greeted
    List.prefix_rfl ⟨"peer"⟩ (Scenario.node 2) (since_snoc.mpr (Or.inl rfl)) (by decide +kernel)

/-- The same subscription before the identity is read leaves no subscriber. -/
theorem early_subscription_lost :
    let early := Scenario.subscription ⟨"peer"⟩ true :: Scenario.meet ⟨"peer"⟩ (Scenario.node 2) none
    RunOf [] early ∧ Subscribed ⟨"peer"⟩ early ∧
      (Scenario.reached .other early).resolvedNodeIdForDevice ⟨"peer"⟩ = some (Scenario.node 2) ∧
      subscribersOf (Scenario.reached .other early) (Scenario.node 2) = [] ∧
      subscribersOf (Scenario.reached .other greeted) (Scenario.node 2) = [⟨⟨"peer"⟩⟩] ∧
      ¬ SubscriptionsKept (Scenario.launched .other) early := by
  intro early
  have subscribed : Subscribed ⟨"peer"⟩ early := by
    refine ⟨[], _, _, rfl, rfl, ?_⟩
    intro next member
    rcases List.mem_pair.mp member with rfl | rfl
    · exact ⟨by simp [Scenario.discover, subscriptionEvent], by rintro ⟨cause, ⟨⟩⟩⟩
    · exact ⟨by simp [Scenario.connect, subscriptionEvent], by rintro ⟨cause, ⟨⟩⟩⟩
  have resolved : (Scenario.reached .other early).resolvedNodeIdForDevice ⟨"peer"⟩ =
    some (Scenario.node 2) := by decide +kernel
  have lost : subscribersOf (Scenario.reached .other early) (Scenario.node 2) = [] := by
    decide +kernel
  refine ⟨Scenario.runOf_looped early rfl, subscribed, resolved, lost, by decide +kernel, ?_⟩
  intro kept
  have member := kept _ _ subscribed resolved
  rw [show exec BleRuntimeTask.step (Scenario.launched .other) early =
    Scenario.reached .other early from rfl, lost] at member
  cases member

end JqBle.Proof.LinkProfile
