import JqBle.Proof.LinkProfile.Subscriptions
import Mathlib.Data.List.Dedup
import Mathlib.Data.List.Perm.Subperm
import Mathlib.Data.Option.Basic

/-!
# Multicast to single subscribers

Away from Linux a notification is addressed to one subscriber. A multicast takes the first subscriber
of every receiver, or gives up when one of them has none. That reaches every receiver once where the
list has no repeats and these subscribers are still resolved to its nodes.
-/

namespace JqBle.Proof.LinkProfile
open Std Host Library Execution JqBle.LinkProfile

variable {δ : Type} {task : BleRuntimeTask δ} {receivers : List NodeId} {payload : List UInt8}

/-! ## The devices of a receiver list -/

def firstSubscriber (task : BleRuntimeTask δ) (receiver : NodeId) : Option DeviceId :=
  (subscribersOf task receiver).head?.map BleNotifySubscriber.deviceId

theorem firstSubscriber_eq (task : BleRuntimeTask δ) (receiver : NodeId) :
    (task.sessions[receiver]? >>= PeerSessions.notifySubscriberDeviceId) =
      firstSubscriber task receiver := by
  unfold firstSubscriber subscribersOf
  cases task.sessions[receiver]? with
  | none => rfl
  | some sessions => rfl

theorem map_some_of_mapM {deviceIds : List DeviceId}
    (found : receivers.mapM (firstSubscriber task) = some deviceIds) :
    deviceIds.map some = receivers.map (firstSubscriber task) := by
  induction receivers generalizing deviceIds with
  | nil =>
      obtain rfl : [] = deviceIds := Option.some.inj found
      rfl
  | cons receiver rest ih =>
      rw [List.mapM_cons] at found
      obtain ⟨first, firstFound, found⟩ := Option.bind_eq_some_iff.mp found
      obtain ⟨later, laterFound, equal⟩ := Option.bind_eq_some_iff.mp found
      obtain rfl : first :: later = deviceIds := Option.some.inj equal
      rw [List.map_cons, List.map_cons, firstFound, ih laterFound]

theorem mapM_subscribers_eq_none : receivers.mapM (firstSubscriber task) = none ↔
    ∃ receiver ∈ receivers, subscribersOf task receiver = [] := by
  induction receivers with
  | nil => simp
  | cons receiver rest ih =>
      rw [List.mapM_cons, List.exists_mem_cons_iff, ← ih]
      cases subscribers : subscribersOf task receiver with
      | nil => simp [firstSubscriber, subscribers]
      | cons subscriber others =>
          have first : firstSubscriber task receiver = some subscriber.deviceId := by
            simp [firstSubscriber, subscribers]
          rw [first]
          cases rest.mapM (firstSubscriber task) <;> simp

theorem notifySubscriberDeviceIds_of_nonempty (nonempty : receivers ≠ []) :
    task.notifySubscriberDeviceIds receivers = receivers.mapM (firstSubscriber task) := by
  unfold BleRuntimeTask.notifySubscriberDeviceIds
  rw [if_neg (by simpa using nonempty)]
  simp only [firstSubscriber_eq]

theorem notifySubscriberDeviceIds_eq_none :
    task.notifySubscriberDeviceIds receivers = none ↔
      receivers = [] ∨ ∃ receiver ∈ receivers, subscribersOf task receiver = [] := by
  by_cases empty : receivers = []
  · subst empty
    exact iff_of_true rfl (Or.inl rfl)
  · rw [notifySubscriberDeviceIds_of_nonempty empty, mapM_subscribers_eq_none, or_iff_right empty]

/-! ## The dispatch -/

def notification (payload : List UInt8) (receivers : List NodeId) (deviceId : DeviceId) : Effect :=
  .notifyCharacteristic deviceId jacquardP2cCharUuid payload receivers

theorem notification_injective : Function.Injective (notification payload receivers) := by
  intro deviceId other same
  cases same
  rfl

theorem foldl_notify (targets : List DeviceId) (task : BleRuntimeTask δ) :
    targets.foldl (fun task deviceId => task.perform
        (.notifyCharacteristic deviceId jacquardP2cCharUuid payload receivers)) task =
      { task with outbox := task.outbox ++ targets.map (notification payload receivers) } := by
  induction targets generalizing task with
  | nil => simp
  | cons deviceId rest ih =>
      rw [List.foldl_cons, ih]
      simp [BleRuntimeTask.perform, notification]

/-- The devices that a multicast to the receivers notifies where notifications are addressed. -/
def multicastTargets (task : BleRuntimeTask δ) (receivers : List NodeId) : List DeviceId :=
  (task.notifySubscriberDeviceIds receivers).getD []

theorem dispatchMulticastCommand_eq (addressed : task.targetOs ≠ .linux) :
    task.dispatchMulticastCommand gattNotifyFanoutEndpoint receivers payload =
      { task with outbox := task.outbox ++
          (multicastTargets task receivers).map (notification payload receivers) } := by
  unfold BleRuntimeTask.dispatchMulticastCommand multicastTargets
  rw [if_neg (not_not_intro rfl)]
  cases task.notifySubscriberDeviceIds receivers with
  | none => simp
  | some deviceIds =>
      have platform : platformNotifyDeviceIds task.targetOs task.sessions receivers deviceIds =
          some deviceIds := by
        unfold platformNotifyDeviceIds
        cases os : task.targetOs with
        | linux => exact absurd os addressed
        | android => rfl
        | other => rfl
      simp only [platform, foldl_notify, Option.getD_some]

theorem multicastTargets_eq_nil : multicastTargets task receivers = [] ↔
    receivers = [] ∨ ∃ receiver ∈ receivers, subscribersOf task receiver = [] := by
  rw [← notifySubscriberDeviceIds_eq_none]
  unfold multicastTargets
  cases found : task.notifySubscriberDeviceIds receivers with
  | none => simp
  | some deviceIds =>
      have nonempty : receivers ≠ [] := by
        rintro rfl
        cases found
      rw [notifySubscriberDeviceIds_of_nonempty nonempty] at found
      have mapped := map_some_of_mapM found
      simp only [Option.getD_some, reduceCtorEq, iff_false]
      rintro rfl
      exact nonempty (List.map_eq_nil_iff.mp mapped.symm)

theorem map_some_multicastTargets (notified : multicastTargets task receivers ≠ []) :
    (multicastTargets task receivers).map some = receivers.map (firstSubscriber task) := by
  have nonempty : receivers ≠ [] := fun empty =>
    notified (multicastTargets_eq_nil.mpr (Or.inl empty))
  unfold multicastTargets at notified ⊢
  rw [notifySubscriberDeviceIds_of_nonempty nonempty] at notified ⊢
  cases found : receivers.mapM (firstSubscriber task) with
  | none => simp [found] at notified
  | some deviceIds => exact map_some_of_mapM found

/-! ## Where the devices are resolved to -/

variable [PeerDirectory δ BlePeerKey DiscoveredPeerHint]

/-- The node that the first recorded subscriber of the receiver is resolved to. -/
def subscriberNode (task : BleRuntimeTask δ) (receiver : NodeId) : Option NodeId :=
  (firstSubscriber task receiver).bind task.resolvedNodeIdForDevice

theorem map_resolved_multicastTargets (notified : multicastTargets task receivers ≠ []) :
    (multicastTargets task receivers).map task.resolvedNodeIdForDevice =
      receivers.map (subscriberNode task) := by
  have mapped := map_some_multicastTargets notified
  calc
    (multicastTargets task receivers).map task.resolvedNodeIdForDevice
    _ = ((multicastTargets task receivers).map some).map
          (fun deviceId => deviceId.bind task.resolvedNodeIdForDevice) := by
        rw [List.map_map]
        rfl
    _ = receivers.map (subscriberNode task) := by
        rw [mapped, List.map_map]
        rfl

/-- The receivers are distinct, and their first recorded subscribers are resolved to receivers, no two
to the same one, and recorded for no other node. -/
structure Addressable (task : BleRuntimeTask δ) (receivers : List NodeId) : Prop where
  distinct : receivers.Nodup
  resolved : ∀ receiver ∈ receivers, ∃ nodeId ∈ receivers, subscriberNode task receiver = some nodeId
  apart : ∀ receiver ∈ receivers, ∀ other ∈ receivers,
    subscriberNode task receiver = subscriberNode task other → receiver = other
  recorded : ∀ receiver ∈ receivers, ∀ deviceId, firstSubscriber task receiver = some deviceId →
    ∀ nodeId, ⟨deviceId⟩ ∈ subscribersOf task nodeId → nodeId ∈ receivers

/-- The multicast issues no notification, exactly when it has no receivers or one without a
subscriber, or one for every distinct receiver, to a device resolved to it, and none to a device of
another node. -/
def MulticastExact (task : BleRuntimeTask δ) (receivers : List NodeId) (payload : List UInt8) :
    Prop :=
  ∃ targets,
    task.dispatchMulticastCommand gattNotifyFanoutEndpoint receivers payload =
      { task with outbox := task.outbox ++ targets.map (notification payload receivers) } ∧
    (targets = [] ↔ receivers = [] ∨ ∃ receiver ∈ receivers, subscribersOf task receiver = []) ∧
    (targets ≠ [] →
      (targets.map task.resolvedNodeIdForDevice).Perm (receivers.dedup.map some) ∧
      ∀ deviceId ∈ targets, ∀ nodeId,
        task.resolvedNodeIdForDevice deviceId = some nodeId ∨
          ⟨deviceId⟩ ∈ subscribersOf task nodeId → nodeId ∈ receivers)

theorem Addressable.perm (addressable : Addressable task receivers) :
    (receivers.map (subscriberNode task)).Perm (receivers.dedup.map some) := by
  rw [addressable.distinct.dedup]
  have distinct : (receivers.map (subscriberNode task)).Nodup :=
    addressable.distinct.map_on addressable.apart
  have within : receivers.map (subscriberNode task) ⊆ receivers.map some := by
    intro node member
    obtain ⟨receiver, listed, rfl⟩ := List.mem_map.mp member
    obtain ⟨nodeId, resolved, same⟩ := addressable.resolved receiver listed
    rw [same]
    exact List.mem_map_of_mem resolved
  exact (List.subperm_of_subset distinct within).perm_of_length_le (by simp)

theorem MulticastExact.of_addressable (addressed : task.targetOs ≠ .linux)
    (condition : Addressable task receivers ∨
      ∃ receiver ∈ receivers, subscribersOf task receiver = []) :
    MulticastExact task receivers payload := by
  refine ⟨multicastTargets task receivers, dispatchMulticastCommand_eq addressed,
    multicastTargets_eq_nil, ?_⟩
  intro notified
  obtain addressable : Addressable task receivers :=
    condition.resolve_right fun silent => notified (multicastTargets_eq_nil.mpr (Or.inr silent))
  have perm := addressable.perm
  rw [← map_resolved_multicastTargets notified] at perm
  refine ⟨perm, ?_⟩
  rintro deviceId target nodeId (resolved | recorded)
  · have member := perm.subset (List.mem_map_of_mem target)
    rw [resolved] at member
    simpa using member
  · have member := List.mem_map_of_mem (f := some) target
    rw [map_some_multicastTargets notified] at member
    obtain ⟨receiver, listed, first⟩ := List.mem_map.mp member
    exact addressable.recorded receiver listed deviceId first nodeId recorded

theorem MulticastExact.addressable (addressed : task.targetOs ≠ .linux)
    (exact : MulticastExact task receivers payload) :
    Addressable task receivers ∨ ∃ receiver ∈ receivers, subscribersOf task receiver = [] := by
  obtain ⟨targets, dispatched, silent, once⟩ := exact
  have same : targets = multicastTargets task receivers := by
    have outbox := congrArg BleRuntimeTask.outbox
      (dispatched.symm.trans (dispatchMulticastCommand_eq addressed))
    exact notification_injective.list_map (List.append_cancel_left outbox)
  subst same
  by_cases notified : multicastTargets task receivers = []
  · rcases silent.mp notified with rfl | unsubscribed
    · exact Or.inl ⟨List.nodup_nil, by simp, by simp, by simp⟩
    · exact Or.inr unsubscribed
  · left
    obtain ⟨perm, belongs⟩ := once notified
    rw [map_resolved_multicastTargets notified] at perm
    have distinct : receivers.Nodup := by
      have length := perm.length_eq
      rw [List.length_map, List.length_map] at length
      rw [← (List.dedup_sublist receivers).eq_of_length length.symm]
      exact List.nodup_dedup receivers
    have apart : (receivers.map (subscriberNode task)).Nodup :=
      perm.nodup_iff.mpr ((List.nodup_dedup receivers).map (Option.some_injective NodeId))
    refine ⟨distinct, ?_, ?_, ?_⟩
    · intro receiver listed
      have member := perm.subset (List.mem_map_of_mem listed)
      obtain ⟨nodeId, within, equal⟩ := List.mem_map.mp member
      exact ⟨nodeId, List.mem_dedup.mp within, equal.symm⟩
    · exact fun receiver listed other otherListed => List.inj_on_of_nodup_map apart listed otherListed
    · intro receiver listed deviceId first nodeId recorded
      have target : some deviceId ∈ (multicastTargets task receivers).map some := by
        rw [map_some_multicastTargets notified, ← first]
        exact List.mem_map_of_mem listed
      exact belongs deviceId (by simpa using target) nodeId (Or.inr recorded)

variable {targetOs : TargetOs} {localNodeId : NodeId} {config : BleConfig}
  {restoredState : BleRestoredState} {initial : BleRuntimeTask δ}

/-- In every reachable state away from Linux a multicast is exact just when its receivers are
distinct and addressable or one of them has no subscriber. A state inside a batch is the state after a
turn that dispatches the commands before it, so it is among these. -/
theorem multicast_exact_iff
    (created : BleRuntimeTask.new targetOs localNodeId config restoredState = .ok initial)
    (addressed : targetOs ≠ .linux) (turns : List Turn) (receivers : List NodeId)
    (payload : List UInt8) :
    MulticastExact (exec BleRuntimeTask.step initial turns) receivers payload ↔
      Addressable (exec BleRuntimeTask.step initial turns) receivers ∨ ∃ receiver ∈ receivers,
        subscribersOf (exec BleRuntimeTask.step initial turns) receiver = [] := by
  have addressed : (exec BleRuntimeTask.step initial turns).targetOs ≠ .linux := by
    rw [targetOs_run, eq_launch_of_new created]
    exact addressed
  exact ⟨MulticastExact.addressable addressed, MulticastExact.of_addressable addressed⟩

theorem multicast_exact_greeted :
    MulticastExact (Scenario.reached .other greeted) [Scenario.node 2] [7] := by
  have known : subscriberNode (Scenario.reached .other greeted) (Scenario.node 2) =
    some (Scenario.node 2) := by decide +kernel
  have addressable : Addressable (Scenario.reached .other greeted) [Scenario.node 2] := by
    have all : allSubscribers (Scenario.reached .other greeted).sessions = [Scenario.node 2] := by
      decide +kernel
    refine ⟨List.nodup_singleton _, by simpa using known, by simp, ?_⟩
    intro receiver listed deviceId first nodeId recorded
    rw [← all, mem_allSubscribers]
    exact List.ne_nil_of_mem recorded
  exact (multicast_exact_iff (Scenario.new_launched .other) (by decide) greeted [Scenario.node 2]
    [7]).mpr (Or.inl addressable)

theorem repeated_receiver_notified_twice :
    let task := Scenario.reached .other greeted
    RunOf [] greeted ∧
      (task.dispatchMulticastCommand gattNotifyFanoutEndpoint [Scenario.node 2, Scenario.node 2]
        [7]).outbox = task.outbox ++ [
          .notifyCharacteristic ⟨"peer"⟩ jacquardP2cCharUuid [7] [Scenario.node 2, Scenario.node 2],
          .notifyCharacteristic ⟨"peer"⟩ jacquardP2cCharUuid [7]
            [Scenario.node 2, Scenario.node 2]] ∧
      ¬ MulticastExact task [Scenario.node 2, Scenario.node 2] [7] := by
  intro task
  refine ⟨Scenario.runOf_looped greeted rfl, by decide +kernel, ?_⟩
  rintro ⟨targets, dispatched, silent, once⟩
  have twice : targets = [⟨"peer"⟩, ⟨"peer"⟩] := by
    have outbox := congrArg BleRuntimeTask.outbox
      (dispatched.symm.trans (dispatchMulticastCommand_eq (by decide +kernel)))
    rw [notification_injective.list_map (List.append_cancel_left outbox)]
    decide +kernel
  subst twice
  have length := (once (by simp)).1.length_eq
  revert length
  decide +kernel

end JqBle.Proof.LinkProfile
