import JqBle.Proof.LinkProfile.Dispatch

/-!
# Falling back from L2CAP to GATT

After a failed L2CAP send the dispatch closes the channel and looks the device up again. That reaches
the GATT fallback of the same entry only if closing the channel downgrades that entry and the fallback
is on the device that is looked up.
-/

namespace JqBle.Proof.LinkProfile
open Std Host Library Execution JqBle.LinkProfile

variable {δ : Type} {task : BleRuntimeTask δ} {deviceId fallback : DeviceId} {nodeId : NodeId}
  {payload : List UInt8} {accepts : Nat → Bool} {channelId : BleChannelId} {sessions : PeerSessions}

def isWrite : Effect → Bool
  | .writeCharacteristic .. => true
  | _ => false

/-- The payload is written once, to the C2P characteristic of the device. -/
def WritesOnce (deviceId : DeviceId) (payload : List UInt8) (before after : BleRuntimeTask δ) : Prop :=
  ∃ effects, after.outbox = before.outbox ++ effects ∧
    effects.filter isWrite = [.writeCharacteristic deviceId jacquardC2pCharUuid payload]

/-- The fallback is on the device, and the channel is registered for the node, or for an earlier one
whose entry falls back from it to the same device. -/
def FallbackReached (task : BleRuntimeTask δ) (nodeId : NodeId) (channelId : BleChannelId)
    (deviceId fallback : DeviceId) : Prop :=
  fallback = deviceId ∧ ∃ channel, task.l2capChannels[channelId]? = some channel ∧
    (channel.nodeId = nodeId ∨
      compare channel.nodeId nodeId = .lt ∧ ∃ sessions held,
        task.sessions[channel.nodeId]? = some sessions ∧ sessions.state =
          .l2capPreferred (.l2cap held channelId) (some (.gattCentral deviceId)))

/-! ## The two iterations -/

theorem sendViaSession_broken {accepted : Bool}
    (broken : task.l2capChannels[channelId]? = none ∨ accepted = false) :
    task.sendViaSession accepted (.l2cap deviceId channelId) payload = (task, some channelId) := by
  have failed : ¬ (task.l2capChannels.contains channelId && accepted) = true := by
    rcases broken with missing | rejected
    · rw [← ExtTreeMap.isSome_getElem?_eq_contains, missing]
      simp
    · simp [rejected]
  simp only [BleRuntimeTask.sendViaSession, if_neg failed]

theorem dispatchUnicastCommand_of_broken {endpoint : LinkEndpoint}
    (located : deviceIdFromEndpoint endpoint = some deviceId)
    (search : task.egressSessionForDevice deviceId = some (.l2cap deviceId channelId))
    (broken : task.l2capChannels[channelId]? = none ∨ accepts 0 = false) :
    task.dispatchUnicastCommand accepts endpoint payload =
      BleRuntimeTask.dispatchUnicastLoop accepts deviceId payload (task.sessions.size + 1) 1
        (some channelId) (task.handleL2capChannelClosed channelId) := by
  unfold BleRuntimeTask.dispatchUnicastCommand
  rw [located]
  dsimp only
  rw [BleRuntimeTask.dispatchUnicastLoop, search]
  simp only [sendViaSession_broken broken]
  rfl

theorem dispatchUnicastLoop_of_closed {fuel attempt : Nat}
    (search : task.egressSessionForDevice deviceId = none ∨
      task.egressSessionForDevice deviceId = some (.l2cap deviceId channelId))
    (closed : task.l2capChannels[channelId]? = none) :
    BleRuntimeTask.dispatchUnicastLoop accepts deviceId payload (fuel + 1) attempt (some channelId)
      task = task := by
  rw [BleRuntimeTask.dispatchUnicastLoop]
  rcases search with none | again
  · rw [none]
  · rw [again]
    simp only [sendViaSession_broken (Or.inl closed), if_true]

theorem closed_unregistered : (task.handleL2capChannelClosed channelId).l2capChannels[channelId]? =
    none := by
  rw [l2capChannels_handleL2capChannelClosed, if_pos rfl]

theorem outbox_closed (task : BleRuntimeTask δ) (channelId : BleChannelId) :
    ∃ announced, (task.handleL2capChannelClosed channelId).outbox = task.outbox ++ announced ∧
      announced.filter isWrite = [] := by
  rcases handleL2capChannelClosed_cases task channelId with
    ⟨-, same⟩ | ⟨channel, -, -, -, -, -, -, announces⟩
  · exact ⟨[], by rw [same, List.append_nil], rfl⟩
  · refine ⟨_, announces, ?_⟩
    rw [List.filter_eq_nil_iff]
    intro effect member
    obtain ⟨nodeId, session, rfl⟩ := observed_of_mem_closeAnnouncement member
    simp [isWrite]

/-- The state of a well-formed entry that prefers L2CAP and holds a GATT session. -/
theorem state_of_fallback (formed : WellFormed sessions)
    (egress : sessions.egressForDevice deviceId = some (.l2cap deviceId channelId))
    (holds : .gattCentral fallback ∈ sessions.iterSessions) :
    sessions.state = .l2capPreferred (.l2cap deviceId channelId) (some (.gattCentral fallback)) := by
  have preferred := (Option.filter_eq_some_iff.mp egress).1
  obtain ⟨held, state⟩ := preferredEgress_eq_some_l2cap formed preferred
  have member : held = some (.gattCentral fallback) := by
    simpa [PeerSessions.iterSessions, state] using holds
  rw [state, member]

theorem sessions_closed_of_registered {channel : ActiveL2capChannel} {held : DeviceId}
    (registered : task.l2capChannels[channelId]? = some channel)
    (known : task.sessions[channel.nodeId]? = some sessions)
    (state : sessions.state = .l2capPreferred (.l2cap held channelId) (some (.gattCentral fallback))) :
    (task.handleL2capChannelClosed channelId).sessions = task.sessions.insert channel.nodeId
      { sessions with state := .gattOnly (.gattCentral fallback) (.gattCentral fallback) } := by
  rcases handleL2capChannelClosed_cases task channelId with ⟨missing, -⟩ | ⟨other, also, -, closed, -⟩
  · cases missing.symm.trans registered
  · cases registered.symm.trans also
    rw [closed, known]
    simp [PeerSessions.downgradeL2cap, state]

theorem writesOnce_of_fallbackReached {endpoint : LinkEndpoint}
    (located : deviceIdFromEndpoint endpoint = some deviceId)
    (found : EntryMap.findEntry task.sessions (fun sessions => sessions.egressForDevice deviceId) =
      some (nodeId, sessions))
    (state : sessions.state = .l2capPreferred (.l2cap deviceId channelId) (some (.gattCentral fallback)))
    (egress : sessions.egressForDevice deviceId = some (.l2cap deviceId channelId))
    (broken : task.l2capChannels[channelId]? = none ∨ accepts 0 = false)
    (reached : FallbackReached task nodeId channelId deviceId fallback) :
    WritesOnce fallback payload task (task.dispatchUnicastCommand accepts endpoint payload) := by
  obtain ⟨rfl, channel, registered, place⟩ := reached
  have search : task.egressSessionForDevice fallback = some (.l2cap fallback channelId) :=
    (EntryMap.findValue_of_findEntry found).trans egress
  have known := (EntryMap.split_of_findEntry found).1
  obtain ⟨closing, held, closingKnown, closingState⟩ : ∃ closing held,
      task.sessions[channel.nodeId]? = some closing ∧
        closing.state = .l2capPreferred (.l2cap held channelId) (some (.gattCentral fallback)) := by
    rcases place with same | ⟨-, falling⟩
    · exact ⟨sessions, fallback, by rwa [same], state⟩
    · exact falling
  -- The entry that falls back is the first one on the device now.
  have again : (task.handleL2capChannelClosed channelId).egressSessionForDevice fallback =
      some (.gattCentral fallback) := by
    have central : PeerSessions.egressForDevice { closing with
        state := .gattOnly (.gattCentral fallback) (.gattCentral fallback) } fallback =
          some (.gattCentral fallback) := by
      simp [PeerSessions.egressForDevice, PeerSessions.preferredEgress, BleSession.deviceId]
    unfold BleRuntimeTask.egressSessionForDevice
    rw [sessions_closed_of_registered registered closingKnown closingState,
      EntryMap.findValue_of_findEntry (EntryMap.findEntry_insert found (place.imp_right And.left)
        (by simp [central])), central]
  obtain ⟨announced, outbox, silent⟩ := outbox_closed task channelId
  rw [dispatchUnicastCommand_of_broken located search broken, BleRuntimeTask.dispatchUnicastLoop,
    again]
  refine ⟨announced ++ [.writeCharacteristic fallback jacquardC2pCharUuid payload], ?_, ?_⟩
  · simp only [BleRuntimeTask.sendViaSession, BleRuntimeTask.perform, outbox, List.append_assoc]
  · simp [silent, isWrite]

theorem not_writesOnce_of_ended {endpoint : LinkEndpoint}
    (located : deviceIdFromEndpoint endpoint = some deviceId)
    (search : task.egressSessionForDevice deviceId = some (.l2cap deviceId channelId))
    (broken : task.l2capChannels[channelId]? = none ∨ accepts 0 = false)
    (ended : (task.handleL2capChannelClosed channelId).egressSessionForDevice deviceId = none ∨
      (task.handleL2capChannelClosed channelId).egressSessionForDevice deviceId =
        some (.l2cap deviceId channelId)) :
    ¬ WritesOnce fallback payload task (task.dispatchUnicastCommand accepts endpoint payload) := by
  rintro ⟨effects, outbox, written⟩
  obtain ⟨announced, closes, silent⟩ := outbox_closed task channelId
  rw [dispatchUnicastCommand_of_broken located search broken,
    dispatchUnicastLoop_of_closed ended closed_unregistered, closes] at outbox
  rw [← List.append_cancel_left outbox, silent] at written
  cases written

theorem fallback_of_writesOnce {endpoint : LinkEndpoint}
    (located : deviceIdFromEndpoint endpoint = some deviceId)
    (written : WritesOnce fallback payload task
      (task.dispatchUnicastCommand accepts endpoint payload)) : fallback = deviceId := by
  obtain ⟨effects, outbox, writes⟩ := written
  have anywhere : (fun _ : BleRuntimeTask δ => True) task := trivial
  obtain ⟨dispatched, appended, announced, path, split, controls, sources⟩ :=
    dispatchUnicastCommand_effects (P := fun _ => True) (fun _ _ _ => trivial) located accepts payload
      anywhere
  rw [appended] at outbox
  obtain rfl := List.append_cancel_left outbox
  have member : Effect.writeCharacteristic fallback jacquardC2pCharUuid payload ∈ dispatched :=
    (List.mem_filter.mp (writes ▸ List.mem_singleton_self _)).1
  rw [split] at member
  rcases List.mem_append.mp member with control | sent
  · obtain ⟨event, same⟩ := controls _ control
    cases same
  · obtain ⟨_, -, same | ⟨_, _, -, -, same⟩⟩ := sources _ (Option.mem_toList.mp sent)
    · cases same
      rfl
    · cases same

theorem fallbackReached_of_writesOnce {endpoint : LinkEndpoint} (fallbacks : GattFallbacks task)
    (located : deviceIdFromEndpoint endpoint = some deviceId)
    (found : EntryMap.findEntry task.sessions (fun sessions => sessions.egressForDevice deviceId) =
      some (nodeId, sessions))
    (egress : sessions.egressForDevice deviceId = some (.l2cap deviceId channelId))
    (broken : task.l2capChannels[channelId]? = none ∨ accepts 0 = false)
    (written : WritesOnce fallback payload task
      (task.dispatchUnicastCommand accepts endpoint payload)) :
    FallbackReached task nodeId channelId deviceId fallback := by
  refine ⟨fallback_of_writesOnce located written, ?_⟩
  have search : task.egressSessionForDevice deviceId = some (.l2cap deviceId channelId) :=
    (EntryMap.findValue_of_findEntry found).trans egress
  -- Where the entry is still the first one on the device, its channel is gone and the loop ends.
  have notFound (still : EntryMap.findEntry (task.handleL2capChannelClosed channelId).sessions
      (fun sessions => sessions.egressForDevice deviceId) = some (nodeId, sessions)) : False :=
    not_writesOnce_of_ended located search broken
      (Or.inr ((EntryMap.findValue_of_findEntry still).trans egress)) written
  rcases handleL2capChannelClosed_sessions task channelId with
    same | ⟨channel, closing, held, left, registered, known, state, replaced⟩
  · exact (notFound (by rwa [same])).elim
  · refine ⟨channel, registered, ?_⟩
    by_cases own : channel.nodeId = nodeId
    · exact Or.inl own
    · by_contra elsewhere
      apply notFound
      rw [replaced]
      apply EntryMap.findEntry_insert_of_missed found own
      intro earlier
      cases left with
      | none => rfl
      | some session =>
          have gatt := fallbacks channel.nodeId closing _ session known state
          cases session with
          | l2cap other otherChannel => cases gatt
          | gattCentral other =>
              have different : other ≠ deviceId := by
                rintro rfl
                exact elsewhere (Or.inr ⟨earlier, closing, held, known, state⟩)
              simp [PeerSessions.egressForDevice, PeerSessions.preferredEgress,
                BleSession.deviceId, different]

/-- In every state of every run a broken L2CAP path falls back to GATT exactly if the fallback is on the
addressed device and closing the rejected channel downgrades an entry to it. -/
theorem l2cap_falls_back_iff [PeerDirectory δ BlePeerKey DiscoveredPeerHint] {targetOs : TargetOs}
    {localNodeId : NodeId} {config : BleConfig} {restoredState : BleRestoredState}
    {initial : BleRuntimeTask δ}
    (created : BleRuntimeTask.new targetOs localNodeId config restoredState = .ok initial)
    (turns : List Turn) {endpoint : LinkEndpoint}
    (located : deviceIdFromEndpoint endpoint = some deviceId)
    (found : EntryMap.findEntry (exec BleRuntimeTask.step initial turns).sessions
      (fun sessions => sessions.egressForDevice deviceId) = some (nodeId, sessions))
    (egress : sessions.egressForDevice deviceId = some (.l2cap deviceId channelId))
    (holds : .gattCentral fallback ∈ sessions.iterSessions)
    (broken : (exec BleRuntimeTask.step initial turns).l2capChannels[channelId]? = none ∨
      accepts 0 = false) :
    FallbackReached (exec BleRuntimeTask.step initial turns) nodeId channelId deviceId fallback ↔
      WritesOnce fallback payload (exec BleRuntimeTask.step initial turns)
        ((exec BleRuntimeTask.step initial turns).dispatchUnicastCommand accepts endpoint
          payload) := by
  have known := (EntryMap.split_of_findEntry found).1
  have formed := (dispatching_run created turns).ids.formed
  have state := state_of_fallback (formed nodeId sessions known) egress holds
  exact ⟨writesOnce_of_fallbackReached located found state egress broken,
    fallbackReached_of_writesOnce (gattFallbacks_of_wellFormed formed) located found egress broken⟩

namespace Scenario

def upgraded : List Turn := meet ⟨"peer"⟩ (node 2) (some ⟨129⟩)

def upgradedSessions : PeerSessions :=
  .l2capPreferred (.l2cap ⟨"peer"⟩ ⟨1⟩) (some (.gattCentral ⟨"peer"⟩))

end Scenario

open Scenario

theorem l2cap_falls_back_upgraded :
    WritesOnce ⟨"peer"⟩ [7] (reached .other upgraded)
      ((reached .other upgraded).dispatchUnicastCommand (fun _ => false) (l2capEndpoint ⟨"peer"⟩)
        [7]) := by
  have found : EntryMap.findEntry (exec BleRuntimeTask.step (launched .other) upgraded).sessions
      (fun sessions => sessions.egressForDevice ⟨"peer"⟩) = some (node 2, upgradedSessions) := by
    decide +kernel
  have egress : upgradedSessions.egressForDevice ⟨"peer"⟩ = some (.l2cap ⟨"peer"⟩ ⟨1⟩) := by
    decide
  have reaches : FallbackReached (exec BleRuntimeTask.step (launched .other) upgraded) (node 2) ⟨1⟩
      ⟨"peer"⟩ ⟨"peer"⟩ := ⟨rfl, ⟨node 2, ⟨"peer"⟩⟩, by decide +kernel, Or.inl rfl⟩
  exact (l2cap_falls_back_iff (new_launched .other) upgraded
    (deviceIdFromEndpoint_l2capEndpoint ⟨"peer"⟩) found egress (by decide) (Or.inr rfl)).mp reaches

/-- The channel of the session is gone with the disconnected device, and the dispatch returns without
a write although the entry holds a GATT session of the addressed device. -/
theorem l2cap_fallback_missed :
    let task := reached .other leftBehind
    let sessions : PeerSessions :=
      .l2capPreferred (.l2cap ⟨"new"⟩ ⟨1⟩) (some (.gattCentral ⟨"new"⟩))
    RunOf [] leftBehind ∧
      EntryMap.findEntry task.sessions (fun sessions => sessions.egressForDevice ⟨"new"⟩) =
        some (node 2, sessions) ∧
      sessions.egressForDevice ⟨"new"⟩ = some (.l2cap ⟨"new"⟩ ⟨1⟩) ∧
      .gattCentral ⟨"new"⟩ ∈ sessions.iterSessions ∧
      task.l2capChannels[(⟨1⟩ : BleChannelId)]? = none ∧
      ¬ WritesOnce ⟨"new"⟩ [7] task
        (task.dispatchUnicastCommand (fun _ => true) (l2capEndpoint ⟨"new"⟩) [7]) := by
  intro task sessions
  refine ⟨runOf_looped leftBehind rfl, by decide +kernel, by decide, by decide, by decide +kernel, ?_⟩
  rintro ⟨effects, outbox, written⟩
  have silent : (task.dispatchUnicastCommand (fun _ => true) (l2capEndpoint ⟨"new"⟩) [7]).outbox =
    task.outbox := by decide +kernel
  rw [silent, eq_comm, List.append_right_eq_self] at outbox
  rw [outbox] at written
  cases written

end JqBle.Proof.LinkProfile
