import JqBle.Proof.LinkProfile.Fallback
import JqBle.Proof.LinkProfile.Notify
import Mathlib.Data.List.Forall2

/-!
# What a dispatched batch hands to the radio

The handler of a batch takes its commands one after the other. Each unicast command sends at most once,
on a path of the device it is addressed to, and a session on that device is held, which only its
admission can have brought. Nothing is reordered.
-/

namespace JqBle.Proof.LinkProfile
open Std Host Library Execution JqBle.LinkProfile

variable {δ : Type} {task reached : BleRuntimeTask δ} {deviceId : DeviceId} {payload : List UInt8}
  {accepts : Nat → Bool}

/-! ## One command -/

def addressed (batch : List BleOutboundCommand) : List (DeviceId × List UInt8) :=
  batch.filterMap fun command =>
    match command.intent with
    | .unicast endpoint => (deviceIdFromEndpoint endpoint).map fun deviceId =>
        (deviceId, command.payload)
    | .multicast .. | .broadcast _ => none

theorem dispatchMulticastCommand_outbox (task : BleRuntimeTask δ) (endpoint : LinkEndpoint)
    (receivers : List NodeId) (payload : List UInt8) :
    ∃ effects, task.dispatchMulticastCommand endpoint receivers payload =
        { task with outbox := task.outbox ++ effects } ∧ effects.filter isRadioPath = [] := by
  have still : ∃ effects, task = { task with outbox := task.outbox ++ effects } ∧
      effects.filter isRadioPath = [] := ⟨[], by simp, rfl⟩
  unfold BleRuntimeTask.dispatchMulticastCommand
  split
  · exact still
  · split
    · exact still
    · split
      · exact still
      · rename_i notifyDeviceIds _
        refine ⟨_, foldl_notify notifyDeviceIds task, ?_⟩
        rw [List.filter_eq_nil_iff]
        intro effect member
        obtain ⟨deviceId, -, rfl⟩ := List.mem_map.mp member
        exact Bool.false_ne_true

theorem filter_closeAnnouncement (task : BleRuntimeTask δ) (channelId : BleChannelId) :
    (closeAnnouncement task channelId).filter isRadioPath = [] := by
  rw [List.filter_eq_nil_iff]
  intro effect member
  obtain ⟨nodeId, session, rfl⟩ := observed_of_mem_closeAnnouncement member
  exact Bool.false_ne_true

/-! ## A batch -/

/-- The effect sends the payload on a path of its device, for which a session is held. -/
structure OnHeldPath (task : BleRuntimeTask δ) (effect : Effect) (unicast : DeviceId × List UInt8) :
    Prop where
  path : OnPathOf task unicast.1 unicast.2 effect
  held : ∃ nodeId, Referenced task nodeId unicast.1

/-- What holds of the states inside the dispatch of a batch from `task`. -/
structure BatchState (task reached : BleRuntimeTask δ) : Prop where
  dispatching : Dispatching task reached
  held : ∀ nodeId deviceId, Referenced reached nodeId deviceId → Referenced task nodeId deviceId

theorem BatchState.of_outbox (state : BatchState task reached) (outbox : List Effect) :
    BatchState task { reached with outbox := outbox } where
  dispatching := ⟨⟨state.dispatching.ids.formed, state.dispatching.ids.bounded,
    state.dispatching.ids.registered, state.dispatching.ids.preferred, state.dispatching.ids.own,
    state.dispatching.ids.latest⟩, state.dispatching.own, state.dispatching.channels⟩
  held := state.held

theorem BatchState.sent (state : BatchState task reached) {session : BleSession} {effect : Effect}
    (search : reached.egressSessionForDevice deviceId = some session)
    (sent : SentFrom reached deviceId payload effect) :
    isRadioPath effect = true ∧ OnHeldPath task effect (deviceId, payload) := by
  have path : isRadioPath effect = true := by
    rcases sent with rfl | ⟨channelId, channel, -, -, rfl⟩
    · rfl
    · rfl
  have dispatched : DispatchEffects (Dispatching task) deviceId payload [effect] :=
    ⟨[], some effect, rfl, by simp, by simpa using ⟨reached, state.dispatching, sent⟩⟩
  obtain ⟨nodeId, sessions, known, preferred, own⟩ := preferred_of_egressSession search
  have referenced : Referenced reached nodeId deviceId :=
    referenced_of_prefersDevice ⟨sessions, session, known, preferred, own⟩
  exact ⟨path, dispatched.onPathOf (by simp) path, nodeId, state.held nodeId deviceId referenced⟩

section Batch
variable [PeerDirectory δ BlePeerKey DiscoveredPeerHint]

theorem BatchState.closed (state : BatchState task reached) (channelId : BleChannelId) :
    BatchState task (reached.handleL2capChannelClosed channelId) := by
  refine ⟨state.dispatching.closed channelId, ?_⟩
  rintro nodeId deviceId ⟨updated, known, references⟩
  apply state.held
  rw [sessions_handleL2capChannelClosed] at known
  split at known
  · obtain ⟨sessions, old, rfl⟩ := Option.map_eq_some_iff.mp known
    exact ⟨sessions, old, references_downgradeL2cap references⟩
  · exact ⟨updated, known, references⟩

theorem BatchState.dispatchUnicastLoop (state : BatchState task reached) (accepts : Nat → Bool)
    (deviceId : DeviceId) (payload : List UInt8) (fuel attempt : Nat)
    (downgradedL2cap : Option BleChannelId) :
    ∃ effects, (BleRuntimeTask.dispatchUnicastLoop accepts deviceId payload fuel attempt
        downgradedL2cap reached).outbox = reached.outbox ++ effects ∧
      BatchState task (BleRuntimeTask.dispatchUnicastLoop accepts deviceId payload fuel attempt
        downgradedL2cap reached) ∧
      (effects.filter isRadioPath = [] ∨ ∃ effect, effects.filter isRadioPath = [effect] ∧
        OnHeldPath task effect (deviceId, payload)) := by
  induction fuel generalizing attempt downgradedL2cap reached with
  | zero => exact ⟨[], by simp [BleRuntimeTask.dispatchUnicastLoop], state, Or.inl rfl⟩
  | succ fuel ih =>
      unfold BleRuntimeTask.dispatchUnicastLoop
      cases search : reached.egressSessionForDevice deviceId with
      | none => exact ⟨[], by simp, state, Or.inl rfl⟩
      | some session =>
          cases sent : (reached.sendViaSession (accepts attempt) session payload).2 with
          | none =>
              simp only [sent]
              obtain ⟨effect, performed, source⟩ := sendViaSession_sent search sent
              obtain ⟨path, resolved⟩ := state.sent search source
              rw [performed]
              exact ⟨[effect], rfl, state.of_outbox _, Or.inr ⟨effect, by simp [path], resolved⟩⟩
          | some channelId =>
              simp only [sent]
              rw [sendViaSession_rejected sent]
              split
              · exact ⟨[], by simp, state, Or.inl rfl⟩
              · obtain ⟨effects, outbox, later, paths⟩ :=
                  ih (state.closed channelId) (attempt + 1) (some channelId)
                refine ⟨closeAnnouncement reached channelId ++ effects, ?_, later, ?_⟩
                · rw [outbox, outbox_handleL2capChannelClosed, List.append_assoc]
                · rw [List.filter_append, filter_closeAnnouncement, List.nil_append]
                  exact paths

theorem BatchState.dispatchOutboundCommand (state : BatchState task reached)
    (accepts : Nat → Bool) (command : BleOutboundCommand) :
    ∃ effects, (reached.dispatchOutboundCommand accepts command).outbox = reached.outbox ++ effects ∧
      BatchState task (reached.dispatchOutboundCommand accepts command) ∧
      List.SublistForall₂ (OnHeldPath task) (effects.filter isRadioPath) (addressed [command]) := by
  unfold BleRuntimeTask.dispatchOutboundCommand
  cases intent : command.intent with
  | unicast endpoint =>
      simp only [BleRuntimeTask.dispatchUnicastCommand]
      cases located : deviceIdFromEndpoint endpoint with
      | none => exact ⟨[], by simp, state, .nil⟩
      | some deviceId =>
          obtain ⟨effects, outbox, later, paths⟩ := state.dispatchUnicastLoop accepts deviceId
            command.payload (reached.sessions.size + 2) 0 none
          refine ⟨effects, outbox, later, ?_⟩
          have alone : addressed [command] = [(deviceId, command.payload)] := by
            simp [addressed, intent, located]
          rw [alone]
          rcases paths with none | ⟨effect, one, resolved⟩
          · rw [none]
            exact .nil
          · rw [one]
            exact .cons resolved .nil
  | multicast endpoint groupId receivers =>
      obtain ⟨effects, same, none⟩ :=
        dispatchMulticastCommand_outbox reached endpoint receivers command.payload
      dsimp only
      rw [same]
      refine ⟨effects, rfl, state.of_outbox _, ?_⟩
      rw [none]
      exact .nil
  | broadcast endpoint => exact ⟨[], by simp, state, .nil⟩

theorem addressed_append (before after : List BleOutboundCommand) :
    addressed (before ++ after) = addressed before ++ addressed after := List.filterMap_append ..

theorem addressed_cons (command : BleOutboundCommand) (rest : List BleOutboundCommand) :
    addressed (command :: rest) = addressed [command] ++ addressed rest := by
  rw [← List.singleton_append, addressed_append]

theorem sublistForall₂_append {α β : Type} {R : α → β → Prop} {first second : List α}
    {firsts seconds : List β} (one : List.SublistForall₂ R first firsts)
    (two : List.SublistForall₂ R second seconds) :
    List.SublistForall₂ R (first ++ second) (firsts ++ seconds) := by
  induction one with
  | nil =>
      rename_i skipped
      induction skipped with
      | nil => exact two
      | cons _ _ ih => exact .cons_right ih
  | cons related _ ih => exact .cons related ih
  | cons_right _ ih => exact .cons_right ih

theorem BatchState.dispatchOutboundBatch (state : BatchState task reached)
    (accepts : Nat → Nat → Bool) (position : Nat) (batch : List BleOutboundCommand) :
    ∃ effects, (BleRuntimeTask.dispatchOutboundBatch accepts position batch reached).outbox =
        reached.outbox ++ effects ∧
      List.SublistForall₂ (OnHeldPath task) (effects.filter isRadioPath) (addressed batch) := by
  induction batch generalizing position reached with
  | nil => exact ⟨[], by simp [BleRuntimeTask.dispatchOutboundBatch], .nil⟩
  | cons command rest ih =>
      obtain ⟨effects, outbox, later, paths⟩ :=
        state.dispatchOutboundCommand (accepts position) command
      obtain ⟨more, outboxes, morePaths⟩ := ih later (position + 1)
      rw [BleRuntimeTask.dispatchOutboundBatch, outboxes, outbox]
      refine ⟨effects ++ more, by rw [List.append_assoc], ?_⟩
      rw [List.filter_append, addressed_cons]
      exact sublistForall₂_append paths morePaths

end Batch

/-! ### A batch that nothing turns away -/

def TakesUnicast (task : BleRuntimeTask δ) (accepts : Nat → Bool) (command : BleOutboundCommand) :
    Prop :=
  ∀ endpoint deviceId, command.intent = .unicast endpoint →
    deviceIdFromEndpoint endpoint = some deviceId →
      task.egressSessionForDevice deviceId = some (.gattCentral deviceId) ∨
        ∃ channelId, task.egressSessionForDevice deviceId = some (.l2cap deviceId channelId) ∧
          task.l2capChannels.contains channelId = true ∧ accepts 0 = true

theorem dispatchUnicastCommand_taken {command : BleOutboundCommand} {endpoint : LinkEndpoint}
    (takes : TakesUnicast reached accepts command) (intent : command.intent = .unicast endpoint)
    (located : deviceIdFromEndpoint endpoint = some deviceId) :
    ∃ effect, reached.dispatchUnicastCommand accepts endpoint command.payload =
      reached.perform effect ∧ isRadioPath effect = true := by
  unfold BleRuntimeTask.dispatchUnicastCommand
  rw [located]
  dsimp only
  rw [BleRuntimeTask.dispatchUnicastLoop]
  rcases takes endpoint deviceId intent located with gatt | ⟨channelId, l2cap, registered, accepted⟩
  · rw [gatt]
    exact ⟨.writeCharacteristic deviceId jacquardC2pCharUuid command.payload, rfl, rfl⟩
  · rw [l2cap]
    refine ⟨.sendL2cap channelId command.payload, ?_, rfl⟩
    simp only [BleRuntimeTask.sendViaSession, registered, accepted, Bool.and_self, if_true]

theorem length_paths_of_taken {batch : List BleOutboundCommand} {accepts : Nat → Nat → Bool}
    {position : Nat}
    (takes : ∀ index command, batch[index]? = some command →
      TakesUnicast reached (accepts (position + index)) command) :
    ∃ effects, (BleRuntimeTask.dispatchOutboundBatch accepts position batch reached).outbox =
        reached.outbox ++ effects ∧
      (effects.filter isRadioPath).length = (addressed batch).length := by
  induction batch generalizing position reached with
  | nil => exact ⟨[], by simp [BleRuntimeTask.dispatchOutboundBatch], rfl⟩
  | cons command rest ih =>
      have first := takes 0 command rfl
      have one : ∃ effects, reached.dispatchOutboundCommand (accepts position) command =
          { reached with outbox := reached.outbox ++ effects } ∧
            (effects.filter isRadioPath).length = (addressed [command]).length := by
        unfold BleRuntimeTask.dispatchOutboundCommand
        cases intent : command.intent with
        | unicast endpoint =>
            cases located : deviceIdFromEndpoint endpoint with
            | none => exact ⟨[], by simp [BleRuntimeTask.dispatchUnicastCommand, located],
                by simp [addressed, intent, located]⟩
            | some deviceId =>
                obtain ⟨effect, same, path⟩ := dispatchUnicastCommand_taken first intent located
                exact ⟨[effect], same, by simp [path, addressed, intent, located]⟩
        | multicast endpoint groupId receivers =>
            obtain ⟨effects, same, none⟩ :=
              dispatchMulticastCommand_outbox reached endpoint receivers command.payload
            exact ⟨effects, same, by simp [none, addressed, intent]⟩
        | broadcast endpoint => exact ⟨[], by simp, by simp [addressed, intent]⟩
      obtain ⟨effects, same, size⟩ := one
      have later : ∀ index command, rest[index]? = some command →
          TakesUnicast { reached with outbox := reached.outbox ++ effects }
            (accepts (position + 1 + index)) command := by
        intro index command found
        have taken := takes (index + 1) command found
        rw [Nat.add_right_comm, Nat.add_assoc]
        exact taken
      obtain ⟨more, outbox, sizes⟩ := ih later
      rw [BleRuntimeTask.dispatchOutboundBatch, same, outbox]
      refine ⟨effects ++ more, by rw [List.append_assoc], ?_⟩
      rw [List.filter_append, addressed_cons, List.length_append, List.length_append, size, sizes]

theorem forall₂_of_length {α β : Type} {R : α → β → Prop} {first : List α} {second : List β}
    (related : List.SublistForall₂ R first second) (same : first.length = second.length) :
    List.Forall₂ R first second := by
  obtain ⟨chosen, related, sublist⟩ := List.sublistForall₂_iff.mp related
  rw [← sublist.eq_of_length (related.length_eq.symm.trans same)]
  exact related

variable [PeerDirectory δ BlePeerKey DiscoveredPeerHint]

section Handler
variable {turn : Turn} {batch : List BleOutboundCommand}

theorem step_dispatch (task : BleRuntimeTask δ) (dispatches : turn.event = .command (.dispatch batch)) :
    task.step turn = BleRuntimeTask.dispatchOutboundBatch turn.backend.l2capSend 0 batch
      { task with outbox := [] } := by
  simp only [BleRuntimeTask.step, BleRuntimeTask.handle, dispatches, BleRuntimeTask.handleCommand]

theorem BatchState.step (state : BatchState task task)
    (dispatches : turn.event = .command (.dispatch batch)) :
    List.SublistForall₂ (OnHeldPath task) ((task.step turn).outbox.filter isRadioPath)
      (addressed batch) := by
  obtain ⟨effects, outbox, sent⟩ :=
    (state.of_outbox []).dispatchOutboundBatch turn.backend.l2capSend 0 batch
  rw [step_dispatch task dispatches, outbox, List.nil_append]
  exact sent

variable {targetOs : TargetOs} {localNodeId : NodeId} {config : BleConfig}
  {restoredState : BleRestoredState} {initial : BleRuntimeTask δ} {turns : List Turn}

theorem batchState_run
    (created : BleRuntimeTask.new targetOs localNodeId config restoredState = .ok initial)
    (turns : List Turn) :
    BatchState (exec BleRuntimeTask.step initial turns) (exec BleRuntimeTask.step initial turns) :=
  ⟨dispatching_run created turns, fun _ _ referenced => referenced⟩

/-- The effect sends the payload on a path of its device after the turns, and the device was admitted as
some node in them and has not disconnected since. -/
structure OnAdmittedPath (initial : BleRuntimeTask δ) (turns : List Turn) (effect : Effect)
    (unicast : DeviceId × List UInt8) : Prop where
  path : OnPathOf (exec BleRuntimeTask.step initial turns) unicast.1 unicast.2 effect
  admitted : ∃ nodeId, Since (AdmittedBy initial unicast.1 nodeId)
    (fun turn => ¬ Disconnects unicast.1 turn) turns

theorem OnHeldPath.admitted
    (created : BleRuntimeTask.new targetOs localNodeId config restoredState = .ok initial)
    {effect : Effect} {unicast : DeviceId × List UInt8}
    (onPath : OnHeldPath (exec BleRuntimeTask.step initial turns) effect unicast) :
    OnAdmittedPath initial turns effect unicast := by
  obtain ⟨nodeId, referenced⟩ := onPath.held
  exact ⟨onPath.path, nodeId, admitted_of_held created (Or.inr referenced)⟩

/-- In every state of a run the handler of a batch hands its unicast payloads to the radio in their
order, each at most once and only on a path of the device it is addressed to, which was admitted and
has not disconnected since; and where nothing turns a payload away, each exactly once. -/
theorem batch_dispatched_in_order
    (created : BleRuntimeTask.new targetOs localNodeId config restoredState = .ok initial)
    (turns : List Turn) (dispatches : turn.event = .command (.dispatch batch)) :
    let task := exec BleRuntimeTask.step initial turns
    let paths := (task.step turn).outbox.filter isRadioPath
    List.SublistForall₂ (OnAdmittedPath initial turns) paths (addressed batch) ∧
      ((∀ index command, batch[index]? = some command →
          TakesUnicast task (turn.backend.l2capSend index) command) →
        List.Forall₂ (OnAdmittedPath initial turns) paths (addressed batch)) := by
  intro task paths
  have sent : List.SublistForall₂ (OnAdmittedPath initial turns) paths (addressed batch) := by
    obtain ⟨chosen, held, sublist⟩ :=
      List.sublistForall₂_iff.mp ((batchState_run created turns).step dispatches)
    exact List.sublistForall₂_iff.mpr
      ⟨chosen, held.imp fun _ _ onPath => onPath.admitted created, sublist⟩
  refine ⟨sent, ?_⟩
  intro takes
  apply forall₂_of_length sent
  have taken : ∀ index command, batch[index]? = some command →
      TakesUnicast { task with outbox := [] } (turn.backend.l2capSend (0 + index)) command := by
    intro index command found
    rw [Nat.zero_add]
    exact takes index command found
  obtain ⟨effects, outbox, sizes⟩ := length_paths_of_taken taken
  have emitted : (task.step turn).outbox = effects := by
    rw [step_dispatch task dispatches, outbox]
    rfl
  change ((task.step turn).outbox.filter isRadioPath).length = _
  rw [emitted]
  exact sizes

end Handler

namespace Scenario

def twoPayloads : List BleOutboundCommand :=
  [⟨.unicast (l2capEndpoint ⟨"peer"⟩), [7]⟩, ⟨.unicast (gattEndpoint ⟨"peer"⟩), [8]⟩]

def dispatchTwo : Turn := ⟨.command (.dispatch twoPayloads), silent⟩

end Scenario

open Scenario

theorem batch_dispatched_upgraded :
    List.Forall₂ (OnAdmittedPath (launched .other) upgraded)
      (((Scenario.reached .other upgraded).step dispatchTwo).outbox.filter isRadioPath)
      (addressed twoPayloads) := by
  refine (batch_dispatched_in_order (new_launched .other) upgraded
    (rfl : dispatchTwo.event = .command (.dispatch twoPayloads))).2 ?_
  have egress : (exec BleRuntimeTask.step (launched .other) upgraded).egressSessionForDevice
      ⟨"peer"⟩ = some (.l2cap ⟨"peer"⟩ ⟨1⟩) := by decide +kernel
  have registered : (exec BleRuntimeTask.step (launched .other) upgraded).l2capChannels.contains
      ⟨1⟩ = true := by decide +kernel
  intro index command found endpoint deviceId intent located
  have named : deviceId = ⟨"peer"⟩ := by
    match index with
    | 0 =>
        obtain rfl := Option.some.inj found
        obtain rfl := TransportDeliveryIntent.unicast.inj intent
        rw [deviceIdFromEndpoint_l2capEndpoint] at located
        exact (Option.some.inj located).symm
    | 1 =>
        obtain rfl := Option.some.inj found
        obtain rfl := TransportDeliveryIntent.unicast.inj intent
        rw [deviceIdFromEndpoint_gattEndpoint] at located
        exact (Option.some.inj located).symm
    | _ + 2 => cases found
  subst named
  exact Or.inr ⟨⟨1⟩, egress, registered, rfl⟩

end JqBle.Proof.LinkProfile
