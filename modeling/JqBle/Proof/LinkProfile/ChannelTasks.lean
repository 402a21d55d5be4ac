import JqBle.LinkProfile.ChannelTasks
import JqBle.Proof.LinkProfile.Channels

/-!
# The tasks of the channels and the runtime task

The runtime task in the middle of its channels' tasks goes through a run of its own, with the answers
of the sends read off the writers.
-/

namespace JqBle.Proof.LinkProfile
open Std Host Library Execution JqBle.LinkProfile

variable {δ : Type} {task : BleRuntimeTask δ} {nodeId : NodeId} {deviceId : DeviceId}
  {channelId : BleChannelId} {channels reached : List ChannelTasks} {channel old new : ChannelTasks}
  {position : Nat} {payload : List UInt8}

/-! ## Receivers -/

theorem spawnedChannels_mem {effects : List Effect}
    (member : channel ∈ spawnedChannels effects) :
    channel = .spawn channel.channelId := by
  obtain ⟨effect, -, spawned⟩ := List.mem_filterMap.mp member
  cases effect <;> simp_all
  rw [← spawned]
  rfl

theorem receiverOpen_spawned {effects : List Effect}
    (opened : Effect.spawnL2capChannelTasks channelId ∈ effects ∨
      receiverOpen channels channelId = true) :
    receiverOpen ((spawnedChannels effects).reverse ++ channels) channelId = true := by
  unfold receiverOpen channelTasks? at opened ⊢
  rw [List.find?_append]
  cases found : (spawnedChannels effects).reverse.find? fun channel =>
      channel.channelId = channelId with
  | some channel =>
      have spawned := spawnedChannels_mem (List.mem_reverse.mp (List.mem_of_find?_eq_some found))
      rw [spawned]
      rfl
  | none =>
      rcases opened with spawned | opened
      · have absent := List.find?_eq_none.mp found (.spawn channelId)
          (List.mem_reverse.mpr (List.mem_filterMap.mpr ⟨_, spawned, rfl⟩))
        simp [ChannelTasks.spawn] at absent
      · exact opened

theorem receiverOpen_set (here : channels[position]? = some old)
    (same : new.channelId = old.channelId)
    (kept : old.channelId = channelId → old.lane.accepts = true → new.lane.accepts = true ∨
      (channelTasks? (channels.take position) channelId).isSome)
    (opened : receiverOpen channels channelId = true) :
    receiverOpen (channels.set position new) channelId = true := by
  induction channels generalizing position with
  | nil => cases here
  | cons first rest ih =>
      unfold receiverOpen channelTasks? at opened ⊢
      cases position with
      | zero =>
          obtain rfl : first = old := by simpa using here
          rw [List.set_cons_zero, List.find?_cons]
          rw [List.find?_cons] at opened
          rw [same]
          by_cases current : first.channelId = channelId
          · rcases kept current (by simpa [current] using opened) with accepts | newer
            · simpa [current] using accepts
            · cases newer
          · simpa [current] using opened
      | succ position =>
          rw [List.set_cons_succ, List.find?_cons]
          rw [List.find?_cons] at opened
          by_cases current : first.channelId = channelId
          · simpa [current] using opened
          · simp only [current, decide_false] at opened ⊢
            refine ih (by simpa using here) ?_ opened
            intro equal accepted
            rcases kept equal accepted with accepts | newer
            · exact Or.inl accepts
            · refine Or.inr ?_
              simpa [channelTasks?, List.find?_cons, current] using newer

/-- The tasks with a payload queued. -/
def queuePayload (payload : List UInt8) (channel : ChannelTasks) : ChannelTasks :=
  { channel with
    lane := { channel.lane with writerQueue := channel.lane.writerQueue ++ [payload] } }

theorem pushOutbound_eq_set (pushed : pushOutbound channelId payload channels = some reached) :
    ∃ position old, channels[position]? = some old ∧ old.channelId = channelId ∧
      reached = channels.set position (queuePayload payload old) := by
  induction channels generalizing reached with
  | nil => cases pushed
  | cons first rest ih =>
      unfold pushOutbound at pushed
      split_ifs at pushed with current room
      · cases pushed
        exact ⟨0, first, rfl, current, rfl⟩
      · obtain ⟨later, pushedLater, rfl⟩ := Option.map_eq_some_iff.mp pushed
        obtain ⟨position, old, here, same, rfl⟩ := ih pushedLater
        exact ⟨position + 1, old, here, same, rfl⟩

/-! ## Dispatch -/

theorem dispatchUnicastLoop_congr {accepts answers : Nat → Bool} {fuel attempt : Nat}
    {downgradedL2cap : Option BleChannelId}
    (same : ∀ later, attempt ≤ later → accepts later = answers later) :
    BleRuntimeTask.dispatchUnicastLoop accepts deviceId payload fuel attempt downgradedL2cap task =
      BleRuntimeTask.dispatchUnicastLoop answers deviceId payload fuel attempt downgradedL2cap
        task := by
  induction fuel generalizing attempt downgradedL2cap task with
  | zero => rfl
  | succ fuel ih =>
      unfold BleRuntimeTask.dispatchUnicastLoop
      rw [same attempt (Nat.le_refl _)]
      have later (downgradedL2cap : Option BleChannelId) (task : BleRuntimeTask δ) :
          BleRuntimeTask.dispatchUnicastLoop accepts deviceId payload fuel (attempt + 1)
            downgradedL2cap task =
          BleRuntimeTask.dispatchUnicastLoop answers deviceId payload fuel (attempt + 1)
            downgradedL2cap task :=
        ih fun later after => same later (Nat.le_of_succ_le after)
      simp only [later]

/-- The answers that the open receivers give are some answers of the radio. -/
theorem dispatchUnicastOver_eq_loop (isOpen : BleChannelId → Bool) (deviceId : DeviceId)
    (payload : List UInt8) (fuel attempt : Nat) (downgradedL2cap : Option BleChannelId)
    (task : BleRuntimeTask δ) :
    ∃ accepts, (task.dispatchUnicastOver isOpen deviceId payload fuel downgradedL2cap).1 =
      BleRuntimeTask.dispatchUnicastLoop accepts deviceId payload fuel attempt downgradedL2cap
        task := by
  induction fuel generalizing attempt downgradedL2cap task with
  | zero => exact ⟨fun _ => true, rfl⟩
  | succ fuel ih =>
      unfold BleRuntimeTask.dispatchUnicastOver BleRuntimeTask.dispatchUnicastLoop
      cases task.egressSessionForDevice deviceId with
      | none => exact ⟨fun _ => true, rfl⟩
      | some session =>
          cases session with
          | gattCentral held => exact ⟨fun _ => true, rfl⟩
          | l2cap held channelId =>
              dsimp only
              cases sent : (task.sendViaSession (isOpen channelId) (.l2cap held channelId)
                  payload).2 with
              | none => exact ⟨fun _ => isOpen channelId, by simp only [sent]⟩
              | some closed =>
                  by_cases again : downgradedL2cap = some closed
                  · exact ⟨fun _ => isOpen channelId, by simp only [sent, if_pos again]⟩
                  · obtain ⟨answers, equal⟩ := ih (attempt + 1) (some closed)
                      ((task.sendViaSession (isOpen channelId) (.l2cap held channelId)
                        payload).1.handleL2capChannelClosed closed)
                    -- The answer of this attempt, then those of the later ones.
                    refine ⟨Function.update answers attempt (isOpen channelId), ?_⟩
                    simp only [Function.update_self, sent, if_neg again]
                    rw [equal]
                    apply dispatchUnicastLoop_congr
                    intro later after
                    exact (Function.update_of_ne (by omega) ..).symm

/-- Dispatch sends and closes channels that turn the payload away, and does nothing else. -/
theorem dispatchUnicastOver_induction {P : BleRuntimeTask δ → Prop} {isOpen : BleChannelId → Bool}
    (sent : ∀ task accepted session, P task → P (task.sendViaSession accepted session payload).1)
    (closed : ∀ (task : BleRuntimeTask δ) channelId,
      (task.l2capChannels.contains channelId && isOpen channelId) = false → P task →
        P (task.handleL2capChannelClosed channelId))
    (fuel : Nat) (downgradedL2cap : Option BleChannelId) (start : P task) :
    P (task.dispatchUnicastOver isOpen deviceId payload fuel downgradedL2cap).1 := by
  induction fuel generalizing downgradedL2cap task with
  | zero => exact start
  | succ fuel ih =>
      unfold BleRuntimeTask.dispatchUnicastOver
      cases task.egressSessionForDevice deviceId with
      | none => exact start
      | some session =>
          cases session with
          | gattCentral held => exact sent task true (.gattCentral held) start
          | l2cap held current =>
              have sentNow := sent task (isOpen current) (.l2cap held current) start
              dsimp only
              split
              · exact sentNow
              · rename_i channelId rejected
                split
                · exact sentNow
                · apply ih
                  apply closed _ _ ?_ sentNow
                  obtain ⟨_, equal⟩ := l2cap_of_rejected rejected
                  cases equal
                  rw [(sendViaSession_quiet task (isOpen current) (.l2cap held current)
                    payload).l2capChannels]
                  by_contra taken
                  simp only [Bool.not_eq_false] at taken
                  simp [BleRuntimeTask.sendViaSession, taken] at rejected

/-! ## The runtime task of a run -/

variable {runtime after : ChannelRuntime δ} {input : ChannelStep} {pipeCapacity : Nat}

theorem task_updateChannel {update : ChannelTasks → Option ChannelTasks}
    (updated : runtime.updateChannel position update = some after) : after.task = runtime.task := by
  obtain ⟨channel, -, rfl⟩ := Option.map_eq_some_iff.mp updated
  rfl

theorem task_report {event : L2capRuntimeEvent} (reported : runtime.report event = some after) :
    after.task = runtime.task := by
  obtain ⟨events, -, rfl⟩ := Option.map_eq_some_iff.mp reported
  rfl

theorem task_reportAndUpdate {event : L2capRuntimeEvent}
    {update : ChannelTasks → Option ChannelTasks}
    (moved : ((runtime.report event).bind fun runtime =>
      runtime.updateChannel position update) = some after) : after.task = runtime.task := by
  obtain ⟨reported, reports, updates⟩ := Option.bind_eq_some_iff.mp moved
  rw [task_updateChannel updates, task_report reports]

section
variable [PeerDirectory δ BlePeerKey DiscoveredPeerHint]

/-- What a step does to the runtime task. -/
inductive TaskMove (runtime : ChannelRuntime δ) (input : ChannelStep) :
    BleRuntimeTask δ → Prop
  | kept : TaskMove runtime input runtime.task
  | turned (turn : Turn) (taken : input = .turn turn)
      (dispatches : ∀ batch, turn.event ≠ .command (.dispatch batch))
      (closes : ∀ event, turn.event ≠ .l2cap event) :
      TaskMove runtime input (runtime.task.step turn)
  | unicast (command : BleOutboundCommand) (endpoint : LinkEndpoint) (deviceId : DeviceId)
      (intent : command.intent = .unicast endpoint)
      (located : deviceIdFromEndpoint endpoint = some deviceId) :
      TaskMove runtime input
        (BleRuntimeTask.dispatchUnicastOver (receiverOpen runtime.channels) deviceId
          command.payload (runtime.task.sessions.size + 2) none
          { runtime.task with outbox := [] }).1
  | multicast (command : BleOutboundCommand) (endpoint : LinkEndpoint) (groupId : MulticastGroupId)
      (receivers : List NodeId) (intent : command.intent = .multicast endpoint groupId receivers) :
      TaskMove runtime input
        (BleRuntimeTask.dispatchMulticastCommand { runtime.task with outbox := [] } endpoint
          receivers command.payload)
  | event (event : L2capRuntimeEvent) (waiting : event ∈ runtime.l2capEvents.items) :
      TaskMove runtime input
        (BleRuntimeTask.handleL2capRuntimeEvent { runtime.task with outbox := [] } event)

theorem taskMove_of_eq (same : after.task = runtime.task) : TaskMove runtime input after.task := by
  rw [same]
  exact .kept

theorem taskMove_sendNext (taken : runtime.sendNext = some after) :
    TaskMove runtime input after.task := by
  unfold ChannelRuntime.sendNext at taken
  split at taken
  · cases taken
  · rename_i command rest waiting
    dsimp only at taken
    split at taken
    · rename_i endpoint intent
      unfold ChannelRuntime.sendUnicast at taken
      split at taken
      · cases taken
        exact .kept
      · rename_i deviceId located
        dsimp only at taken
        split at taken
        · cases taken
          exact .unicast command endpoint deviceId intent located
        · obtain ⟨channels, -, rfl⟩ := Option.map_eq_some_iff.mp taken
          exact .unicast command endpoint deviceId intent located
    · rename_i endpoint groupId receivers intent
      cases taken
      exact .multicast command endpoint groupId receivers intent
    · cases taken
      exact .kept

theorem taskMove_next (taken : runtime.next pipeCapacity input = some after) :
    TaskMove runtime input after.task := by
  cases input with
  | turn turn =>
      simp only [ChannelRuntime.next, ChannelRuntime.turn] at taken
      split at taken
      · cases taken
      · cases taken
      · rename_i dispatches closes
        cases taken
        exact .turned turn rfl dispatches closes
      · cases taken
  | dispatch batch =>
      simp only [ChannelRuntime.next, ChannelRuntime.dispatch] at taken
      split_ifs at taken
      cases taken
      exact .kept
  | sendNext => exact taskMove_sendNext taken
  | takeEvent =>
      simp only [ChannelRuntime.next, ChannelRuntime.takeEvent] at taken
      split at taken
      · rename_i event rest idle waiting
        cases taken
        exact .event event (by simp [waiting])
      · cases taken
  | writerReceives position => exact taskMove_of_eq (task_updateChannel taken)
  | writerWrites position count => exact taskMove_of_eq (task_updateChannel taken)
  | peerReads position count => exact taskMove_of_eq (task_updateChannel taken)
  | writeFails position => exact taskMove_of_eq (task_updateChannel taken)
  | writerReports position =>
      simp only [ChannelRuntime.next] at taken
      split at taken
      · split_ifs at taken
        exact taskMove_of_eq (task_reportAndUpdate taken)
      · cases taken
  | frameArrives position payload =>
      simp only [ChannelRuntime.next] at taken
      split at taken
      · split_ifs at taken
        exact taskMove_of_eq (task_report taken)
      · cases taken
  | readerCloses position => exact taskMove_of_eq (task_updateChannel taken)
  | readerReports position =>
      simp only [ChannelRuntime.next] at taken
      split at taken
      · split_ifs at taken
        exact taskMove_of_eq (task_reportAndUpdate taken)
      · cases taken

def dispatchTurn (backend : Backend) (command : BleOutboundCommand) (accepts : Nat → Bool) : Turn :=
  ⟨.command (.dispatch [command]), { backend with l2capSend := fun _ => accepts }⟩

theorem step_dispatchTurn (task : BleRuntimeTask δ) (backend : Backend)
    (command : BleOutboundCommand) (accepts : Nat → Bool) :
    task.step (dispatchTurn backend command accepts) =
      BleRuntimeTask.dispatchOutboundCommand { task with outbox := [] } accepts command := rfl

/-- Every move of the runtime task is a turn of its own. -/
theorem TaskMove.turn {moved : BleRuntimeTask δ} (move : TaskMove runtime input moved)
    (backend : Backend) : moved = runtime.task ∨ ∃ turn, moved = runtime.task.step turn := by
  cases move with
  | kept => exact Or.inl rfl
  | turned turn taken dispatches closes => exact Or.inr ⟨turn, rfl⟩
  | unicast command endpoint deviceId intent located =>
      obtain ⟨accepts, answered⟩ := dispatchUnicastOver_eq_loop (receiverOpen runtime.channels)
        deviceId command.payload (runtime.task.sessions.size + 2) 0 none
        { runtime.task with outbox := [] }
      refine Or.inr ⟨dispatchTurn backend command accepts, ?_⟩
      rw [answered, step_dispatchTurn]
      simp only [BleRuntimeTask.dispatchOutboundCommand, intent,
        BleRuntimeTask.dispatchUnicastCommand, located]
  | multicast command endpoint groupId receivers intent =>
      refine Or.inr ⟨dispatchTurn backend command fun _ => true, ?_⟩
      rw [step_dispatchTurn]
      simp only [BleRuntimeTask.dispatchOutboundCommand, intent]
  | event event waiting => exact Or.inr ⟨⟨.l2cap event, backend⟩, rfl⟩

/-- The runtime task of a run has a run of its own. -/
theorem channelTask_exec (start : ChannelRuntime δ) (pipeCapacity : Nat) (inputs : List ChannelStep) :
    ∃ turns, (exec (ChannelRuntime.step pipeCapacity) start inputs).task =
      exec BleRuntimeTask.step start.task turns := by
  induction inputs using List.reverseRecOn with
  | nil => exact ⟨[], rfl⟩
  | append_singleton before input ih =>
      obtain ⟨turns, reached⟩ := ih
      rw [exec_snoc]
      apply attempt_cases (P := fun after : ChannelRuntime δ =>
        ∃ turns, after.task = exec BleRuntimeTask.step start.task turns)
      · intro disabled
        exact ⟨turns, reached⟩
      · intro after taken
        rcases (taskMove_next taken).turn Scenario.silent with same | ⟨turn, moved⟩
        · exact ⟨turns, by rw [same, reached]⟩
        · exact ⟨turns ++ [turn], by rw [moved, reached, exec_snoc]⟩

end

end JqBle.Proof.LinkProfile
