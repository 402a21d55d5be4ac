import JqBle.Proof.LinkProfile.Lane

/-!
# The data plane of an L2CAP channel

The task that empties the event queue of a side is the one that waits for room in its writer queue. If
both sides wait, the pipes and the event queues between them may be full as well, and nothing moves.
-/

namespace JqBle.Proof.LinkProfile
open Library Execution Host JqBle.LinkProfile

/-! ## Steps of the plane -/

variable {config : PlaneConfig} {plane reached : DataPlane} {input : PlaneStep} {side : Side}

section Updates

@[simp] theorem setRuntime_self (runtime : PlaneRuntime) :
    (plane.setRuntime side runtime).runtime side = runtime :=
  Function.update_self ..

@[simp] theorem setRuntime_ne {another : Side} (different : another ≠ side) (runtime : PlaneRuntime) :
    (plane.setRuntime side runtime).runtime another = plane.runtime another :=
  Function.update_of_ne different ..

@[simp] theorem setRuntime_lane (runtime : PlaneRuntime) :
    (plane.setRuntime side runtime).lane = plane.lane := rfl

@[simp] theorem setLane_self (lane : Lane) : (plane.setLane side lane).lane side = lane :=
  Function.update_self ..

@[simp] theorem setLane_ne {another : Side} (different : another ≠ side) (lane : Lane) :
    (plane.setLane side lane).lane another = plane.lane another :=
  Function.update_of_ne different ..

@[simp] theorem setLane_runtime (lane : Lane) : (plane.setLane side lane).runtime = plane.runtime :=
  rfl

end Updates

theorem offerEvent_eq {event : LaneEvent} (offered : plane.offerEvent config side event = some reached) :
    (plane.runtime side).events.length < config.commandCapacity side ∧
      reached = plane.setRuntime side
        { plane.runtime side with events := (plane.runtime side).events ++ [event] } := by
  simp only [DataPlane.offerEvent] at offered
  split at offered
  · rename_i room
    exact ⟨room, (Option.some.inj offered).symm⟩
  · cases offered

theorem laneMove_setLane {here : Side} {lane : Lane} (kept : plane.lane = reached.lane)
    (moved : LaneMove (config.pipeCapacity here) (plane.lane here) lane) (side : Side) :
    LaneMove (config.pipeCapacity side) (plane.lane side) ((reached.setLane here lane).lane side) := by
  by_cases same : side = here
  · subst same
    rw [setLane_self]
    exact moved
  · rw [setLane_ne same, ← kept]
    exact .still

theorem laneMove_next (taken : DataPlane.next config plane input = some reached) (side : Side) :
    LaneMove (config.pipeCapacity side) (plane.lane side) (reached.lane side) := by
  cases input with
  | dispatch here batch =>
      simp only [DataPlane.next, DataPlane.dispatch] at taken
      split at taken
      · obtain rfl := Option.some.inj taken
        exact .still
      · cases taken
  | takeBatch here =>
      simp only [DataPlane.next, DataPlane.takeBatch] at taken
      split at taken
      · obtain rfl := Option.some.inj taken
        exact .still
      · cases taken
  | sendNext here =>
      simp only [DataPlane.next, DataPlane.sendNext] at taken
      split at taken
      · cases taken
      · split at taken
        · rename_i sends
          split at taken
          · rename_i room
            obtain rfl := Option.some.inj taken
            exact laneMove_setLane rfl (.queue (Bool.and_eq_true_iff.mp sends).2 room) side
          · cases taken
        · obtain rfl := Option.some.inj taken
          exact .still
  | takeEvent here =>
      simp only [DataPlane.next, DataPlane.takeEvent] at taken
      split at taken
      · obtain rfl := Option.some.inj taken
        exact .still
      · obtain rfl := Option.some.inj taken
        exact .still
      · cases taken
  | receive here =>
      obtain ⟨lane, received, rfl⟩ := Option.map_eq_some_iff.mp taken
      exact laneMove_setLane rfl (.receive received) side
  | write here count =>
      obtain ⟨lane, written, rfl⟩ := Option.map_eq_some_iff.mp taken
      exact laneMove_setLane rfl (.write written) side
  | reportClosed here =>
      simp only [DataPlane.next, DataPlane.reportClosed] at taken
      split at taken
      · rename_i closing
        obtain ⟨offered, done, rfl⟩ := Option.map_eq_some_iff.mp taken
        obtain ⟨-, rfl⟩ := offerEvent_eq done
        exact laneMove_setLane rfl (.reportClosed closing) side
      · cases taken
  | read here count =>
      obtain ⟨lane, moved, rfl⟩ := Option.map_eq_some_iff.mp taken
      exact laneMove_setLane rfl (.read moved) side
  | decode here =>
      obtain ⟨lane, decoded, rfl⟩ := Option.map_eq_some_iff.mp taken
      exact laneMove_setLane rfl (.decode decoded) side
  | deliver here =>
      simp only [DataPlane.next, DataPlane.deliver] at taken
      split at taken
      · rename_i event lane delivered
        obtain ⟨offered, done, rfl⟩ := Option.map_eq_some_iff.mp taken
        obtain ⟨-, rfl⟩ := offerEvent_eq done
        exact laneMove_setLane rfl (.deliver delivered) side
      · cases taken

/-! ## The runtime task -/

section Dispatch
variable {δ : Type} {task : BleRuntimeTask δ} {deviceId : DeviceId} {channelId : BleChannelId}
  {accepts : Nat → Nat → Bool} {batch : List BleOutboundCommand}

/-- The handler of a batch for the peer of an open channel sends its payloads there one by one. -/
theorem dispatchOutboundBatch_l2cap {position : Nat}
    (egress : task.egressSessionForDevice deviceId = some (.l2cap deviceId channelId))
    (registered : task.l2capChannels.contains channelId = true)
    (accepted : ∀ position, accepts position 0 = true)
    (addressed : ∀ command ∈ batch, ∃ endpoint,
      command.intent = .unicast endpoint ∧ deviceIdFromEndpoint endpoint = some deviceId) :
    (BleRuntimeTask.dispatchOutboundBatch accepts position batch task).outbox =
      task.outbox ++ batch.map fun command => .sendL2cap channelId command.payload := by
  induction batch generalizing position task with
  | nil => simp [BleRuntimeTask.dispatchOutboundBatch]
  | cons command rest ih =>
      obtain ⟨endpoint, intent, device⟩ := addressed command (by simp)
      have sent : task.dispatchOutboundCommand (accepts position) command =
          task.perform (.sendL2cap channelId command.payload) := by
        simp [BleRuntimeTask.dispatchOutboundCommand, intent, BleRuntimeTask.dispatchUnicastCommand,
          device, BleRuntimeTask.dispatchUnicastLoop, egress, BleRuntimeTask.sendViaSession, registered,
          accepted]
      have kept : (task.perform (.sendL2cap channelId command.payload)).egressSessionForDevice deviceId =
          some (.l2cap deviceId channelId) := egress
      rw [BleRuntimeTask.dispatchOutboundBatch, sent, ih kept registered]
      · simp [BleRuntimeTask.perform]
      · intro later member
        exact addressed later (List.mem_cons_of_mem _ member)

theorem exec_sendNext (sends : plane.sendsL2cap side = true) {payloads : List (List UInt8)}
    (batch : (plane.runtime side).batch = payloads)
    (room : (plane.lane side).writerQueue.length + payloads.length ≤ writerQueueCapacity) :
    ((exec (DataPlane.step config) plane (List.replicate payloads.length (.sendNext side))).lane
      side).writerQueue = (plane.lane side).writerQueue ++ payloads := by
  induction payloads generalizing plane with
  | nil => simp
  | cons payload rest ih =>
      have space : (plane.lane side).hasRoom = true := by
        apply decide_eq_true
        simp only [List.length_cons] at room
        omega
      have stepped : DataPlane.step config plane (.sendNext side) =
          (plane.setRuntime side { plane.runtime side with batch := rest }).setLane side
            { plane.lane side with writerQueue := (plane.lane side).writerQueue ++ [payload] } := by
        apply attempt_of_enabled
        simp [DataPlane.next, DataPlane.sendNext, batch, sends, space]
      rw [List.length_cons, List.replicate_succ, exec_cons, stepped, ih]
      · simp
      · simpa [DataPlane.sendsL2cap, Lane.accepts] using sends
      · simp
      · simp only [setLane_self, List.length_append, List.length_cons, List.length_nil] at room ⊢
        omega

/-- The writer queue gets what the handler of the runtime task sends. -/
theorem dispatched_batch_queued
    (egress : task.egressSessionForDevice deviceId = some (.l2cap deviceId channelId))
    (registered : task.l2capChannels.contains channelId = true)
    (accepted : ∀ position, accepts position 0 = true)
    (addressed : ∀ command ∈ batch, ∃ endpoint,
      command.intent = .unicast endpoint ∧ deviceIdFromEndpoint endpoint = some deviceId)
    (sends : plane.sendsL2cap side = true)
    (begun : (plane.runtime side).batch = batch.map (·.payload))
    (room : (plane.lane side).writerQueue.length + batch.length ≤ writerQueueCapacity) :
    ∃ payloads,
      (BleRuntimeTask.dispatchOutboundBatch accepts 0 batch task).outbox =
        task.outbox ++ payloads.map (.sendL2cap channelId) ∧
      ((exec (DataPlane.step config) plane (List.replicate batch.length (.sendNext side))).lane
        side).writerQueue = (plane.lane side).writerQueue ++ payloads := by
  refine ⟨batch.map (·.payload), ?_, ?_⟩
  · rw [dispatchOutboundBatch_l2cap egress registered accepted addressed, List.map_map]
    rfl
  · have size : (batch.map (·.payload)).length = batch.length := List.length_map _
    rw [← size] at room ⊢
    exact exec_sendNext sends begun room

end Dispatch

/-! ## Waiting runtimes -/

def Waits (plane : DataPlane) (side : Side) : Prop :=
  (plane.runtime side).batch ≠ [] ∧ plane.sendsL2cap side = true ∧ (plane.lane side).hasRoom = false

def EventsFull (config : PlaneConfig) (plane : DataPlane) (side : Side) : Prop :=
  config.commandCapacity side ≤ (plane.runtime side).events.length

/-- Nobody but the waiting runtime makes room in its event queue. -/
def Jammed (config : PlaneConfig) (plane : DataPlane) (side : Side) : Prop :=
  Waits plane side ∧ EventsFull config plane side

instance : Decidable (Waits plane side) := inferInstanceAs (Decidable (_ ∧ _))

instance : Decidable (EventsFull config plane side) := inferInstanceAs (Decidable (_ ≤ _))

instance : Decidable (Jammed config plane side) := inferInstanceAs (Decidable (_ ∧ _))

def jams (config : PlaneConfig) (plane : DataPlane) : PlaneStep → Option Side
  | .takeBatch side =>
      let runtime := plane.runtime side
      if runtime.batch = [] ∧ runtime.commands.headD [] ≠ [] ∧ plane.sendsL2cap side = true ∧
          (plane.lane side).hasRoom = false ∧ EventsFull config plane side then some side else none
  | .sendNext side =>
      if (plane.runtime side).batch.tail ≠ [] ∧ plane.sendsL2cap side = true ∧
          (plane.lane side).writerQueue.length + 1 = writerQueueCapacity ∧
          EventsFull config plane side then some side else none
  | .deliver side =>
      if (plane.lane side).delivered.isSome ∧ Waits plane side.other ∧
          (plane.runtime side.other).events.length + 1 = config.commandCapacity side.other then
        some side.other
      else none
  | _ => none

/-- A runtime is not left waiting behind a full event queue while the other one is, nor while its own
writer has still to report a failure through that queue. -/
def AvoidsCircle (config : PlaneConfig) (plane : DataPlane) (input : PlaneStep) : Prop :=
  ∀ side ∈ jams config plane input,
    ¬ Jammed config plane side.other ∧ (plane.lane side).writer ≠ .closing

instance : Decidable (AvoidsCircle config plane input) :=
  inferInstanceAs (Decidable (∀ _ ∈ _, _))

theorem Jammed.of_keepsWriter (jammed : Jammed config reached side)
    (runtime : reached.runtime side = plane.runtime side)
    (kept : KeepsWriter (plane.lane side) (reached.lane side)) : Jammed config plane side := by
  obtain ⟨⟨batch, sends, full⟩, events⟩ := jammed
  rw [EventsFull, runtime] at events
  rw [runtime] at batch
  rw [DataPlane.sendsL2cap, runtime, kept.accepts] at sends
  rw [Lane.hasRoom, kept.writerQueue] at full
  exact ⟨⟨batch, sends, full⟩, events⟩

theorem Jammed.of_eq (jammed : Jammed config reached side)
    (runtime : reached.runtime side = plane.runtime side) (lane : reached.lane side = plane.lane side) :
    Jammed config plane side :=
  jammed.of_keepsWriter runtime (.of_eq (by rw [lane]) (by rw [lane]))

theorem Jammed.of_setLane {here : Side} {lane : Lane}
    (jammed : Jammed config (plane.setLane here lane) side) (kept : KeepsWriter (plane.lane here) lane) :
    Jammed config plane side := by
  refine jammed.of_keepsWriter rfl ?_
  by_cases same : side = here
  · subst same
    rw [setLane_self]
    exact kept
  · rw [setLane_ne same]
    exact .of_eq rfl rfl

theorem not_jammed_of_receive {channelOpen : Bool} (bounded : Bounded (plane.lane side))
    (received : (plane.lane side).receive channelOpen = some (reached.lane side)) :
    ¬ Jammed config reached side := by
  rintro ⟨⟨-, sends, full⟩, -⟩
  rcases receive_shrinks received with less | ⟨ended, -⟩
  · exact of_decide_eq_false full (Nat.lt_of_lt_of_le less bounded)
  · simp [DataPlane.sendsL2cap, ended] at sends

theorem Jammed.of_setRuntime_ne {here : Side} {runtime : PlaneRuntime}
    (jammed : Jammed config (plane.setRuntime here runtime) side) (different : side ≠ here) :
    Jammed config plane side :=
  jammed.of_eq (setRuntime_ne different _) rfl

theorem jammed_takeBatch {here : Side} (taken : plane.takeBatch here = some reached)
    (jammed : Jammed config reached side) :
    Jammed config plane side ∨ jams config plane (.takeBatch here) = some side := by
  simp only [DataPlane.takeBatch] at taken
  split at taken
  · rename_i batch rest idle commands
    obtain rfl := Option.some.inj taken
    by_cases same : side = here
    · subst same
      simp only [Jammed, Waits, EventsFull, DataPlane.sendsL2cap, setRuntime_self, setRuntime_lane]
        at jammed
      obtain ⟨⟨nonempty, sends, full⟩, events⟩ := jammed
      refine Or.inr (if_pos ⟨idle, ?_, sends, full, events⟩)
      rw [commands]
      exact nonempty
    · exact Or.inl (jammed.of_setRuntime_ne same)
  · cases taken

-- The send that leaves a jammed runtime behind has taken the last place of the queue.
theorem jammed_sendNext {here : Side} (taken : plane.sendNext here = some reached)
    (jammed : Jammed config reached side) :
    Jammed config plane side ∨ jams config plane (.sendNext here) = some side := by
  simp only [DataPlane.sendNext] at taken
  split at taken
  · cases taken
  · rename_i payload rest batch
    split at taken
    · rename_i sends
      split at taken
      · rename_i room
        obtain rfl := Option.some.inj taken
        by_cases same : side = here
        · subst same
          simp only [Jammed, Waits, EventsFull, setLane_runtime, setLane_self, setRuntime_self]
            at jammed
          obtain ⟨⟨nonempty, -, full⟩, events⟩ := jammed
          refine Or.inr (if_pos ⟨?_, sends, ?_, events⟩)
          · rw [batch]
            exact nonempty
          · have filled := of_decide_eq_false full
            have less := of_decide_eq_true room
            simp only [List.length_append, List.length_singleton] at filled
            exact Nat.le_antisymm less (Nat.not_lt.mp filled)
        · exact Or.inl (jammed.of_eq (setRuntime_ne same _) (setLane_ne same _))
      · cases taken
    · obtain rfl := Option.some.inj taken
      by_cases same : side = here
      · subst same
        simp [Jammed, Waits, DataPlane.sendsL2cap] at jammed
      · exact Or.inl (jammed.of_setRuntime_ne same)

theorem jammed_takeEvent {here : Side} (taken : plane.takeEvent here = some reached)
    (jammed : Jammed config reached side) : Jammed config plane side := by
  simp only [DataPlane.takeEvent] at taken
  by_cases same : side = here
  · subst same
    split at taken
    · rename_i idle events
      obtain rfl := Option.some.inj taken
      simp [Jammed, Waits, idle] at jammed
    · rename_i idle events
      obtain rfl := Option.some.inj taken
      simp [Jammed, Waits, idle] at jammed
    · cases taken
  · split at taken
    · obtain rfl := Option.some.inj taken
      exact jammed.of_setRuntime_ne same
    · obtain rfl := Option.some.inj taken
      exact jammed.of_setRuntime_ne same
    · cases taken

theorem jammed_deliver {here : Side} (taken : plane.deliver config here = some reached)
    (jammed : Jammed config reached side) :
    Jammed config plane side ∨ jams config plane (.deliver here) = some side := by
  simp only [DataPlane.deliver] at taken
  split at taken
  · rename_i event lane delivered
    obtain ⟨offered, done, rfl⟩ := Option.map_eq_some_iff.mp taken
    obtain ⟨room, rfl⟩ := offerEvent_eq done
    have jammed := jammed.of_setLane (keepsWriter_delivered delivered)
    by_cases same : side = here.other
    · subst same
      simp only [Jammed, Waits, EventsFull, DataPlane.sendsL2cap, setRuntime_self, setRuntime_lane,
        List.length_append, List.length_singleton] at jammed
      refine Or.inr (if_pos ⟨?_, jammed.1, Nat.le_antisymm room jammed.2⟩)
      rw [delivered]
      rfl
    · exact Or.inl (jammed.of_setRuntime_ne same)
  · cases taken

theorem jammed_of_next (bounded : ∀ side, Bounded (plane.lane side))
    (taken : DataPlane.next config plane input = some reached) (jammed : Jammed config reached side) :
    Jammed config plane side ∨ jams config plane input = some side := by
  cases input with
  | dispatch here batch =>
      simp only [DataPlane.next, DataPlane.dispatch] at taken
      split at taken
      · obtain rfl := Option.some.inj taken
        by_cases same : side = here
        · subst same
          simp only [Jammed, Waits, EventsFull, DataPlane.sendsL2cap, setRuntime_self, setRuntime_lane]
            at jammed
          exact Or.inl jammed
        · exact Or.inl (jammed.of_setRuntime_ne same)
      · cases taken
  | takeBatch here => exact jammed_takeBatch taken jammed
  | sendNext here => exact jammed_sendNext taken jammed
  | takeEvent here => exact Or.inl (jammed_takeEvent taken jammed)
  | receive here =>
      obtain ⟨lane, received, rfl⟩ := Option.map_eq_some_iff.mp taken
      by_cases same : side = here
      · subst same
        have reached : (plane.lane side).receive (plane.runtime side).channelOpen =
            some ((plane.setLane side lane).lane side) := by
          rw [setLane_self]
          exact received
        exact absurd jammed (not_jammed_of_receive (bounded side) reached)
      · exact Or.inl (jammed.of_eq rfl (setLane_ne same _))
  | write here count =>
      obtain ⟨lane, written, rfl⟩ := Option.map_eq_some_iff.mp taken
      exact Or.inl (jammed.of_setLane (keepsWriter_write written))
  | reportClosed here =>
      simp only [DataPlane.next, DataPlane.reportClosed] at taken
      split at taken
      · obtain ⟨offered, done, rfl⟩ := Option.map_eq_some_iff.mp taken
        obtain ⟨-, rfl⟩ := offerEvent_eq done
        by_cases same : side = here
        · subst same
          simp [Jammed, Waits, DataPlane.sendsL2cap, Lane.accepts] at jammed
        · exact Or.inl (jammed.of_eq (setRuntime_ne same _) (setLane_ne same _))
      · cases taken
  | read here count =>
      obtain ⟨lane, moved, rfl⟩ := Option.map_eq_some_iff.mp taken
      exact Or.inl (jammed.of_setLane (keepsWriter_read moved))
  | decode here =>
      obtain ⟨lane, decoded, rfl⟩ := Option.map_eq_some_iff.mp taken
      exact Or.inl (jammed.of_setLane (keepsWriter_decode decoded))
  | deliver here => exact jammed_deliver taken jammed

theorem closing_of_jammed (bounded : Bounded (plane.lane side))
    (taken : DataPlane.next config plane input = some reached) (jammed : Jammed config reached side)
    (closing : (reached.lane side).writer = .closing) : (plane.lane side).writer = .closing := by
  generalize shape : reached.lane side = after at closing
  have moved := laneMove_next taken side
  rw [shape] at moved
  cases moved with
  | still => exact closing
  | queue accepts room => exact closing
  | receive received =>
      rw [← shape] at received
      exact absurd jammed (not_jammed_of_receive bounded received)
  | write written => exact (keepsWriter_write written).closing closing
  | reportClosed => cases closing
  | read moved => exact (keepsWriter_read moved).closing closing
  | decode decoded => exact (keepsWriter_decode decoded).closing closing
  | deliver delivered => exact (keepsWriter_delivered delivered).closing closing

structure Unjammed (config : PlaneConfig) (plane : DataPlane) : Prop where
  sound : ∀ side, Sound (plane.lane side)
  bounded : ∀ side, Bounded (plane.lane side)
  apart : ∀ side, Jammed config plane side → ¬ Jammed config plane side.other
  reported : ∀ side, Jammed config plane side → (plane.lane side).writer ≠ .closing

theorem unjammed_start : Unjammed config .start where
  sound _ := sound_opened
  bounded _ := Nat.zero_le _
  apart _ jammed := absurd rfl jammed.1.1
  reported _ jammed := absurd rfl jammed.1.1

theorem Unjammed.next (unjammed : Unjammed config plane) (turn : AvoidsCircle config plane input)
    (taken : DataPlane.next config plane input = some reached) : Unjammed config reached where
  sound side := (unjammed.sound side).move (laneMove_next taken side)
  bounded side := (unjammed.bounded side).move (laneMove_next taken side)
  apart side jammed other := by
    rcases jammed_of_next unjammed.bounded taken jammed with before | now
    · rcases jammed_of_next unjammed.bounded taken other with otherBefore | otherNow
      · exact unjammed.apart side before otherBefore
      · have free := (turn side.other otherNow).1
        rw [Side.other_other] at free
        exact free before
    · rcases jammed_of_next unjammed.bounded taken other with otherBefore | otherNow
      · exact (turn side now).1 otherBefore
      · exact side.other_ne (Option.some.inj (otherNow.symm.trans now))
  reported side jammed closing := by
    have before := closing_of_jammed (unjammed.bounded side) taken jammed closing
    rcases jammed_of_next unjammed.bounded taken jammed with already | now
    · exact unjammed.reported side already before
    · exact (turn side now).2 before

theorem Unjammed.step (unjammed : Unjammed config plane) (turn : AvoidsCircle config plane input) :
    Unjammed config (DataPlane.step config plane input) :=
  attempt_cases (fun _ => unjammed) fun _ taken => unjammed.next turn taken

/-! ## Progress -/

/-- Some payload is in a batch in progress, an event queue or on its way between the two. -/
def Held (plane : DataPlane) : Prop :=
  ∃ side, (plane.runtime side).batch ≠ [] ∨ (plane.runtime side).events ≠ [] ∨
    (plane.lane side).writerQueue ≠ [] ∨ unwritten (plane.lane side).writer ≠ [] ∨
    (plane.lane side).pipe ≠ [] ∨ (plane.lane side).reader ≠ .reading []

structure Drained (lane : Lane) : Prop where
  pipe : lane.pipe = []
  unwritten : unwritten lane.writer = []
  reader : lane.reader = .reading []

section Stuck
variable (stuck : Stuck (DataPlane.next config) DataPlane.Internal plane)
include stuck

theorem idle_or_waits (side : Side) : (plane.runtime side).batch = [] ∨ Waits plane side := by
  have blocked := stuck (.sendNext side) trivial
  simp only [DataPlane.next, DataPlane.sendNext] at blocked
  split at blocked
  · rename_i idle
    exact Or.inl idle
  · rename_i payload rest batch
    refine Or.inr ⟨by simp [batch], ?_⟩
    split at blocked
    · rename_i sends
      split at blocked
      · cases blocked
      · rename_i full
        exact ⟨sends, by simpa using full⟩
    · cases blocked

theorem events_of_idle (idle : (plane.runtime side).batch = []) : (plane.runtime side).events = [] := by
  have blocked := stuck (.takeEvent side) trivial
  cases events : (plane.runtime side).events with
  | nil => rfl
  | cons event rest =>
      cases event <;> simp [DataPlane.next, DataPlane.takeEvent, idle, events] at blocked

theorem reading_of_room (sound : Sound (plane.lane side)) (room : ¬ EventsFull config plane side.other) :
    ∃ buffer, (plane.lane side).reader = .reading buffer ∧ decodeFrame buffer = .incomplete := by
  have undelivered := stuck (.deliver side) trivial
  have undecoded := stuck (.decode side) trivial
  cases reader : (plane.lane side).reader with
  | ended => exact absurd reader sound.healthy.1
  | delivering event buffer =>
      cases event with
      | channelClosed => exact absurd reader (sound.healthy.2 buffer)
      | frameReceived payload =>
          have space := Nat.not_le.mp room
          simp [DataPlane.next, DataPlane.deliver, Lane.delivered, reader, DataPlane.offerEvent, space]
            at undelivered
  | reading buffer =>
      refine ⟨buffer, rfl, ?_⟩
      rcases sound.decoded reader with incomplete | ⟨payload, left, frames, whole, -⟩
      · exact incomplete
      · simp [DataPlane.next, Lane.decode, reader, whole] at undecoded

theorem drained_of_room (sound : Sound (plane.lane side)) (room : ¬ EventsFull config plane side.other) :
    Drained (plane.lane side) := by
  obtain ⟨buffer, reader, incomplete⟩ := reading_of_room stuck sound room
  have pipe : (plane.lane side).pipe = [] := by
    have unread := stuck (.read side 1) trivial
    by_contra some
    have one : 1 ≤ (plane.lane side).pipe.length := List.length_pos_iff.mpr some
    simp [DataPlane.next, Lane.read, reader, incomplete, one] at unread
  have written : unwritten (plane.lane side).writer = [] := by
    have unwritten := stuck (.write side 1) trivial
    cases writer : (plane.lane side).writer with
    | writing rest =>
        have one : 1 ≤ rest.length := List.length_pos_iff.mpr (sound.writing rest writer)
        have space : 1 ≤ config.pipeCapacity side := config.pipeCapacity_pos side
        simp [DataPlane.next, Lane.write, writer, pipe, one, space] at unwritten
    | receiving => rfl
    | closing => rfl
    | ended => rfl
  refine ⟨pipe, written, ?_⟩
  obtain ⟨frames, fit, framed⟩ := sound.framed
  rw [reader, pipe, written, readBuffer, List.append_nil, List.append_nil] at framed
  cases frames with
  | nil => rw [reader, framed, List.flatMap_nil]
  | cons payload frames =>
      rw [framed, List.flatMap_cons, decodeFrame_encodeFrame (fit payload (by simp))] at incomplete
      cases incomplete

/-- A writer with nothing to write has taken all of its queue, unless it has failed and waits for the
event queue. -/
theorem writerQueue_of_drained (sound : Sound (plane.lane side)) (drained : Drained (plane.lane side)) :
    (plane.lane side).writerQueue = [] ∨
      (plane.lane side).writer = .closing ∧ EventsFull config plane side := by
  have untaken := stuck (.receive side) trivial
  have unreported := stuck (.reportClosed side) trivial
  cases writer : (plane.lane side).writer with
  | receiving =>
      left
      cases queue : (plane.lane side).writerQueue with
      | nil => rfl
      | cons payload rest =>
          simp only [DataPlane.next, Lane.receive, writer, queue] at untaken
          split at untaken <;> cases untaken
  | writing rest =>
      have written := drained.unwritten
      rw [writer] at written
      exact absurd written (sound.writing rest writer)
  | closing =>
      refine Or.inr ⟨rfl, ?_⟩
      by_contra room
      have space := Nat.not_le.mp room
      simp [DataPlane.next, DataPlane.reportClosed, writer, DataPlane.offerEvent, space] at unreported
  | ended => exact Or.inl (sound.dropped writer)

theorem idle_of_drained (unjammed : Unjammed config plane) (drained : Drained (plane.lane side)) :
    (plane.runtime side).batch = [] := by
  rcases idle_or_waits stuck side with idle | waits
  · exact idle
  · exfalso
    have full := of_decide_eq_false waits.2.2
    rcases writerQueue_of_drained stuck (unjammed.sound side) drained with empty | ⟨closing, events⟩
    · simp [empty, writerQueueCapacity] at full
    · exact unjammed.reported side ⟨waits, events⟩ closing

theorem room_of_idle (idle : (plane.runtime side).batch = []) : ¬ EventsFull config plane side := by
  rw [EventsFull, events_of_idle stuck idle]
  exact Nat.not_le.mpr (config.commandCapacity_pos side)

theorem room_of_not_jammed (free : ¬ Jammed config plane side) : ¬ EventsFull config plane side := by
  rcases idle_or_waits stuck side with idle | waits
  · exact room_of_idle stuck idle
  · exact fun full => free ⟨waits, full⟩

/-- A side that makes room for events lets the other side send all it has, which then makes room
itself. -/
theorem drained_of_stuck (unjammed : Unjammed config plane) (side : Side) :
    Drained (plane.lane side) ∧ (plane.runtime side).batch = [] := by
  obtain ⟨free, room⟩ : ∃ free, ¬ EventsFull config plane free := by
    by_cases jammed : Jammed config plane side
    · exact ⟨side.other, room_of_not_jammed stuck (unjammed.apart side jammed)⟩
    · exact ⟨side, room_of_not_jammed stuck jammed⟩
  have answered : Drained (plane.lane free.other) := by
    rw [← free.other_other] at room
    exact drained_of_room stuck (unjammed.sound _) room
  have idle := idle_of_drained stuck unjammed answered
  have drained := drained_of_room stuck (unjammed.sound free) (room_of_idle stuck idle)
  rcases free.eq_or_other side with rfl | rfl
  · exact ⟨drained, idle_of_drained stuck unjammed drained⟩
  · exact ⟨answered, idle⟩

theorem not_held_of_stuck (unjammed : Unjammed config plane) : ¬ Held plane := by
  rintro ⟨side, held⟩
  obtain ⟨drained, idle⟩ := drained_of_stuck stuck unjammed side
  have queue : (plane.lane side).writerQueue = [] := by
    rcases writerQueue_of_drained stuck (unjammed.sound side) drained with empty | ⟨-, full⟩
    · exact empty
    · exact absurd full (room_of_idle stuck idle)
  rcases held with batch | events | queued | unwritten | pipe | reader
  · exact batch idle
  · exact events (events_of_idle stuck idle)
  · exact queued queue
  · exact unwritten drained.unwritten
  · exact pipe drained.pipe
  · exact reader drained.reader

end Stuck

/-- If no circle of waiting tasks is closed along a run, some task can move whenever a payload is held
anywhere. -/
theorem held_moves_along_run (config : PlaneConfig) (inputs : List PlaneStep)
    (meets : Meets (DataPlane.step config) (AvoidsCircle config) .start inputs)
    (held : Held (exec (DataPlane.step config) .start inputs)) :
    ¬ Stuck (DataPlane.next config) DataPlane.Internal (exec (DataPlane.step config) .start inputs) := by
  intro stuck
  have unjammed := exec_invariant unjammed_start (fun _ _ holds turn => holds.step turn) meets
  exact not_held_of_stuck stuck unjammed held

def narrow : PlaneConfig where
  commandCapacity _ := 1
  pipeCapacity _ := 3
  commandCapacity_pos _ := by decide
  pipeCapacity_pos _ := by decide

-- The last send of the left side leaves it waiting behind the event of the right side, which is idle.
def answered : List PlaneStep :=
  [.dispatch .right [[9]], .takeBatch .right, .sendNext .right, .receive .right, .write .right 3,
    .read .right 3, .decode .right, .deliver .right, .dispatch .left (List.replicate 66 [0]),
    .takeBatch .left] ++ List.replicate 64 (.sendNext .left)

theorem answered_batch_moves :
    Meets (DataPlane.step narrow) (AvoidsCircle narrow) .start answered ∧
      Jammed narrow (exec (DataPlane.step narrow) .start answered) .left ∧
      ¬ Stuck (DataPlane.next narrow) DataPlane.Internal
        (exec (DataPlane.step narrow) .start answered) := by
  have meets : Meets (DataPlane.step narrow) (AvoidsCircle narrow) .start answered := by decide +kernel
  have jammed : Jammed narrow (exec (DataPlane.step narrow) .start answered) .left := by
    decide +kernel
  exact ⟨meets, jammed, held_moves_along_run narrow answered meets ⟨.left, Or.inl jammed.1.1⟩⟩

/-! ## The circle -/

/-- A side whose runtime, writer and reader of the other side's payloads all wait for one another or for
the other side. -/
structure Blocked (config : PlaneConfig) (plane : DataPlane) (side : Side) : Prop where
  jammed : Jammed config plane side
  writer : ∃ rest, (plane.lane side).writer = .writing rest
  pipe : (plane.lane side).pipe.length = config.pipeCapacity side
  reader : ∃ event buffer, (plane.lane side).reader = .delivering event buffer

theorem stuck_of_blocked (blocked : ∀ side, Blocked config plane side) :
    Stuck (DataPlane.next config) DataPlane.Internal plane := by
  intro input internal
  cases input with
  | dispatch side batch => cases internal
  | takeBatch side =>
      have busy := (blocked side).jammed.1.1
      simp [DataPlane.next, DataPlane.takeBatch, busy]
  | sendNext side =>
      obtain ⟨busy, sends, full⟩ := (blocked side).jammed.1
      simp only [DataPlane.next, DataPlane.sendNext, sends, full]
      split <;> rfl
  | takeEvent side =>
      have busy := (blocked side).jammed.1.1
      simp [DataPlane.next, DataPlane.takeEvent, busy]
  | receive side =>
      obtain ⟨rest, writing⟩ := (blocked side).writer
      simp [DataPlane.next, Lane.receive, writing]
  | write side count =>
      obtain ⟨rest, writing⟩ := (blocked side).writer
      have full := (blocked side).pipe
      simp only [DataPlane.next, Lane.write, writing, full, Option.map_eq_none_iff]
      rw [if_neg]
      rintro ⟨some, -, room⟩
      omega
  | reportClosed side =>
      obtain ⟨rest, writing⟩ := (blocked side).writer
      simp [DataPlane.next, DataPlane.reportClosed, writing]
  | read side count =>
      obtain ⟨event, buffer, delivering⟩ := (blocked side).reader
      simp [DataPlane.next, Lane.read, delivering]
  | decode side =>
      obtain ⟨event, buffer, delivering⟩ := (blocked side).reader
      simp [DataPlane.next, Lane.decode, delivering]
  | deliver side =>
      have full := Nat.not_lt.mpr (blocked side.other).jammed.2
      simp only [DataPlane.next, DataPlane.deliver, DataPlane.offerEvent, if_neg full]
      split <;> rfl

-- The other side gets one event, a frame its reader has to keep and a full pipe, while the runtime puts
-- a payload into the queue for each one the writer takes.
def flood (side : Side) : List PlaneStep :=
  [.dispatch side (List.replicate 69 [0]), .takeBatch side] ++ List.replicate 64 (.sendNext side) ++
  [.receive side, .sendNext side, .write side 3, .read side 3, .decode side, .deliver side,
    .receive side, .sendNext side, .write side 3, .read side 3, .decode side,
    .receive side, .sendNext side, .write side 3, .receive side, .sendNext side]

def floodBoth : List PlaneStep := flood .left ++ flood .right

theorem both_floods_deadlock :
    ¬ ∀ (config : PlaneConfig) (inputs : List PlaneStep),
      Held (exec (DataPlane.step config) .start inputs) →
        ¬ Stuck (DataPlane.next config) DataPlane.Internal
          (exec (DataPlane.step config) .start inputs) := by
  intro moves
  have blocked : ∀ side, Blocked narrow (exec (DataPlane.step narrow) .start floodBoth) side := by
    intro side
    cases side with
    | left =>
        exact ⟨by decide +kernel, ⟨[1, 0, 0], by decide +kernel⟩, by decide +kernel,
          ⟨.frameReceived [0], [], by decide +kernel⟩⟩
    | right =>
        exact ⟨by decide +kernel, ⟨[1, 0, 0], by decide +kernel⟩, by decide +kernel,
          ⟨.frameReceived [0], [], by decide +kernel⟩⟩
  exact moves narrow floodBoth ⟨.left, Or.inl (blocked .left).jammed.1.1⟩ (stuck_of_blocked blocked)

end JqBle.Proof.LinkProfile
