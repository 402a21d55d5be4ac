import JqBle.Proof.LinkProfile.DataPlane
import JqBle.Library.History

/-!
# The order of payloads on an L2CAP channel

A direction of the channel is a writer queue followed by the wire: the bytes that are written, piped and
read, and the frames that wait to be taken. Both are first in, first out. A payload that is too long
for the codec ends the direction.
-/

namespace JqBle.Proof.LinkProfile
open Library Execution JqBle.LinkProfile

/-! ## The frames of a byte stream -/

def framesIn : (fuel : Nat) → List UInt8 → List (List UInt8)
  | 0, _ => []
  | fuel + 1, bytes =>
      match decodeFrame bytes with
      | .frame payload rest => payload :: framesIn fuel rest
      | .incomplete | .tooLong => []

def Fits (payload : List UInt8) : Prop := payload.length ≤ l2capFrameMaxBytes

instance : DecidablePred Fits := fun _ => inferInstanceAs (Decidable (_ ≤ _))

theorem framesIn_encoded {frames : List (List UInt8)} (fit : ∀ frame ∈ frames, Fits frame)
    {fuel : Nat} (enough : frames.length ≤ fuel) :
    framesIn fuel (frames.flatMap encodeFrame) = frames := by
  induction frames generalizing fuel with
  | nil => cases fuel <;> rfl
  | cons frame rest ih =>
      cases fuel with
      | zero => cases enough
      | succ fuel =>
          have first : decodeFrame (encodeFrame frame ++ rest.flatMap encodeFrame) = _ :=
            decodeFrame_encodeFrame (fit frame (by simp))
          simp only [List.flatMap_cons, framesIn, first]
          rw [ih]
          · intro later member
            exact fit later (List.mem_cons_of_mem _ member)
          · exact Nat.le_of_succ_le_succ enough

theorem length_le_encoded (frames : List (List UInt8)) :
    frames.length ≤ (frames.flatMap encodeFrame).length := by
  induction frames with
  | nil => exact Nat.le_refl _
  | cons frame rest ih =>
      simp only [List.flatMap_cons, List.length_append, List.length_cons, encodeFrame]
      omega

def streamFrames (bytes : List UInt8) : List (List UInt8) := framesIn bytes.length bytes

theorem streamFrames_encoded {frames : List (List UInt8)} (fit : ∀ frame ∈ frames, Fits frame) :
    streamFrames (frames.flatMap encodeFrame) = frames :=
  framesIn_encoded fit (length_le_encoded frames)

/-! ## What is on the wire -/

def framePayloads (events : List LaneEvent) : List (List UInt8) :=
  events.filterMap fun
    | .frameReceived payload => some payload
    | .channelClosed => none

def beingDelivered : ReaderTask → List (List UInt8)
  | .delivering (.frameReceived payload) _ => [payload]
  | .delivering .channelClosed _ | .reading _ | .ended => []

def wireBytes (lane : Lane) : List UInt8 :=
  readBuffer lane.reader ++ (lane.pipe ++ unwritten lane.writer)

def laneFrames (lane : Lane) : List (List UInt8) :=
  beingDelivered lane.reader ++ streamFrames (wireBytes lane)

def waitingFrames (lane : Lane) : List (List UInt8) :=
  match lane.writer with
  | .receiving | .writing _ => lane.writerQueue.takeWhile Fits
  | .closing | .ended => []

/-- The payloads between the writer of a side and the runtime of the other one. -/
def onWire (side : Side) (plane : DataPlane) : List (List UInt8) :=
  framePayloads (plane.runtime side.other).events ++ laneFrames (plane.lane side)

section Lanes
variable {lane after : Lane}

theorem Sound.streamFrames (sound : Sound lane) :
    ∃ frames : List (List UInt8), (∀ frame ∈ frames, Fits frame) ∧
      wireBytes lane = frames.flatMap encodeFrame ∧ streamFrames (wireBytes lane) = frames := by
  obtain ⟨frames, fit, framed⟩ := sound.framed
  refine ⟨frames, fit, framed, ?_⟩
  rw [wireBytes, framed]
  exact streamFrames_encoded fit

theorem laneFrames_of_bytes (bytes : wireBytes after = wireBytes lane)
    (reader : beingDelivered after.reader = beingDelivered lane.reader) :
    laneFrames after = laneFrames lane := by
  rw [laneFrames, laneFrames, bytes, reader]

def nextFramed (lane : Lane) : List (List UInt8) :=
  match lane.writer, lane.writerQueue with
  | .receiving, payload :: _ => if Fits payload then [payload] else []
  | _, _ => []

theorem nextFramed_of_disabled {channelOpen : Bool} (disabled : lane.receive channelOpen = none) :
    nextFramed lane = [] := by
  cases queue : lane.writerQueue with
  | nil =>
      rw [nextFramed, queue]
      cases lane.writer <;> rfl
  | cons payload rest =>
      cases writer : lane.writer with
      | receiving =>
          simp only [Lane.receive, writer, queue] at disabled
          split at disabled <;> cases disabled
      | writing rest => simp [nextFramed, writer]
      | closing => simp [nextFramed, writer]
      | ended => simp [nextFramed, writer]

theorem laneFrames_receive (sound : Sound lane) {channelOpen : Bool}
    (received : lane.receive channelOpen = some after) :
    laneFrames after = laneFrames lane ++ nextFramed lane := by
  unfold Lane.receive at received
  unfold nextFramed
  split at received
  · rename_i payload rest receiving filled
    simp only [receiving, filled]
    split at received
    · rename_i fits
      obtain rfl := Option.some.inj received
      obtain ⟨frames, fit, bytes, whole⟩ := sound.streamFrames
      have longer : wireBytes { lane with
          writerQueue := rest, writer := .writing (encodeFrame payload) } =
          (frames ++ [payload]).flatMap encodeFrame := by
        rw [List.flatMap_append, ← bytes]
        simp [wireBytes, receiving, unwritten]
      have split : streamFrames ((frames ++ [payload]).flatMap encodeFrame) = frames ++ [payload] := by
        apply streamFrames_encoded
        intro frame member
        rcases List.mem_append.mp member with old | new
        · exact fit frame old
        · obtain rfl := List.mem_singleton.mp new
          exact fits
      rw [laneFrames, laneFrames, longer, split, whole,
        if_pos (show Fits payload from fits), List.append_assoc]
    · rename_i tooLong
      obtain rfl := Option.some.inj received
      rw [if_neg (show ¬ Fits payload from tooLong), List.append_nil]
      apply laneFrames_of_bytes
      · simp [wireBytes, receiving, unwritten]
      · rfl
  · rename_i receiving empty
    simp only [receiving, empty, List.append_nil]
    split at received
    · cases received
    · obtain rfl := Option.some.inj received
      apply laneFrames_of_bytes
      · simp [wireBytes, receiving, unwritten]
      · rfl
  · cases received

theorem laneFrames_write {pipeCapacity count : Nat}
    (written : lane.write pipeCapacity count = some after) : laneFrames after = laneFrames lane := by
  unfold Lane.write at written
  split at written
  · rename_i rest writing
    split at written
    · obtain rfl := Option.some.inj written
      apply laneFrames_of_bytes
      · have left : unwritten (if rest.drop count = [] then WriterTask.receiving
            else .writing (rest.drop count)) = rest.drop count := by
          split
          · rename_i nothing
            exact nothing.symm
          · rfl
        simp only [wireBytes, writing, left]
        simp [unwritten]
      · rfl
    · cases written
  · cases written

theorem laneFrames_read {count : Nat} (moved : lane.read count = some after) :
    laneFrames after = laneFrames lane := by
  unfold Lane.read at moved
  split at moved
  · rename_i buffer reading
    split at moved
    · obtain rfl := Option.some.inj moved
      apply laneFrames_of_bytes
      · rw [wireBytes, wireBytes, reading]
        simp only [readBuffer]
        rw [List.append_assoc, ← List.append_assoc (lane.pipe.take count), List.take_append_drop]
      · rw [reading]
        rfl
    · cases moved
  · cases moved

theorem laneFrames_decode (sound : Sound lane) (decoded : lane.decode = some after) :
    laneFrames after = laneFrames lane := by
  unfold Lane.decode at decoded
  split at decoded
  · rename_i buffer reading
    obtain ⟨frames, fit, bytes, whole⟩ := sound.streamFrames
    cases frames with
    | nil =>
        rw [wireBytes, reading] at bytes
        obtain ⟨empty, -⟩ := List.append_eq_nil_iff.mp bytes
        obtain rfl : buffer = [] := empty
        cases decoded
    | cons payload frames =>
        have fitting : ∀ frame ∈ frames, Fits frame :=
          fun frame member => fit frame (List.mem_cons_of_mem _ member)
        have before : laneFrames lane = payload :: frames := by
          rw [laneFrames, whole, reading]
          rfl
        rw [wireBytes, reading, List.flatMap_cons] at bytes
        rcases decodeFrame_append (fit payload (by simp)) bytes with incomplete | ⟨left, found, rest⟩
        · simp only [readBuffer] at incomplete
          rw [incomplete] at decoded
          cases decoded
        · simp only [readBuffer] at found
          rw [found] at decoded
          obtain rfl := Option.some.inj decoded
          have shorter : wireBytes { lane with reader := .delivering (.frameReceived payload) left } =
              frames.flatMap encodeFrame := rest
          rw [before, laneFrames, shorter, streamFrames_encoded fitting]
          rfl
  · cases decoded

theorem laneFrames_delivered (sound : Sound lane) {event : LaneEvent}
    (delivered : lane.delivered = some (event, after)) :
    laneFrames lane = framePayloads [event] ++ laneFrames after := by
  unfold Lane.delivered at delivered
  split at delivered
  · rename_i buffer closed
    exact absurd closed (sound.healthy.2 buffer)
  · rename_i payload buffer delivering
    obtain ⟨rfl, rfl⟩ := Prod.mk.inj (Option.some.inj delivered)
    simp [laneFrames, wireBytes, delivering, beingDelivered, readBuffer, framePayloads]
  · cases delivered

theorem laneFrames_closed (closing : lane.writer = .closing) :
    laneFrames { lane with writerQueue := [], writer := .ended } = laneFrames lane := by
  apply laneFrames_of_bytes
  · simp [wireBytes, closing, unwritten]
  · rfl

end Lanes

/-! ## One step -/

variable {config : PlaneConfig} {plane reached : DataPlane} {input : PlaneStep} {side : Side}

def SoundPlane (plane : DataPlane) : Prop := ∀ side, Sound (plane.lane side)

theorem soundPlane_start : SoundPlane .start := fun _ => sound_opened

theorem soundPlane_step (sound : SoundPlane plane) : SoundPlane (DataPlane.step config plane input) := by
  apply attempt_cases
  · intro _
    exact sound
  · intro reached taken side
    exact (sound side).move (laneMove_next taken side)

inductive PlaneMove (config : PlaneConfig) (plane : DataPlane) : PlaneStep → DataPlane → Prop
  | dispatched (here : Side) (batch : List (List UInt8))
      (room : (plane.runtime here).commands.length < config.commandCapacity here) :
      PlaneMove config plane (.dispatch here batch) (plane.setRuntime here
        { plane.runtime here with commands := (plane.runtime here).commands ++ [batch] })
  | batchTaken (here : Side) (batch : List (List UInt8)) (rest : List (List (List UInt8)))
      (idle : (plane.runtime here).batch = []) (queued : (plane.runtime here).commands = batch :: rest) :
      PlaneMove config plane (.takeBatch here)
        (plane.setRuntime here { plane.runtime here with commands := rest, batch := batch })
  | sent (here : Side) (payload : List UInt8) (rest : List (List UInt8))
      (pending : (plane.runtime here).batch = payload :: rest)
      (sends : plane.sendsL2cap here = true) (room : (plane.lane here).hasRoom = true) :
      PlaneMove config plane (.sendNext here)
        ((plane.setRuntime here { plane.runtime here with batch := rest }).setLane here
          { plane.lane here with writerQueue := (plane.lane here).writerQueue ++ [payload] })
  | unsent (here : Side) (payload : List UInt8) (rest : List (List UInt8))
      (pending : (plane.runtime here).batch = payload :: rest)
      (fails : ¬ plane.sendsL2cap here = true) :
      PlaneMove config plane (.sendNext here)
        (plane.setRuntime here { plane.runtime here with batch := rest, channelOpen := false })
  | frameTaken (here : Side) (payload : List UInt8) (rest : List LaneEvent)
      (idle : (plane.runtime here).batch = [])
      (events : (plane.runtime here).events = .frameReceived payload :: rest) :
      PlaneMove config plane (.takeEvent here)
        (plane.setRuntime here { plane.runtime here with events := rest })
  | closeTaken (here : Side) (rest : List LaneEvent) (idle : (plane.runtime here).batch = [])
      (events : (plane.runtime here).events = .channelClosed :: rest) :
      PlaneMove config plane (.takeEvent here)
        (plane.setRuntime here { plane.runtime here with events := rest, channelOpen := false })
  | received (here : Side) (lane : Lane)
      (moved : (plane.lane here).receive (plane.runtime here).channelOpen = some lane) :
      PlaneMove config plane (.receive here) (plane.setLane here lane)
  | wrote (here : Side) (count : Nat) (lane : Lane)
      (moved : (plane.lane here).write (config.pipeCapacity here) count = some lane) :
      PlaneMove config plane (.write here count) (plane.setLane here lane)
  | read (here : Side) (count : Nat) (lane : Lane)
      (moved : (plane.lane here).read count = some lane) :
      PlaneMove config plane (.read here count) (plane.setLane here lane)
  | decoded (here : Side) (lane : Lane) (moved : (plane.lane here).decode = some lane) :
      PlaneMove config plane (.decode here) (plane.setLane here lane)
  | closeReported (here : Side) (closing : (plane.lane here).writer = .closing)
      (room : (plane.runtime here).events.length < config.commandCapacity here) :
      PlaneMove config plane (.reportClosed here)
        ((plane.setRuntime here { plane.runtime here with
            events := (plane.runtime here).events ++ [.channelClosed] }).setLane here
          { plane.lane here with writerQueue := [], writer := .ended })
  | delivered (here : Side) (event : LaneEvent) (lane : Lane)
      (delivers : (plane.lane here).delivered = some (event, lane))
      (room : (plane.runtime here.other).events.length < config.commandCapacity here.other) :
      PlaneMove config plane (.deliver here)
        ((plane.setRuntime here.other { plane.runtime here.other with
            events := (plane.runtime here.other).events ++ [event] }).setLane here lane)

theorem planeMove_next (taken : DataPlane.next config plane input = some reached) :
    PlaneMove config plane input reached := by
  cases input with
  | dispatch here batch =>
      simp only [DataPlane.next, DataPlane.dispatch] at taken
      split at taken
      · obtain rfl := Option.some.inj taken
        exact .dispatched here batch ‹_›
      · cases taken
  | takeBatch here =>
      simp only [DataPlane.next, DataPlane.takeBatch] at taken
      split at taken
      · rename_i batch rest idle queued
        obtain rfl := Option.some.inj taken
        exact .batchTaken here batch rest idle queued
      · cases taken
  | sendNext here =>
      simp only [DataPlane.next, DataPlane.sendNext] at taken
      split at taken
      · cases taken
      · rename_i payload rest pending
        split at taken
        · rename_i sends
          split at taken
          · rename_i room
            obtain rfl := Option.some.inj taken
            exact .sent here payload rest pending sends room
          · cases taken
        · rename_i fails
          obtain rfl := Option.some.inj taken
          exact .unsent here payload rest pending fails
  | takeEvent here =>
      simp only [DataPlane.next, DataPlane.takeEvent] at taken
      split at taken
      · rename_i payload rest idle events
        obtain rfl := Option.some.inj taken
        exact .frameTaken here payload rest idle events
      · rename_i rest idle events
        obtain rfl := Option.some.inj taken
        exact .closeTaken here rest idle events
      · cases taken
  | receive here =>
      obtain ⟨lane, moved, rfl⟩ := Option.map_eq_some_iff.mp taken
      exact .received here lane moved
  | write here count =>
      obtain ⟨lane, moved, rfl⟩ := Option.map_eq_some_iff.mp taken
      exact .wrote here count lane moved
  | reportClosed here =>
      simp only [DataPlane.next, DataPlane.reportClosed] at taken
      split at taken
      · rename_i closing
        obtain ⟨offered, done, rfl⟩ := Option.map_eq_some_iff.mp taken
        obtain ⟨room, rfl⟩ := offerEvent_eq done
        exact .closeReported here closing room
      · cases taken
  | read here count =>
      obtain ⟨lane, moved, rfl⟩ := Option.map_eq_some_iff.mp taken
      exact .read here count lane moved
  | decode here =>
      obtain ⟨lane, moved, rfl⟩ := Option.map_eq_some_iff.mp taken
      exact .decoded here lane moved
  | deliver here =>
      simp only [DataPlane.next, DataPlane.deliver] at taken
      split at taken
      · rename_i event lane delivers
        obtain ⟨offered, done, rfl⟩ := Option.map_eq_some_iff.mp taken
        obtain ⟨room, rfl⟩ := offerEvent_eq done
        exact .delivered here event lane delivers room
      · cases taken

def framedBy (side : Side) (plane : DataPlane) : PlaneStep → List (List UInt8)
  | .receive here => if here = side then nextFramed (plane.lane side) else []
  | _ => []

def takenFrom (side : Side) (plane : DataPlane) : PlaneStep → List (List UInt8)
  | .takeEvent here =>
      if here = side ∧ (plane.runtime side).batch = [] then
        framePayloads ((plane.runtime side).events.take 1)
      else []
  | _ => []

theorem onWire_congr
    (events : (reached.runtime side.other).events = (plane.runtime side.other).events)
    (frames : laneFrames (reached.lane side) = laneFrames (plane.lane side)) :
    onWire side reached = onWire side plane := by
  rw [onWire, onWire, events, frames]

theorem events_setRuntime {here : Side} {runtime : PlaneRuntime}
    (same : runtime.events = (plane.runtime here).events) :
    ((plane.setRuntime here runtime).runtime side).events = (plane.runtime side).events := by
  rcases eq_or_ne side here with rfl | different
  · rw [setRuntime_self, same]
  · rw [setRuntime_ne different]

theorem laneFrames_setLane {here : Side} {lane : Lane}
    (same : laneFrames lane = laneFrames (plane.lane here)) :
    laneFrames ((plane.setLane here lane).lane side) = laneFrames (plane.lane side) := by
  rcases eq_or_ne side here with rfl | different
  · rw [setLane_self, same]
  · rw [setLane_ne different]

@[simp] theorem framePayloads_append (events more : List LaneEvent) :
    framePayloads (events ++ more) = framePayloads events ++ framePayloads more :=
  List.filterMap_append ..

theorem framePayloads_offered (plane : DataPlane) (side here : Side) (event : LaneEvent) :
    framePayloads ((plane.setRuntime here { plane.runtime here with
        events := (plane.runtime here).events ++ [event] }).runtime side).events =
      framePayloads (plane.runtime side).events ++
        if side = here then framePayloads [event] else [] := by
  rcases eq_or_ne side here with rfl | different
  · rw [setRuntime_self, if_pos rfl]
    exact framePayloads_append ..
  · rw [setRuntime_ne different, if_neg different, List.append_nil]

theorem onWire_setRuntime {here : Side} {runtime : PlaneRuntime}
    (same : runtime.events = (plane.runtime here).events) :
    onWire side (plane.setRuntime here runtime) = onWire side plane :=
  onWire_congr (events_setRuntime same) rfl

theorem onWire_setLane {here : Side} {lane : Lane}
    (same : laneFrames lane = laneFrames (plane.lane here)) :
    onWire side (plane.setLane here lane) = onWire side plane :=
  onWire_congr rfl (laneFrames_setLane same)

/-- The event at the head is taken off the wire if it is of this side. -/
theorem onWire_eventTaken {here : Side} {event : LaneEvent} {rest : List LaneEvent}
    {runtime : PlaneRuntime} (idle : (plane.runtime here).batch = [])
    (events : (plane.runtime here).events = event :: rest) (left : runtime.events = rest) :
    onWire side plane =
      takenFrom side.other plane (.takeEvent here) ++ onWire side (plane.setRuntime here runtime) := by
  rw [takenFrom, onWire, onWire, setRuntime_lane]
  rcases eq_or_ne here side.other with rfl | different
  · rw [if_pos ⟨rfl, idle⟩, setRuntime_self, events, left, ← List.append_assoc]
    exact congrArg (· ++ _) (framePayloads_append [event] rest)
  · rw [if_neg (fun both => different both.1), setRuntime_ne different.symm]
    rfl

theorem onWire_received (sound : SoundPlane plane) {here : Side} {lane : Lane}
    (moved : (plane.lane here).receive (plane.runtime here).channelOpen = some lane) :
    onWire side plane ++ framedBy side plane (.receive here) =
      onWire side (plane.setLane here lane) := by
  have longer := laneFrames_receive (sound here) moved
  rw [framedBy, onWire, onWire, setLane_runtime]
  rcases eq_or_ne here side with rfl | different
  · rw [setLane_self, longer, if_pos rfl, List.append_assoc]
  · rw [setLane_ne different.symm, if_neg different, List.append_nil]

theorem onWire_closeReported {here : Side} (closing : (plane.lane here).writer = .closing) :
    onWire side ((plane.setRuntime here { plane.runtime here with
        events := (plane.runtime here).events ++ [.channelClosed] }).setLane here
      { plane.lane here with writerQueue := [], writer := .ended }) = onWire side plane := by
  refine Eq.trans (onWire_setLane ?_) ?_
  · exact laneFrames_closed closing
  · rw [onWire, onWire, framePayloads_offered]
    apply congrArg₂ (· ++ ·)
    · simp [framePayloads]
    · rfl

theorem onWire_delivered (sound : SoundPlane plane) {here : Side} {event : LaneEvent} {lane : Lane}
    (delivers : (plane.lane here).delivered = some (event, lane)) :
    onWire side ((plane.setRuntime here.other { plane.runtime here.other with
      events := (plane.runtime here.other).events ++ [event] }).setLane here lane) =
      onWire side plane := by
  have frames := laneFrames_delivered (sound here) delivers
  rw [onWire, onWire, setLane_runtime, framePayloads_offered]
  rcases eq_or_ne side here with rfl | different
  · rw [setLane_self, if_pos rfl, frames, List.append_assoc]
  · have apart : side.other ≠ here.other := fun same => different (by
      rw [← Side.other_other side, same, Side.other_other])
    rw [setLane_ne different, if_neg apart, List.append_nil]
    rfl

theorem onWire_move (sound : SoundPlane plane) (move : PlaneMove config plane input reached) :
    onWire side plane ++ framedBy side plane input =
      takenFrom side.other plane input ++ onWire side reached := by
  have kept {reached : DataPlane} (same : onWire side reached = onWire side plane) :
      onWire side plane ++ [] = [] ++ onWire side reached := by
    rw [same, List.append_nil, List.nil_append]
  cases move with
  | dispatched | batchTaken | unsent => exact kept (onWire_setRuntime rfl)
  | sent =>
      apply kept
      refine Eq.trans (onWire_setLane (laneFrames_of_bytes rfl rfl)) ?_
      exact onWire_setRuntime rfl
  | frameTaken here payload rest idle events | closeTaken here rest idle events =>
      show onWire side plane ++ [] = _
      rw [List.append_nil]
      exact onWire_eventTaken idle events rfl
  | received here lane moved => exact onWire_received sound moved
  | wrote here count lane moved => exact kept (onWire_setLane (laneFrames_write moved))
  | read here count lane moved => exact kept (onWire_setLane (laneFrames_read moved))
  | decoded here lane moved => exact kept (onWire_setLane (laneFrames_decode (sound here) moved))
  | closeReported here closing room => exact kept (onWire_closeReported closing)
  | delivered here event lane delivers room => exact kept (onWire_delivered sound delivers)

theorem takenFrom_of_disabled (disabled : DataPlane.next config plane input = none) :
    takenFrom side plane input = [] := by
  cases input with
  | takeEvent here =>
      rw [takenFrom]
      split
      · rename_i both
        obtain ⟨rfl, idle⟩ := both
        simp only [DataPlane.next, DataPlane.takeEvent, idle] at disabled
        split at disabled
        · cases disabled
        · cases disabled
        · rename_i neither closed
          cases events : (plane.runtime here).events with
          | nil => rfl
          | cons event rest =>
              cases event with
              | frameReceived payload => exact absurd events (neither payload rest rfl)
              | channelClosed => exact absurd events (closed rest rfl)
      · rfl
  | _ => rfl

theorem framedBy_of_disabled (disabled : DataPlane.next config plane input = none) :
    framedBy side plane input = [] := by
  cases input with
  | receive here =>
      rw [framedBy]
      split
      · rename_i same
        rw [← same]
        exact nextFramed_of_disabled (Option.map_eq_none_iff.mp disabled)
      · rfl
  | _ => rfl

/-- The wire of a side is first in, first out. -/
theorem onWire_step (sound : SoundPlane plane) (input : PlaneStep) :
    onWire side plane ++ framedBy side plane input =
      takenFrom side.other plane input ++ onWire side (DataPlane.step config plane input) := by
  apply attempt_cases (P := fun after => onWire side plane ++ framedBy side plane input =
    takenFrom side.other plane input ++ onWire side after)
  · intro disabled
    rw [takenFrom_of_disabled disabled, framedBy_of_disabled disabled, List.append_nil,
      List.nil_append]
  · intro reached taken
    exact onWire_move sound (planeMove_next taken)

/-! ## The writer -/

/-- What the writer has framed of what was sent: all but its queue, all up to a payload that is too
long, or all of it once the channel is dropped. -/
inductive WriterHistory (lane : Lane) (sent framed : List (List UInt8)) : Prop
  | alive (writes : lane.writer = .receiving ∨ ∃ rest, lane.writer = .writing rest)
      (split : sent = framed ++ lane.writerQueue)
  | refused (payload : List UInt8) (more : List (List UInt8))
      (stopped : lane.writer = .closing ∨ lane.writer = .ended) (tooLong : ¬ Fits payload)
      (split : sent = framed ++ payload :: more)
  | dropped (ended : lane.writer = .ended) (split : sent = framed)

section Writer
variable {lane after : Lane} {sent framed : List (List UInt8)}

theorem WriterHistory.congr (history : WriterHistory lane sent framed)
    (writer : after.writer = lane.writer) (queue : after.writerQueue = lane.writerQueue) :
    WriterHistory after sent framed := by
  cases history with
  | alive writes split => exact .alive (by rw [writer]; exact writes) (by rw [queue]; exact split)
  | refused payload more stopped tooLong split =>
      exact .refused payload more (by rw [writer]; exact stopped) tooLong split
  | dropped ended split => exact .dropped (by rw [writer]; exact ended) split

theorem WriterHistory.send (history : WriterHistory lane sent framed) (accepts : lane.accepts = true)
    (payload : List UInt8) :
    WriterHistory { lane with writerQueue := lane.writerQueue ++ [payload] } (sent ++ [payload])
      framed := by
  cases history with
  | alive writes split =>
      refine .alive writes ?_
      rw [split, List.append_assoc]
  | refused first more stopped tooLong split =>
      refine .refused first (more ++ [payload]) stopped tooLong ?_
      rw [split, List.append_assoc]
      rfl
  | dropped ended split => simp [Lane.accepts, ended] at accepts

theorem WriterHistory.receive (history : WriterHistory lane sent framed) {channelOpen : Bool}
    (received : lane.receive channelOpen = some after) :
    WriterHistory after sent (framed ++ nextFramed lane) := by
  unfold Lane.receive at received
  unfold nextFramed
  split at received
  · rename_i payload rest receiving filled
    simp only [receiving, filled]
    cases history with
    | alive writes split =>
        rw [filled] at split
        split at received
        · rename_i fits
          obtain rfl := Option.some.inj received
          rw [if_pos (show Fits payload from fits)]
          apply WriterHistory.alive (Or.inr ⟨_, rfl⟩)
          rw [split, List.append_assoc]
          rfl
        · rename_i tooLong
          obtain rfl := Option.some.inj received
          rw [if_neg (show ¬ Fits payload from tooLong), List.append_nil]
          exact .refused payload rest (Or.inl rfl) tooLong split
    | refused first more stopped tooLong split =>
        rw [receiving] at stopped
        rcases stopped with closing | ended
        · cases closing
        · cases ended
    | dropped ended split =>
        rw [receiving] at ended
        cases ended
  · rename_i receiving empty
    simp only [receiving, empty, List.append_nil]
    split at received
    · cases received
    · obtain rfl := Option.some.inj received
      cases history with
      | alive writes split =>
          rw [empty, List.append_nil] at split
          exact .dropped rfl split
      | refused first more stopped tooLong split =>
          exact .refused first more (Or.inr rfl) tooLong split
      | dropped ended split => exact .dropped rfl split
  · cases received

theorem WriterHistory.write (history : WriterHistory lane sent framed) {pipeCapacity count : Nat}
    (written : lane.write pipeCapacity count = some after) : WriterHistory after sent framed := by
  unfold Lane.write at written
  split at written
  · rename_i rest writing
    split at written
    · obtain rfl := Option.some.inj written
      cases history with
      | alive writes split =>
          refine .alive ?_ split
          by_cases whole : rest.drop count = []
          · exact Or.inl (if_pos whole)
          · exact Or.inr ⟨_, if_neg whole⟩
      | refused first more stopped tooLong split =>
          rw [writing] at stopped
          rcases stopped with closing | ended
          · cases closing
          · cases ended
      | dropped ended split =>
          rw [writing] at ended
          cases ended
    · cases written
  · cases written

theorem WriterHistory.reportClosed (history : WriterHistory lane sent framed)
    (closing : lane.writer = .closing) :
    WriterHistory { lane with writerQueue := [], writer := .ended } sent framed := by
  cases history with
  | alive writes split =>
      rw [closing] at writes
      rcases writes with receiving | ⟨rest, writing⟩
      · cases receiving
      · cases writing
  | refused first more stopped tooLong split => exact .refused first more (Or.inr rfl) tooLong split
  | dropped ended split => exact .dropped rfl split

theorem WriterHistory.read (history : WriterHistory lane sent framed) {count : Nat}
    (moved : lane.read count = some after) : WriterHistory after sent framed := by
  unfold Lane.read at moved
  split at moved
  · split at moved
    · obtain rfl := Option.some.inj moved
      exact history.congr rfl rfl
    · cases moved
  · cases moved

theorem WriterHistory.decode (history : WriterHistory lane sent framed)
    (decoded : lane.decode = some after) : WriterHistory after sent framed := by
  unfold Lane.decode at decoded
  split at decoded
  · split at decoded
    · cases decoded
    · obtain rfl := Option.some.inj decoded
      exact history.congr rfl rfl
    · obtain rfl := Option.some.inj decoded
      exact history.congr rfl rfl
  · cases decoded

theorem WriterHistory.delivered (history : WriterHistory lane sent framed) {event : LaneEvent}
    (delivered : lane.delivered = some (event, after)) : WriterHistory after sent framed := by
  unfold Lane.delivered at delivered
  split at delivered
  · obtain ⟨-, rfl⟩ := Prod.mk.inj (Option.some.inj delivered)
    exact history.congr rfl rfl
  · obtain ⟨-, rfl⟩ := Prod.mk.inj (Option.some.inj delivered)
    exact history.congr rfl rfl
  · cases delivered

end Writer

section WriterStep
variable {sent framed : List (List UInt8)}

theorem WriterHistory.setLane {here : Side} {lane : Lane}
    (history : WriterHistory (plane.lane side) sent framed) (kept : reached.lane = plane.lane)
    (moved : here = side → WriterHistory lane sent framed) :
    WriterHistory ((reached.setLane here lane).lane side) sent framed := by
  rcases eq_or_ne side here with rfl | different
  · rw [setLane_self]
    exact moved rfl
  · rw [setLane_ne different, kept]
    exact history

theorem sentOver_of_disabled (disabled : DataPlane.next config plane input = none) :
    DataPlane.sentOver side plane input = [] := by
  cases input with
  | sendNext here =>
      rw [DataPlane.sentOver]
      simp only [DataPlane.next, DataPlane.sendNext] at disabled
      split
      · rename_i queued
        obtain ⟨rfl, sends, room⟩ := queued
        split at disabled
        · rename_i empty
          rw [empty]
          rfl
        · simp [sends, room] at disabled
      · rfl
  | _ => rfl

theorem WriterHistory.move (history : WriterHistory (plane.lane side) sent framed)
    (move : PlaneMove config plane input reached) :
    WriterHistory (reached.lane side) (sent ++ DataPlane.sentOver side plane input)
      (framed ++ framedBy side plane input) := by
  have kept {lane : Lane} (unchanged : WriterHistory lane sent framed) :
      WriterHistory lane (sent ++ []) (framed ++ []) := by
    rwa [List.append_nil, List.append_nil]
  cases move with
  | dispatched | batchTaken | frameTaken | closeTaken => exact kept history
  | sent here payload rest pending sends room =>
      show WriterHistory _ _ (framed ++ [])
      rw [List.append_nil, DataPlane.sentOver]
      rcases eq_or_ne side here with rfl | different
      · rw [setLane_self, if_pos ⟨rfl, sends, room⟩, pending]
        exact history.send (Bool.and_eq_true_iff.mp sends).2 payload
      · rw [setLane_ne different, if_neg (fun queued => different queued.1.symm), List.append_nil]
        exact history
  | unsent here payload rest pending fails =>
      show WriterHistory _ _ (framed ++ [])
      rw [List.append_nil, DataPlane.sentOver, if_neg, List.append_nil]
      · exact history
      · rintro ⟨rfl, sends, -⟩
        exact fails sends
  | received here lane moved =>
      show WriterHistory _ (sent ++ []) _
      rw [List.append_nil, framedBy]
      rcases eq_or_ne here side with rfl | different
      · rw [setLane_self, if_pos rfl]
        exact history.receive moved
      · rw [setLane_ne different.symm, if_neg different, List.append_nil]
        exact history
  | wrote here count lane moved =>
      apply kept
      apply history.setLane rfl
      rintro rfl
      exact history.write moved
  | read here count lane moved =>
      apply kept
      apply history.setLane rfl
      rintro rfl
      exact history.read moved
  | decoded here lane moved =>
      apply kept
      apply history.setLane rfl
      rintro rfl
      exact history.decode moved
  | closeReported here closing room =>
      apply kept
      apply history.setLane rfl
      rintro rfl
      exact history.reportClosed closing
  | delivered here event lane delivers room =>
      apply kept
      apply history.setLane rfl
      rintro rfl
      exact history.delivered delivers

theorem WriterHistory.step (history : WriterHistory (plane.lane side) sent framed)
    (input : PlaneStep) :
    WriterHistory ((DataPlane.step config plane input).lane side)
      (sent ++ DataPlane.sentOver side plane input) (framed ++ framedBy side plane input) := by
  apply attempt_cases (P := fun after : DataPlane => WriterHistory (after.lane side)
    (sent ++ DataPlane.sentOver side plane input) (framed ++ framedBy side plane input))
  · intro disabled
    rw [sentOver_of_disabled disabled, framedBy_of_disabled disabled, List.append_nil,
      List.append_nil]
    exact history
  · intro reached taken
    exact history.move (planeMove_next taken)

theorem fits_nextFramed {lane : Lane} : ∀ payload ∈ nextFramed lane, Fits payload := by
  intro payload member
  unfold nextFramed at member
  split at member
  · split at member
    · rename_i fits
      obtain rfl := List.mem_singleton.mp member
      exact fits
    · cases member
  · cases member

theorem fits_framedBy : ∀ payload ∈ framedBy side plane input, Fits payload := by
  intro payload member
  unfold framedBy at member
  split at member
  · split at member
    · exact fits_nextFramed payload member
    · cases member
  · cases member

end WriterStep

/-! ## Executions -/

section Run
variable {inputs : List PlaneStep}

theorem writerHistory_exec (config : PlaneConfig) (side : Side) (inputs : List PlaneStep) :
    WriterHistory ((exec (DataPlane.step config) .start inputs).lane side)
      (history (DataPlane.step config) (DataPlane.sentOver side) .start inputs)
      (history (DataPlane.step config) (framedBy side) .start inputs) := by
  induction inputs using List.reverseRecOn with
  | nil => exact .alive (Or.inl rfl) rfl
  | append_singleton before input ih =>
      rw [exec_snoc, history_snoc, history_snoc]
      exact ih.step input

theorem fits_framed (config : PlaneConfig) (side : Side) (inputs : List PlaneStep) :
    ∀ payload ∈ history (DataPlane.step config) (framedBy side) .start inputs, Fits payload := by
  induction inputs using List.reverseRecOn with
  | nil =>
      intro payload member
      cases member
  | append_singleton before input ih =>
      intro payload member
      rw [history_snoc] at member
      rcases List.mem_append.mp member with earlier | last
      · exact ih payload earlier
      · exact fits_framedBy payload last

theorem onWire_exec (config : PlaneConfig) (side : Side) (inputs : List PlaneStep) :
    history (DataPlane.step config) (framedBy side) .start inputs =
      history (DataPlane.step config) (takenFrom side.other) .start inputs ++
        onWire side (exec (DataPlane.step config) .start inputs) :=
  history_fifo (onWire side) soundPlane_start (fun _ _ sound => soundPlane_step sound)
    (fun _ input sound => onWire_step sound input) inputs

theorem sent_takeWhile {lane : Lane} {sent framed : List (List UInt8)}
    (history : WriterHistory lane sent framed) (fit : ∀ payload ∈ framed, Fits payload) :
    sent.takeWhile Fits = framed ++ waitingFrames lane := by
  have fitting : ∀ payload ∈ framed, decide (Fits payload) = true :=
    fun payload member => decide_eq_true (fit payload member)
  cases history with
  | alive writes split =>
      rw [split, List.takeWhile_append_of_pos fitting, waitingFrames]
      rcases writes with receiving | ⟨rest, writing⟩
      · rw [receiving]
      · rw [writing]
  | refused payload more stopped tooLong split =>
      rw [split, List.takeWhile_append_of_pos fitting, waitingFrames, List.takeWhile_cons]
      rw [if_neg (by simpa using tooLong)]
      rcases stopped with closing | ended
      · rw [closing]
      · rw [ended]
  | dropped ended split =>
      have whole : (framed ++ []).takeWhile Fits = framed ++ [].takeWhile Fits :=
        List.takeWhile_append_of_pos fitting
      rw [List.append_nil, List.takeWhile_nil, List.append_nil] at whole
      rw [split, whole, waitingFrames, ended, List.append_nil]

end Run

/-! ## Emissions -/

/-- Frames of a channel that has been dropped are taken but not emitted. -/
def EmitsTaken (plane : DataPlane) (side : Side) (emitted taken : List (List UInt8)) : Prop :=
  emitted <+: taken ∧ ((plane.runtime side).channelOpen = true → taken = emitted)

theorem channelOpen_setRuntime {here : Side} {runtime : PlaneRuntime}
    (isOpen : ((plane.setRuntime here runtime).runtime side).channelOpen = true)
    (kept : runtime.channelOpen = true → (plane.runtime here).channelOpen = true) :
    (plane.runtime side).channelOpen = true := by
  rcases eq_or_ne side here with rfl | different
  · rw [setRuntime_self] at isOpen
    exact kept isOpen
  · rwa [setRuntime_ne different] at isOpen

/-- A dropped channel does not come back. -/
theorem channelOpen_move (move : PlaneMove config plane input reached)
    (isOpen : (reached.runtime side).channelOpen = true) :
    (plane.runtime side).channelOpen = true := by
  cases move with
  | dispatched | batchTaken | frameTaken => exact channelOpen_setRuntime isOpen id
  | sent | closeReported | delivered =>
      rw [setLane_runtime] at isOpen
      exact channelOpen_setRuntime isOpen id
  | unsent | closeTaken =>
      apply channelOpen_setRuntime isOpen
      intro closed
      cases closed
  | received | wrote | read | decoded => exact isOpen

theorem emittedFrom_of_open (isOpen : (plane.runtime side).channelOpen = true) :
    DataPlane.emittedFrom side plane input = takenFrom side plane input := by
  cases input with
  | takeEvent here =>
      simp only [DataPlane.emittedFrom, takenFrom]
      split
      · rename_i payload rest idle events
        rw [idle, events]
        by_cases same : here = side
        · rw [if_pos ⟨same, isOpen⟩, if_pos ⟨same, rfl⟩]
          rfl
        · rw [if_neg (fun both => same both.1), if_neg (fun both => same both.1)]
      · rename_i other
        symm
        split
        · rename_i both
          cases events : (plane.runtime side).events with
          | nil => rfl
          | cons event rest =>
              cases event with
              | frameReceived payload => exact absurd events (other payload rest both.2)
              | channelClosed => rfl
        · rfl
  | _ => rfl

theorem emittedFrom_of_closed (closed : ¬ (plane.runtime side).channelOpen = true) :
    DataPlane.emittedFrom side plane input = [] := by
  cases input with
  | takeEvent here =>
      simp only [DataPlane.emittedFrom]
      split
      · exact if_neg fun both => closed both.2
      · rfl
  | _ => rfl

theorem EmitsTaken.step {emitted taken : List (List UInt8)} (emits : EmitsTaken plane side emitted taken)
    (input : PlaneStep) :
    EmitsTaken (DataPlane.step config plane input) side
      (emitted ++ DataPlane.emittedFrom side plane input) (taken ++ takenFrom side plane input) := by
  by_cases isOpen : (plane.runtime side).channelOpen = true
  · rw [emittedFrom_of_open isOpen, emits.2 isOpen]
    exact ⟨List.prefix_rfl, fun _ => rfl⟩
  · rw [emittedFrom_of_closed isOpen, List.append_nil]
    refine ⟨emits.1.trans (List.prefix_append ..), ?_⟩
    intro later
    exfalso
    apply isOpen
    revert later
    apply attempt_cases (P := fun after : DataPlane =>
      (after.runtime side).channelOpen = true → (plane.runtime side).channelOpen = true)
    · intro _
      exact id
    · intro reached taken
      exact channelOpen_move (planeMove_next taken)

theorem emitsTaken_exec (config : PlaneConfig) (side : Side) (inputs : List PlaneStep) :
    EmitsTaken (exec (DataPlane.step config) .start inputs) side
      (history (DataPlane.step config) (DataPlane.emittedFrom side) .start inputs)
      (history (DataPlane.step config) (takenFrom side) .start inputs) := by
  induction inputs using List.reverseRecOn with
  | nil => exact ⟨List.prefix_rfl, fun _ => rfl⟩
  | append_singleton before input ih =>
      rw [exec_snoc, history_snoc, history_snoc]
      exact ih.step input

/-- A direction of an L2CAP channel is first in, first out: what the receiving runtime emits is, in
order and without gaps, what was sent up to the first payload that is too long for the codec, and the
rest of that is still on its way as long as the receiver keeps the channel. -/
theorem lane_delivers_in_order (config : PlaneConfig) (inputs : List PlaneStep) (side : Side) :
    let plane := exec (DataPlane.step config) .start inputs
    let sent := history (DataPlane.step config) (DataPlane.sentOver side) .start inputs
    let emitted := history (DataPlane.step config) (DataPlane.emittedFrom side.other) .start inputs
    emitted <+: sent.takeWhile Fits ∧
      ((plane.runtime side.other).channelOpen = true →
        sent.takeWhile Fits = emitted ++ (onWire side plane ++ waitingFrames (plane.lane side))) := by
  intro plane sent emitted
  have written := sent_takeWhile (writerHistory_exec config side inputs) (fits_framed config side inputs)
  have wired := onWire_exec config side inputs
  obtain ⟨initially, whole⟩ := emitsTaken_exec config side.other inputs
  have shape : sent.takeWhile Fits =
      history (DataPlane.step config) (takenFrom side.other) .start inputs ++
        (onWire side plane ++ waitingFrames (plane.lane side)) := by
    rw [written, wired, List.append_assoc]
  constructor
  · rw [shape]
    exact initially.trans (List.prefix_append ..)
  · intro isOpen
    rw [shape, whole isOpen]

end JqBle.Proof.LinkProfile
