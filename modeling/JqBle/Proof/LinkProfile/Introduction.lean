import JqBle.Proof.LinkProfile.LaneOrder
import JqBle.LinkProfile.Introduction

/-!
# The identity at the head of an L2CAP channel

However the bytes are cut, the accepting side reads the id of the opening side and nothing else before
its reader starts, and the lane behind the id is a lane as if there were no id.
-/

namespace JqBle.Proof.LinkProfile
open Library Execution Host JqBle.LinkProfile

/-! ## One lane -/

section Lane
variable {channel : ChannelPipe} {lane after : Lane}

theorem laneMove_laneStep {input : LaneStep} (taken : lane.next channel input = some after) :
    LaneMove channel.capacity lane after := by
  cases input with
  | send payload =>
      simp only [Lane.next] at taken
      split at taken
      · rename_i room
        obtain ⟨accepts, room⟩ := Bool.and_eq_true_iff.mp room
        obtain rfl := Option.some.inj taken
        exact .queue accepts room
      · cases taken
  | receive => exact .receive taken
  | write count => exact .write taken
  | reportClosed =>
      simp only [Lane.next] at taken
      split at taken
      · rename_i closing
        obtain rfl := Option.some.inj taken
        exact .reportClosed closing
      · cases taken
  | read count => exact .read taken
  | decode => exact .decode taken
  | deliver =>
      obtain ⟨⟨event, lane⟩, delivered, rfl⟩ := Option.map_eq_some_iff.mp taken
      exact .deliver delivered

theorem sound_laneStep (sound : Sound lane) (input : LaneStep) : Sound (lane.step channel input) := by
  apply attempt_cases
  · intro _
    exact sound
  · intro after taken
    exact sound.move (laneMove_laneStep taken)

def framedStep (lane : Lane) : LaneStep → List (List UInt8)
  | .receive => nextFramed lane
  | _ => []

theorem received_of_disabled (disabled : lane.delivered = none) : lane.received .deliver = [] := by
  cases reader : lane.reader with
  | reading buffer => simp [Lane.received, reader]
  | delivering event buffer => cases event <;> simp [Lane.delivered, reader] at disabled
  | ended => simp [Lane.received, reader]

theorem received_of_delivered (sound : Sound lane) {event : LaneEvent}
    (delivered : lane.delivered = some (event, after)) :
    lane.received .deliver = framePayloads [event] := by
  cases reader : lane.reader with
  | reading buffer => simp [Lane.delivered, reader] at delivered
  | delivering event buffer =>
      cases event with
      | frameReceived payload =>
          simp only [Lane.delivered, reader] at delivered
          obtain ⟨rfl, -⟩ := Prod.mk.inj (Option.some.inj delivered)
          simp [Lane.received, reader, framePayloads]
      | channelClosed => exact absurd reader (sound.healthy.2 buffer)
  | ended => exact absurd reader sound.healthy.1

theorem laneFrames_laneStep (sound : Sound lane) (input : LaneStep) :
    laneFrames lane ++ framedStep lane input =
      lane.received input ++ laneFrames (lane.step channel input) := by
  have kept (unchanged : ∀ after, lane.next channel input = some after →
      laneFrames after = laneFrames lane) :
      laneFrames lane ++ [] = laneFrames (lane.step channel input) := by
    rw [List.append_nil]
    exact attempt_cases (P := fun after => laneFrames lane = laneFrames after) (fun _ => rfl)
      fun after taken => (unchanged after taken).symm
  cases input with
  | send payload =>
      apply kept
      intro after taken
      simp only [Lane.next] at taken
      split at taken
      · obtain rfl := Option.some.inj taken
        exact laneFrames_of_bytes rfl rfl
      · cases taken
  | receive =>
      apply attempt_cases (P := fun after => laneFrames lane ++ nextFramed lane = laneFrames after)
      · intro disabled
        rw [nextFramed_of_disabled disabled, List.append_nil]
      · intro after received
        exact (laneFrames_receive sound received).symm
  | write count => exact kept fun after written => laneFrames_write written
  | reportClosed =>
      apply kept
      intro after taken
      simp only [Lane.next] at taken
      split at taken
      · rename_i closing
        obtain rfl := Option.some.inj taken
        exact laneFrames_closed closing
      · cases taken
  | read count => exact kept fun after moved => laneFrames_read moved
  | decode => exact kept fun after decoded => laneFrames_decode sound decoded
  | deliver =>
      show laneFrames lane ++ [] = _
      rw [List.append_nil]
      apply attempt_cases (P := fun after =>
        laneFrames lane = lane.received .deliver ++ laneFrames after)
      · intro disabled
        rw [received_of_disabled (Option.map_eq_none_iff.mp disabled)]
        rfl
      · intro after taken
        obtain ⟨⟨event, reached⟩, delivered, rfl⟩ := Option.map_eq_some_iff.mp taken
        rw [received_of_delivered sound delivered]
        exact laneFrames_delivered sound delivered

theorem WriterHistory.laneStep {sent framed : List (List UInt8)}
    (history : WriterHistory lane sent framed) (input : LaneStep) :
    WriterHistory (lane.step channel input) (sent ++ lane.sent input)
      (framed ++ framedStep lane input) := by
  have kept (unchanged : ∀ after, lane.next channel input = some after →
      WriterHistory after sent framed) :
      WriterHistory (lane.step channel input) (sent ++ []) (framed ++ []) := by
    rw [List.append_nil, List.append_nil]
    exact attempt_cases (P := fun after => WriterHistory after sent framed) (fun _ => history)
      unchanged
  cases input with
  | send payload =>
      rw [framedStep, List.append_nil, Lane.sent]
      · cases room : lane.accepts && lane.hasRoom with
        | true =>
            have enabled : lane.next channel (.send payload) =
                some { lane with writerQueue := lane.writerQueue ++ [payload] } := if_pos room
            rw [Lane.step, attempt_of_enabled enabled, if_pos rfl]
            exact history.send (Bool.and_eq_true_iff.mp room).1 payload
        | false =>
            have disabled : lane.next channel (.send payload) = none :=
              if_neg (by rw [room]; exact Bool.false_ne_true)
            rw [Lane.step, attempt_of_disabled disabled, if_neg Bool.false_ne_true, List.append_nil]
            exact history
      · intro same
        cases same
  | receive =>
      show WriterHistory _ (sent ++ []) _
      rw [List.append_nil]
      apply attempt_cases (P := fun after =>
        WriterHistory after sent (framed ++ framedStep lane .receive))
      · intro disabled
        rw [framedStep, nextFramed_of_disabled disabled, List.append_nil]
        exact history
      · intro after received
        exact history.receive received
  | write count => exact kept fun after written => history.write written
  | reportClosed =>
      apply kept
      intro after taken
      simp only [Lane.next] at taken
      split at taken
      · rename_i closing
        obtain rfl := Option.some.inj taken
        exact history.reportClosed closing
      · cases taken
  | read count => exact kept fun after moved => history.read moved
  | decode => exact kept fun after decoded => history.decode decoded
  | deliver =>
      apply kept
      intro after taken
      obtain ⟨⟨event, reached⟩, delivered, rfl⟩ := Option.map_eq_some_iff.mp taken
      exact history.delivered delivered

theorem lane_order (channel : ChannelPipe) (inputs : List LaneStep) :
    (history (Lane.step channel) Lane.sent .opened inputs).takeWhile Fits =
      history (Lane.step channel) Lane.received .opened inputs ++
        (laneFrames (exec (Lane.step channel) .opened inputs) ++
          waitingFrames (exec (Lane.step channel) .opened inputs)) := by
  have histories : WriterHistory (exec (Lane.step channel) .opened inputs)
      (history (Lane.step channel) Lane.sent .opened inputs)
      (history (Lane.step channel) framedStep .opened inputs) ∧
      ∀ payload ∈ history (Lane.step channel) framedStep .opened inputs, Fits payload := by
    induction inputs using List.reverseRecOn with
    | nil =>
        refine ⟨.alive (Or.inl rfl) rfl, ?_⟩
        intro payload member
        cases member
    | append_singleton before input ih =>
        rw [exec_snoc, history_snoc, history_snoc]
        refine ⟨ih.1.laneStep input, ?_⟩
        intro payload member
        rcases List.mem_append.mp member with earlier | last
        · exact ih.2 payload earlier
        · cases input with
          | receive => exact fits_nextFramed payload last
          | _ => cases last
  have framed : history (Lane.step channel) framedStep .opened inputs =
      history (Lane.step channel) Lane.received .opened inputs ++
        laneFrames (exec (Lane.step channel) .opened inputs) :=
    history_fifo laneFrames sound_opened (fun _ input sound => sound_laneStep sound input)
      (fun _ input sound => laneFrames_laneStep sound input) inputs
  rw [sent_takeWhile histories.1 histories.2, framed, List.append_assoc]

end Lane

/-! ## The lane behind the identity -/

section Introduced
variable {channel : ChannelPipe} {localNodeId : NodeId} {introduced after : IntroducedLane}

/-- All bytes of the channel up to the frames that are being written. -/
def headBytes (introduced : IntroducedLane) : List UInt8 :=
  introduced.identity ++ (introduced.lane.pipe ++ introduced.unwritten)

def behindIdentity (introduced : IntroducedLane) : Lane :=
  { introduced.lane with pipe := (headBytes introduced).drop l2capIdentitySizeBytes }

structure Introduces (localNodeId : NodeId) (introduced : IntroducedLane) : Prop where
  head : (headBytes introduced).take l2capIdentitySizeBytes = localNodeId.bytes.toList
  identity : introduced.identity.length ≤ l2capIdentitySizeBytes
  alone : introduced.unwritten ≠ [] → (headBytes introduced).length = l2capIdentitySizeBytes
  sound : Sound (behindIdentity introduced)

theorem length_nodeId (nodeId : NodeId) : nodeId.bytes.toList.length = l2capIdentitySizeBytes := by
  rw [Vector.length_toList]
  rfl

theorem Introduces.length (introduces : Introduces localNodeId introduced) :
    l2capIdentitySizeBytes ≤ (headBytes introduced).length := by
  have size := congrArg List.length introduces.head
  rw [List.length_take, length_nodeId] at size
  omega

theorem behindIdentity_opened (localNodeId : NodeId) :
    behindIdentity (.opened localNodeId) = .opened := by
  rw [behindIdentity, show headBytes (.opened localNodeId) = localNodeId.bytes.toList from rfl,
    ← length_nodeId localNodeId, List.drop_length]
  rfl

theorem introduces_opened (localNodeId : NodeId) : Introduces localNodeId (.opened localNodeId) := by
  have size := length_nodeId localNodeId
  have head : headBytes (.opened localNodeId) = localNodeId.bytes.toList := rfl
  refine ⟨?_, Nat.zero_le _, ?_, ?_⟩
  · rw [head, ← size, List.take_length]
  · intro _
    rw [head, size]
  · rw [behindIdentity_opened]
    exact sound_opened

theorem behindIdentity_congr (head : headBytes after = headBytes introduced)
    (lane : { after.lane with pipe := introduced.lane.pipe } = introduced.lane) :
    behindIdentity after = behindIdentity introduced := by
  rw [behindIdentity, behindIdentity, head, ← lane]

/-- Bytes of the identity that move leave the lane behind it as it is. -/
theorem Introduces.of_head (introduces : Introduces localNodeId introduced)
    (head : headBytes after = headBytes introduced)
    (identity : after.identity.length ≤ l2capIdentitySizeBytes)
    (alone : after.unwritten ≠ [] → introduced.unwritten ≠ [])
    (lane : { after.lane with pipe := introduced.lane.pipe } = introduced.lane) :
    Introduces localNodeId after where
  head := by
    rw [head]
    exact introduces.head
  identity := identity
  alone left := by
    rw [head]
    exact introduces.alone (alone left)
  sound := by
    rw [behindIdentity_congr head lane]
    exact introduces.sound

theorem headBytes_writeIdentity {count : Nat}
    (written : introduced.writeIdentity channel count = some after) :
    headBytes after = headBytes introduced ∧ after.identity = introduced.identity ∧
      (after.unwritten ≠ [] → introduced.unwritten ≠ []) ∧
      { after.lane with pipe := introduced.lane.pipe } = introduced.lane := by
  unfold IntroducedLane.writeIdentity at written
  split at written
  · obtain rfl := Option.some.inj written
    refine ⟨?_, rfl, ?_, rfl⟩
    · simp [headBytes]
    · intro left none
      simp [none] at left
  · cases written

theorem headBytes_readIdentity {count : Nat} (moved : introduced.readIdentity count = some after) :
    headBytes after = headBytes introduced ∧ after.identity.length ≤ l2capIdentitySizeBytes ∧
      after.unwritten = introduced.unwritten ∧
      { after.lane with pipe := introduced.lane.pipe } = introduced.lane := by
  unfold IntroducedLane.readIdentity at moved
  split at moved
  · rename_i room
    obtain rfl := Option.some.inj moved
    refine ⟨?_, ?_, rfl, rfl⟩
    · simp only [headBytes, List.append_assoc]
      rw [← List.append_assoc (introduced.lane.pipe.take count), List.take_append_drop]
    · rw [List.length_append, List.length_take]
      omega
  · cases moved

/-- The reader starts when the whole identity has been written and read. -/
theorem Introduces.identified (introduces : Introduces localNodeId introduced)
    (read : introduced.identity.length = l2capIdentitySizeBytes) :
    introduced.unwritten = [] ∧ introduced.identity = localNodeId.bytes.toList ∧
      behindIdentity introduced = introduced.lane := by
  have written : introduced.unwritten = [] := by
    by_contra left
    have size := introduces.alone left
    have positive := List.length_pos_iff.mpr left
    rw [headBytes, List.length_append, List.length_append] at size
    omega
  have head := introduces.head
  rw [headBytes, ← read, List.take_left] at head
  refine ⟨written, head, ?_⟩
  rw [behindIdentity, headBytes, ← read, List.drop_left, written, List.append_nil]

/-- The steps of the lane behind the identity. -/
def laneInputs (channel : ChannelPipe) (introduced : IntroducedLane) : IntroducedStep → List LaneStep
  | .lane input =>
      if introduced.allows input && (introduced.lane.next channel input).isSome then [input] else []
  | .writeIdentity _ | .readIdentity _ => []

theorem behindIdentity_setLane (written : introduced.unwritten = []) (lane : Lane) :
    behindIdentity { introduced with lane := lane } =
      { lane with pipe := (introduced.identity ++ lane.pipe).drop l2capIdentitySizeBytes } := by
  simp only [behindIdentity, headBytes, written, List.append_nil]

theorem next_setPipe {lane reached : Lane} {input : LaneStep} (pipe : List UInt8)
    (kind : (∃ payload, input = .send payload) ∨ input = .receive ∨ input = .reportClosed)
    (taken : lane.next channel input = some reached) :
    Lane.next channel { lane with pipe := pipe } input = some { reached with pipe := pipe } ∧
      reached.pipe = lane.pipe := by
  rcases kind with ⟨payload, rfl⟩ | rfl | rfl
  · simp only [Lane.next] at taken
    split at taken
    · rename_i room
      obtain rfl := Option.some.inj taken
      exact ⟨if_pos room, rfl⟩
    · cases taken
  · simp only [Lane.next, Lane.receive] at taken
    split at taken
    · rename_i payload rest receiving filled
      split at taken
      · rename_i fits
        obtain rfl := Option.some.inj taken
        simp [Lane.next, Lane.receive, receiving, filled, fits]
      · rename_i tooLong
        obtain rfl := Option.some.inj taken
        simp [Lane.next, Lane.receive, receiving, filled, tooLong]
    · cases taken
    · cases taken
  · simp only [Lane.next] at taken
    split at taken
    · rename_i closing
      obtain rfl := Option.some.inj taken
      exact ⟨if_pos closing, rfl⟩
    · cases taken

theorem write_setPipe {lane reached : Lane} {count : Nat} {pipe : List UInt8}
    (shorter : pipe.length ≤ lane.pipe.length)
    (written : lane.write channel.capacity count = some reached) :
    ∃ bytes, reached.pipe = lane.pipe ++ bytes ∧
      Lane.write channel.capacity { lane with pipe := pipe } count =
        some { reached with pipe := pipe ++ bytes } := by
  unfold Lane.write at written ⊢
  split at written
  · rename_i rest writing
    split at written
    · rename_i room
      obtain rfl := Option.some.inj written
      refine ⟨rest.take count, rfl, ?_⟩
      simp only [writing]
      rw [if_pos ⟨room.1, room.2.1, Nat.le_trans (Nat.add_le_add_right shorter count) room.2.2⟩]
    · cases written
  · cases written

theorem Introduces.next_behind (introduces : Introduces localNodeId introduced) {input : LaneStep}
    {lane : Lane} (allowed : introduced.allows input = true)
    (taken : introduced.lane.next channel input = some lane) :
    (behindIdentity introduced).next channel input =
      some (behindIdentity { introduced with lane := lane }) := by
  have writerStep (kind : (∃ payload, input = .send payload) ∨ input = .receive ∨
      input = .reportClosed) (written : introduced.unwritten = []) :
      (behindIdentity introduced).next channel input =
        some (behindIdentity { introduced with lane := lane }) := by
    have moved := next_setPipe (introduced.identity ++ introduced.lane.pipe |>.drop
      l2capIdentitySizeBytes) kind taken
    have before : behindIdentity introduced = _ := behindIdentity_setLane written introduced.lane
    have behind := behindIdentity_setLane written lane
    rw [behind, before, moved.2]
    exact moved.1
  have readerStep (read : introduced.identity.length = l2capIdentitySizeBytes) :
      (behindIdentity introduced).next channel input =
        some (behindIdentity { introduced with lane := lane }) := by
    obtain ⟨written, -, before⟩ := introduces.identified read
    have behind := behindIdentity_setLane written lane
    rw [behind, before, taken, ← read, List.drop_left]
  cases input with
  | send payload => exact writerStep (Or.inl ⟨payload, rfl⟩) (List.isEmpty_iff.mp allowed)
  | receive => exact writerStep (Or.inr (Or.inl rfl)) (List.isEmpty_iff.mp allowed)
  | reportClosed => exact writerStep (Or.inr (Or.inr rfl)) (List.isEmpty_iff.mp allowed)
  | write count =>
      have written : introduced.unwritten = [] := List.isEmpty_iff.mp allowed
      have enough := introduces.length
      rw [headBytes, written, List.append_nil] at enough
      have shorter : ((introduced.identity ++ introduced.lane.pipe).drop
          l2capIdentitySizeBytes).length ≤ introduced.lane.pipe.length := by
        have bound := introduces.identity
        rw [List.length_drop, List.length_append]
        omega
      obtain ⟨bytes, longer, moved⟩ := write_setPipe shorter taken
      have before : behindIdentity introduced = _ :=
        behindIdentity_setLane written introduced.lane
      have behind := behindIdentity_setLane written lane
      rw [behind, before, longer, ← List.append_assoc, List.drop_append_of_le_length enough]
      exact moved
  | read count => exact readerStep (of_decide_eq_true allowed)
  | decode => exact readerStep (of_decide_eq_true allowed)
  | deliver => exact readerStep (of_decide_eq_true allowed)

theorem pipe_next {lane reached : Lane} {input : LaneStep}
    (taken : lane.next channel input = some reached) :
    (∃ bytes, reached.pipe = lane.pipe ++ bytes) ∨ ∃ count, input = .read count := by
  have same (kept : reached.pipe = lane.pipe) :
      (∃ bytes, reached.pipe = lane.pipe ++ bytes) ∨ ∃ count, input = .read count :=
    Or.inl ⟨[], by rw [kept, List.append_nil]⟩
  cases input with
  | send payload => exact same (next_setPipe [] (Or.inl ⟨payload, rfl⟩) taken).2
  | receive => exact same (next_setPipe [] (Or.inr (Or.inl rfl)) taken).2
  | reportClosed => exact same (next_setPipe [] (Or.inr (Or.inr rfl)) taken).2
  | write count =>
      obtain ⟨bytes, longer, -⟩ := write_setPipe (Nat.le_refl _) taken
      exact Or.inl ⟨bytes, longer⟩
  | read count => exact Or.inr ⟨count, rfl⟩
  | decode =>
      apply same
      simp only [Lane.next, Lane.decode] at taken
      split at taken
      · split at taken
        · cases taken
        · obtain rfl := Option.some.inj taken
          rfl
        · obtain rfl := Option.some.inj taken
          rfl
      · cases taken
  | deliver =>
      apply same
      simp only [Lane.next, Lane.delivered] at taken
      split at taken
      · obtain rfl := Option.some.inj taken
        rfl
      · obtain rfl := Option.some.inj taken
        rfl
      · cases taken

theorem unwritten_of_allows (introduces : Introduces localNodeId introduced) {input : LaneStep}
    (allowed : introduced.allows input = true) : introduced.unwritten = [] := by
  cases input with
  | send payload => exact List.isEmpty_iff.mp allowed
  | receive => exact List.isEmpty_iff.mp allowed
  | reportClosed => exact List.isEmpty_iff.mp allowed
  | write count => exact List.isEmpty_iff.mp allowed
  | read count => exact (introduces.identified (of_decide_eq_true allowed)).1
  | decode => exact (introduces.identified (of_decide_eq_true allowed)).1
  | deliver => exact (introduces.identified (of_decide_eq_true allowed)).1

theorem Introduces.lane (introduces : Introduces localNodeId introduced) {input : LaneStep}
    {lane : Lane} (allowed : introduced.allows input = true)
    (taken : introduced.lane.next channel input = some lane) :
    Introduces localNodeId { introduced with lane := lane } := by
  have written := unwritten_of_allows introduces allowed
  refine ⟨?_, introduces.identity, fun left => absurd written left,
    introduces.sound.move (laneMove_laneStep (introduces.next_behind allowed taken))⟩
  have head := introduces.head
  simp only [headBytes, written, List.append_nil] at head ⊢
  rcases pipe_next taken with ⟨bytes, longer⟩ | ⟨count, rfl⟩
  · have enough := introduces.length
    rw [headBytes, written, List.append_nil] at enough
    rw [longer, ← List.append_assoc, List.take_append_of_le_length enough]
    exact head
  · have read : introduced.identity.length = l2capIdentitySizeBytes := of_decide_eq_true allowed
    rw [← read, List.take_left] at head ⊢
    exact head

theorem introduces_step (introduces : Introduces localNodeId introduced) (input : IntroducedStep) :
    Introduces localNodeId (introduced.step channel input) := by
  apply attempt_cases
  · intro _
    exact introduces
  · intro after taken
    cases input with
    | writeIdentity count =>
        obtain ⟨head, identity, alone, lane⟩ := headBytes_writeIdentity taken
        refine introduces.of_head head ?_ alone lane
        rw [identity]
        exact introduces.identity
    | readIdentity count =>
        obtain ⟨head, identity, unwritten, lane⟩ := headBytes_readIdentity taken
        refine introduces.of_head head identity ?_ lane
        rw [unwritten]
        exact id
    | lane input =>
        simp only [IntroducedLane.next] at taken
        split at taken
        · rename_i allowed
          obtain ⟨lane, moved, rfl⟩ := Option.map_eq_some_iff.mp taken
          exact introduces.lane allowed moved
        · cases taken

/-- The channel with its identity refines the lane without. -/
theorem exec_laneInputs (introduces : Introduces localNodeId introduced) (input : IntroducedStep) :
    exec (Lane.step channel) (behindIdentity introduced) (laneInputs channel introduced input) =
      behindIdentity (introduced.step channel input) := by
  cases input with
  | writeIdentity count =>
      apply attempt_cases (P := fun after => behindIdentity introduced = behindIdentity after)
      · intro _
        rfl
      · intro after taken
        obtain ⟨head, -, -, lane⟩ := headBytes_writeIdentity taken
        exact (behindIdentity_congr head lane).symm
  | readIdentity count =>
      apply attempt_cases (P := fun after => behindIdentity introduced = behindIdentity after)
      · intro _
        rfl
      · intro after taken
        obtain ⟨head, -, -, lane⟩ := headBytes_readIdentity taken
        exact (behindIdentity_congr head lane).symm
  | lane input =>
      cases allowed : introduced.allows input with
      | false =>
          have disabled : introduced.next channel (.lane input) = none := by
            simp [IntroducedLane.next, allowed]
          rw [laneInputs, allowed, IntroducedLane.step, attempt_of_disabled disabled]
          rfl
      | true =>
          cases moved : introduced.lane.next channel input with
          | none =>
              have disabled : introduced.next channel (.lane input) = none := by
                simp [IntroducedLane.next, allowed, moved]
              rw [laneInputs, allowed, moved, IntroducedLane.step, attempt_of_disabled disabled]
              rfl
          | some lane =>
              have enabled : introduced.next channel (.lane input) =
                  some { introduced with lane := lane } := by
                simp [IntroducedLane.next, allowed, moved]
              rw [laneInputs, allowed, moved, IntroducedLane.step, attempt_of_enabled enabled]
              exact attempt_of_enabled (introduces.next_behind allowed moved)

theorem history_laneInputs {ε : Type} {out : Lane → LaneStep → List ε}
    {outer : IntroducedLane → IntroducedStep → List ε}
    (behind : ∀ introduced input, outer introduced (.lane input) =
      if introduced.allows input then out introduced.lane input else [])
    (head : ∀ introduced count, outer introduced (.writeIdentity count) = [] ∧
      outer introduced (.readIdentity count) = [])
    (pipe : ∀ lane pipe input, out { lane with pipe := pipe } input = out lane input)
    (disabled : ∀ lane input, lane.next channel input = none → out lane input = [])
    (input : IntroducedStep) :
    history (Lane.step channel) out (behindIdentity introduced) (laneInputs channel introduced input) =
      outer introduced input := by
  cases input with
  | writeIdentity count =>
      rw [(head introduced count).1]
      rfl
  | readIdentity count =>
      rw [(head introduced count).2]
      rfl
  | lane input =>
      rw [behind, laneInputs]
      cases introduced.allows input with
      | false => rfl
      | true =>
          cases moved : introduced.lane.next channel input with
          | none =>
              rw [if_pos rfl, disabled _ _ moved]
              rfl
          | some lane =>
              rw [if_pos rfl]
              show out (behindIdentity introduced) input ++ [] = _
              rw [List.append_nil]
              exact pipe introduced.lane _ input

theorem sent_of_disabled {lane : Lane} {input : LaneStep}
    (disabled : lane.next channel input = none) : lane.sent input = [] := by
  cases input with
  | send payload =>
      simp only [Lane.next] at disabled
      split at disabled
      · cases disabled
      · rename_i full
        exact if_neg full
  | _ => rfl

theorem received_eq_nil_of_disabled {lane : Lane} {input : LaneStep}
    (disabled : lane.next channel input = none) : lane.received input = [] := by
  cases input with
  | deliver => exact received_of_disabled (Option.map_eq_none_iff.mp disabled)
  | _ => rfl

/-! ### A channel at rest -/

theorem reader_at_rest {lane : Lane} (sound : Sound lane)
    (rests : ∀ input, (∀ payload, input ≠ .send payload) → lane.next channel input = none) :
    ∃ buffer, lane.reader = .reading buffer ∧ decodeFrame buffer = .incomplete ∧ lane.pipe = [] := by
  have reading : ∃ buffer, lane.reader = .reading buffer := by
    cases reader : lane.reader with
    | reading buffer => exact ⟨buffer, rfl⟩
    | delivering event buffer =>
        have waits := Option.map_eq_none_iff.mp (rests .deliver (by simp))
        cases event <;> simp [Lane.delivered, reader] at waits
    | ended => exact absurd reader sound.healthy.1
  obtain ⟨buffer, reading⟩ := reading
  have incomplete : decodeFrame buffer = .incomplete := by
    have waits := rests .decode (by simp)
    simp only [Lane.next, Lane.decode, reading] at waits
    split at waits
    · assumption
    · cases waits
    · cases waits
  refine ⟨buffer, reading, incomplete, ?_⟩
  by_contra left
  have waits := rests (.read 1) (by simp)
  have positive := List.length_pos_iff.mpr left
  simp only [Lane.next, Lane.read, reading] at waits
  rw [if_pos ⟨incomplete, Nat.one_pos, positive⟩] at waits
  cases waits

theorem writer_at_rest {lane : Lane} (sound : Sound lane) (empty : lane.pipe = [])
    (rests : ∀ input, (∀ payload, input ≠ .send payload) → lane.next channel input = none) :
    unwritten lane.writer = [] ∧ waitingFrames lane = [] := by
  cases writer : lane.writer with
  | receiving =>
      refine ⟨rfl, ?_⟩
      have waits := rests .receive (by simp)
      simp only [Lane.next, Lane.receive, writer] at waits
      split at waits
      · split at waits <;> cases waits
      · rename_i queue
        rw [waitingFrames, writer, queue]
        rfl
      · rename_i payloads
        cases queue : lane.writerQueue with
        | nil => exact absurd queue (payloads rfl)
        | cons payload rest => simp_all
  | writing rest =>
      have waits := rests (.write 1) (by simp)
      have positive := List.length_pos_iff.mpr (sound.writing rest writer)
      have room : lane.pipe.length + 1 ≤ channel.capacity := by
        rw [empty]
        exact channel.capacity_pos
      simp only [Lane.next, Lane.write, writer] at waits
      rw [if_pos ⟨Nat.one_pos, positive, room⟩] at waits
      cases waits
  | closing =>
      have waits := rests .reportClosed (by simp)
      simp only [Lane.next] at waits
      rw [if_pos writer] at waits
      cases waits
  | ended => exact ⟨rfl, by rw [waitingFrames, writer]⟩

theorem lane_at_rest {lane : Lane} (sound : Sound lane)
    (rests : ∀ input, (∀ payload, input ≠ .send payload) → lane.next channel input = none) :
    laneFrames lane ++ waitingFrames lane = [] := by
  obtain ⟨buffer, reading, incomplete, empty⟩ := reader_at_rest sound rests
  obtain ⟨written, queue⟩ := writer_at_rest sound empty rests
  obtain ⟨frames, fit, bytes, whole⟩ := sound.streamFrames
  rw [wireBytes, reading, empty, written] at bytes
  simp only [readBuffer, List.append_nil] at bytes
  have none : frames = [] := by
    cases frames with
    | nil => rfl
    | cons payload frames =>
        rw [bytes, List.flatMap_cons, decodeFrame_encodeFrame (fit payload (by simp))] at incomplete
        cases incomplete
  rw [laneFrames, whole, none, queue, reading]
  rfl

theorem identified_at_rest (introduces : Introduces localNodeId introduced)
    (rests : Stuck (IntroducedLane.next channel) IntroducedLane.Internal introduced) :
    introduced.identity.length = l2capIdentitySizeBytes := by
  by_contra short
  have bound := introduces.identity
  have enough := introduces.length
  have reads := rests (.readIdentity 1) trivial
  have writes := rests (.writeIdentity 1) trivial
  have positive := channel.capacity_pos
  simp only [IntroducedLane.next, IntroducedLane.readIdentity, ite_eq_right_iff, reduceCtorEq,
    imp_false] at reads
  simp only [IntroducedLane.next, IntroducedLane.writeIdentity, ite_eq_right_iff, reduceCtorEq,
    imp_false] at writes
  rw [headBytes, List.length_append, List.length_append] at enough
  omega

theorem remoteNodeId_eq (introduces : Introduces localNodeId introduced)
    (read : introduced.identity.length = l2capIdentitySizeBytes) :
    introduced.remoteNodeId = some localNodeId := by
  obtain ⟨-, identity, -⟩ := introduces.identified read
  rw [IntroducedLane.remoteNodeId, dif_pos read]
  congr 2
  apply Vector.toList_inj.mp
  simp [identity]

theorem sent_setPipe (lane : Lane) (pipe : List UInt8) (input : LaneStep) :
    Lane.sent { lane with pipe := pipe } input = lane.sent input := by
  cases input <;> rfl

theorem received_setPipe (lane : Lane) (pipe : List UInt8) (input : LaneStep) :
    Lane.received { lane with pipe := pipe } input = lane.received input := by
  cases input <;> rfl

theorem allows_identified (written : introduced.unwritten = [])
    (read : introduced.identity.length = l2capIdentitySizeBytes) (input : LaneStep) :
    introduced.allows input = true := by
  cases input <;> simp [IntroducedLane.allows, written, read]

theorem internal_lane {input : LaneStep} (internal : ∀ payload, input ≠ .send payload) :
    IntroducedLane.Internal (.lane input) := by
  cases input with
  | send payload => exact absurd rfl (internal payload)
  | _ => trivial

/-- A channel with the identity at its head delivers the identity and then, in order, what was sent up
to the first payload that is too long, however writes and reads cut the bytes. -/
theorem introduced_channel_faithful (channel : ChannelPipe) (localNodeId : NodeId)
    (inputs : List IntroducedStep) :
    let introduced := exec (IntroducedLane.step channel) (.opened localNodeId) inputs
    let sent := history (IntroducedLane.step channel) IntroducedLane.sent (.opened localNodeId) inputs
    let received :=
      history (IntroducedLane.step channel) IntroducedLane.received (.opened localNodeId) inputs
    (∀ nodeId ∈ introduced.remoteNodeId, nodeId = localNodeId) ∧
      received <+: sent.takeWhile Fits ∧
      (Stuck (IntroducedLane.next channel) IntroducedLane.Internal introduced →
        introduced.remoteNodeId = some localNodeId ∧ received = sent.takeWhile Fits) := by
  intro introduced sent received
  have start := introduces_opened localNodeId
  have introduces : Introduces localNodeId introduced :=
    exec_always start (fun _ input holds => introduces_step holds input) inputs
  have behind := behindIdentity_opened localNodeId
  let laneSteps := history (IntroducedLane.step channel) (laneInputs channel) (.opened localNodeId)
    inputs
  have reached : exec (Lane.step channel) .opened laneSteps = behindIdentity introduced := by
    rw [← behind]
    exact history_simulates start (fun _ input holds => introduces_step holds input)
      (fun _ input holds => exec_laneInputs holds input) inputs
  have sentBehind : history (Lane.step channel) Lane.sent .opened laneSteps = sent := by
    rw [← behind]
    exact history_of_simulates start (fun _ input holds => introduces_step holds input)
      (fun _ input holds => exec_laneInputs holds input)
      (fun _ input _ => history_laneInputs (fun _ _ => rfl) (fun _ _ => ⟨rfl, rfl⟩)
        (fun _ _ input => sent_setPipe _ _ input) (fun _ _ => sent_of_disabled) input) inputs
  have receivedBehind : history (Lane.step channel) Lane.received .opened laneSteps = received := by
    rw [← behind]
    exact history_of_simulates start (fun _ input holds => introduces_step holds input)
      (fun _ input holds => exec_laneInputs holds input)
      (fun _ input _ => history_laneInputs (fun _ _ => rfl) (fun _ _ => ⟨rfl, rfl⟩)
        (fun _ _ input => received_setPipe _ _ input) (fun _ _ => received_eq_nil_of_disabled) input)
      inputs
  have order := lane_order channel laneSteps
  rw [sentBehind, receivedBehind, reached] at order
  refine ⟨?_, ?_, ?_⟩
  · intro nodeId known
    have read : introduced.identity.length = l2capIdentitySizeBytes := by
      by_contra short
      rw [IntroducedLane.remoteNodeId, dif_neg short] at known
      cases known
    rw [remoteNodeId_eq introduces read] at known
    exact (Option.some.inj known).symm
  · rw [order]
    exact List.prefix_append ..
  · intro rests
    have read := identified_at_rest introduces rests
    obtain ⟨written, -, same⟩ := introduces.identified read
    refine ⟨remoteNodeId_eq introduces read, ?_⟩
    have drained : laneFrames introduced.lane ++ waitingFrames introduced.lane = [] := by
      apply lane_at_rest (same ▸ introduces.sound)
      intro input internal
      have waits := rests (.lane input) (internal_lane internal)
      have allowed := allows_identified written read input
      simpa [IntroducedLane.next, allowed] using waits
    rw [order, same, drained, List.append_nil]

end Introduced

end JqBle.Proof.LinkProfile
