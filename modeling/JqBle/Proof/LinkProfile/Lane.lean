import JqBle.LinkProfile.DataPlane

/-!
# Lanes of an L2CAP channel

The writer of a lane writes whole frames and its reader takes them apart again, so a reader never fails
while the link is up. The second half says what a step may do to a lane and to its writer queue.
-/

namespace JqBle.Proof.LinkProfile
open JqBle.LinkProfile

/-! ## Frames -/

theorem encodedLength {payload : List UInt8} (fits : payload.length ≤ l2capFrameMaxBytes) :
    (UInt8.ofNat (payload.length % 256)).toNat + 256 * (UInt8.ofNat (payload.length / 256)).toNat =
      payload.length := by
  simp only [l2capFrameMaxBytes] at fits
  simp only [UInt8.toNat_ofNat']
  omega

theorem decodeFrame_encodeFrame {payload rest : List UInt8}
    (fits : payload.length ≤ l2capFrameMaxBytes) :
    decodeFrame (encodeFrame payload ++ rest) = .frame payload rest := by
  simp only [encodeFrame, List.cons_append, decodeFrame, encodedLength fits]
  rw [if_neg (Nat.not_lt.mpr fits), if_neg (by simp), List.take_left, List.drop_left]

theorem decodeFrame_append {payload bytes more rest : List UInt8}
    (fits : payload.length ≤ l2capFrameMaxBytes)
    (split : bytes ++ more = encodeFrame payload ++ rest) :
    decodeFrame bytes = .incomplete ∨
      ∃ left, decodeFrame bytes = .frame payload left ∧ left ++ more = rest := by
  match bytes with
  | [] => exact Or.inl rfl
  | [low] => exact Or.inl rfl
  | low :: high :: bytes =>
      simp only [encodeFrame, List.cons_append, List.cons.injEq] at split
      obtain ⟨rfl, rfl, split⟩ := split
      simp only [decodeFrame, encodedLength fits]
      rw [if_neg (Nat.not_lt.mpr fits)]
      split
      · exact Or.inl rfl
      · rename_i whole
        have enough : payload.length ≤ bytes.length := Nat.not_lt.mp whole
        refine Or.inr ⟨bytes.drop payload.length, ?_, ?_⟩
        · have taken := congrArg (List.take payload.length) split
          rw [List.take_append_of_le_length enough, List.take_left] at taken
          rw [taken]
        · have dropped := congrArg (List.drop payload.length) split
          rw [List.drop_append_of_le_length enough, List.drop_left] at dropped
          exact dropped

/-! ## Lanes -/

def readBuffer : ReaderTask → List UInt8
  | .reading buffer | .delivering _ buffer => buffer
  | .ended => []

def unwritten : WriterTask → List UInt8
  | .writing rest => rest
  | .receiving | .closing | .ended => []

/-- What is on the way in a lane is a sequence of whole frames, so the reader never fails. -/
structure Sound (lane : Lane) : Prop where
  framed : ∃ frames : List (List UInt8), (∀ frame ∈ frames, frame.length ≤ l2capFrameMaxBytes) ∧
    readBuffer lane.reader ++ (lane.pipe ++ unwritten lane.writer) = frames.flatMap encodeFrame
  writing : ∀ rest, lane.writer = .writing rest → rest ≠ []
  dropped : lane.writer = .ended → lane.writerQueue = []
  healthy : lane.reader ≠ .ended ∧ ∀ buffer, lane.reader ≠ .delivering .channelClosed buffer

variable {lane after : Lane}

theorem sound_opened : Sound .opened where
  framed := ⟨[], by simp, rfl⟩
  writing := by
    rintro rest ⟨⟩
  dropped := by
    rintro ⟨⟩
  healthy := ⟨(fun ended => nomatch ended), fun _ closed => nomatch closed⟩

theorem Sound.queue (sound : Sound lane) {queue : List (List UInt8)} (accepts : lane.accepts = true) :
    Sound { lane with writerQueue := queue } := by
  refine ⟨sound.framed, sound.writing, ?_, sound.healthy⟩
  intro ended
  simp only at ended
  simp [Lane.accepts, ended] at accepts

theorem Sound.receive (sound : Sound lane) {channelOpen : Bool}
    (received : lane.receive channelOpen = some after) : Sound after := by
  obtain ⟨⟨frames, fit, framed⟩, writing, dropped, healthy⟩ := sound
  unfold Lane.receive at received
  split at received
  · rename_i payload rest receiving filled
    rw [receiving] at framed
    split at received
    · rename_i fits
      obtain rfl := Option.some.inj received
      refine ⟨⟨frames ++ [payload], ?_, ?_⟩, ?_, (fun ended => nomatch ended), healthy⟩
      · intro frame member
        rcases List.mem_append.mp member with old | new
        · exact fit frame old
        · obtain rfl := List.mem_singleton.mp new
          exact fits
      · simp only [unwritten, List.append_nil] at framed ⊢
        rw [← List.append_assoc, framed]
        simp
      · rintro rest ⟨⟩
        simp [encodeFrame]
    · obtain rfl := Option.some.inj received
      exact ⟨⟨frames, fit, framed⟩, (fun _ written => nomatch written),
        (fun ended => nomatch ended), healthy⟩
  · rename_i receiving empty
    rw [receiving] at framed
    split at received
    · cases received
    · obtain rfl := Option.some.inj received
      exact ⟨⟨frames, fit, framed⟩, (fun _ written => nomatch written), fun _ => empty, healthy⟩
  · cases received

theorem Sound.write (sound : Sound lane) {pipeCapacity count : Nat}
    (written : lane.write pipeCapacity count = some after) : Sound after := by
  obtain ⟨⟨frames, fit, framed⟩, writing, dropped, healthy⟩ := sound
  unfold Lane.write at written
  split at written
  · rename_i rest state
    rw [state] at framed
    split at written
    · obtain rfl := Option.some.inj written
      refine ⟨⟨frames, fit, ?_⟩, ?_, ?_, healthy⟩
      · have left : unwritten (if rest.drop count = [] then WriterTask.receiving
            else .writing (rest.drop count)) = rest.drop count := by
          split
          · rename_i nothing
            exact nothing.symm
          · rfl
        simp only [left, List.append_assoc, List.take_append_drop]
        exact framed
      · intro more still
        simp only at still
        split at still
        · cases still
        · rename_i something
          cases still
          exact something
      · intro ended
        simp only at ended
        split at ended <;> cases ended
    · cases written
  · cases written

theorem Sound.read (sound : Sound lane) {count : Nat} (moved : lane.read count = some after) :
    Sound after := by
  obtain ⟨⟨frames, fit, framed⟩, writing, dropped, healthy⟩ := sound
  unfold Lane.read at moved
  split at moved
  · rename_i buffer reading
    rw [reading] at framed
    split at moved
    · obtain rfl := Option.some.inj moved
      refine ⟨⟨frames, fit, ?_⟩, writing, dropped, (fun ended => nomatch ended),
        fun _ closed => nomatch closed⟩
      simp only [readBuffer] at framed ⊢
      rw [← framed, List.append_assoc, ← List.append_assoc (lane.pipe.take count),
        List.take_append_drop]
    · cases moved
  · cases moved

theorem Sound.decoded (sound : Sound lane) {buffer : List UInt8}
    (reading : lane.reader = .reading buffer) :
    decodeFrame buffer = .incomplete ∨
      ∃ (payload left : List UInt8) (frames : List (List UInt8)),
        decodeFrame buffer = .frame payload left ∧
        (∀ frame ∈ frames, frame.length ≤ l2capFrameMaxBytes) ∧
        left ++ (lane.pipe ++ unwritten lane.writer) = frames.flatMap encodeFrame := by
  obtain ⟨frames, fit, framed⟩ := sound.framed
  rw [reading] at framed
  cases frames with
  | nil =>
      obtain ⟨rfl, -⟩ := List.append_eq_nil_iff.mp framed
      exact Or.inl rfl
  | cons payload frames =>
      rw [List.flatMap_cons] at framed
      rcases decodeFrame_append (fit payload (by simp)) framed with incomplete | ⟨left, whole, rest⟩
      · exact Or.inl incomplete
      · exact Or.inr ⟨payload, left, frames, whole,
          fun frame member => fit frame (List.mem_cons_of_mem _ member), rest⟩

theorem Sound.decode (sound : Sound lane) (decoded : lane.decode = some after) : Sound after := by
  unfold Lane.decode at decoded
  split at decoded
  · rename_i buffer reading
    rcases sound.decoded reading with incomplete | ⟨payload, left, frames, whole, fit, framed⟩
    · rw [incomplete] at decoded
      cases decoded
    · rw [whole] at decoded
      obtain rfl := Option.some.inj decoded
      exact ⟨⟨frames, fit, framed⟩, sound.writing, sound.dropped, (fun ended => nomatch ended),
        fun _ closed => nomatch closed⟩
  · cases decoded

theorem Sound.delivered (sound : Sound lane) {event : LaneEvent}
    (delivered : lane.delivered = some (event, after)) : Sound after := by
  unfold Lane.delivered at delivered
  split at delivered
  · rename_i buffer closed
    exact absurd closed (sound.healthy.2 buffer)
  · rename_i payload buffer delivering
    obtain ⟨-, rfl⟩ := Prod.mk.inj (Option.some.inj delivered)
    refine ⟨?_, sound.writing, sound.dropped, (fun ended => nomatch ended),
      fun _ closed => nomatch closed⟩
    obtain ⟨frames, fit, framed⟩ := sound.framed
    rw [delivering] at framed
    exact ⟨frames, fit, framed⟩
  · cases delivered

theorem Sound.reportClosed (sound : Sound lane) (closing : lane.writer = .closing) :
    Sound { lane with writerQueue := [], writer := .ended } := by
  obtain ⟨⟨frames, fit, framed⟩, writing, dropped, healthy⟩ := sound
  rw [closing] at framed
  exact ⟨⟨frames, fit, framed⟩, (fun _ written => nomatch written), fun _ => rfl, healthy⟩

inductive LaneMove (pipeCapacity : Nat) (lane : Lane) : Lane → Prop
  | still : LaneMove pipeCapacity lane lane
  | queue {payload : List UInt8} (accepts : lane.accepts = true) (room : lane.hasRoom = true) :
      LaneMove pipeCapacity lane { lane with writerQueue := lane.writerQueue ++ [payload] }
  | receive {channelOpen : Bool} {after : Lane} (received : lane.receive channelOpen = some after) :
      LaneMove pipeCapacity lane after
  | write {count : Nat} {after : Lane} (written : lane.write pipeCapacity count = some after) :
      LaneMove pipeCapacity lane after
  | reportClosed (closing : lane.writer = .closing) :
      LaneMove pipeCapacity lane { lane with writerQueue := [], writer := .ended }
  | read {count : Nat} {after : Lane} (moved : lane.read count = some after) :
      LaneMove pipeCapacity lane after
  | decode {after : Lane} (decoded : lane.decode = some after) : LaneMove pipeCapacity lane after
  | deliver {event : LaneEvent} {after : Lane} (delivered : lane.delivered = some (event, after)) :
      LaneMove pipeCapacity lane after

theorem Sound.move {pipeCapacity : Nat} (sound : Sound lane) (moved : LaneMove pipeCapacity lane after) :
    Sound after := by
  cases moved with
  | still => exact sound
  | queue accepts room => exact sound.queue accepts
  | receive received => exact sound.receive received
  | write written => exact sound.write written
  | reportClosed closing => exact sound.reportClosed closing
  | read moved => exact sound.read moved
  | decode decoded => exact sound.decode decoded
  | deliver delivered => exact sound.delivered delivered

/-! ### The writer queue -/

/-- The step has left the writer queue as it was and its receiver where it was. -/
structure KeepsWriter (lane after : Lane) : Prop where
  writerQueue : after.writerQueue = lane.writerQueue
  accepts : after.accepts = lane.accepts
  closing : after.writer = .closing → lane.writer = .closing

theorem KeepsWriter.of_eq (queue : after.writerQueue = lane.writerQueue)
    (writer : after.writer = lane.writer) : KeepsWriter lane after where
  writerQueue := queue
  accepts := by
    rw [Lane.accepts, writer]
    rfl
  closing := by
    rw [writer]
    exact id

theorem keepsWriter_write {pipeCapacity count : Nat}
    (written : lane.write pipeCapacity count = some after) : KeepsWriter lane after := by
  unfold Lane.write at written
  split at written
  · rename_i rest writing
    split at written
    · obtain rfl := Option.some.inj written
      refine ⟨rfl, ?_, ?_⟩
      · by_cases whole : rest.drop count = []
        · simp [Lane.accepts, writing, whole]
        · simp only [Lane.accepts, writing, if_neg whole]
      · intro closing
        simp only at closing
        split at closing <;> cases closing
    · cases written
  · cases written

theorem keepsWriter_read {count : Nat} (moved : lane.read count = some after) :
    KeepsWriter lane after := by
  unfold Lane.read at moved
  split at moved
  · split at moved
    · obtain rfl := Option.some.inj moved
      exact .of_eq rfl rfl
    · cases moved
  · cases moved

theorem keepsWriter_decode (decoded : lane.decode = some after) : KeepsWriter lane after := by
  unfold Lane.decode at decoded
  split at decoded
  · split at decoded
    · cases decoded
    · obtain rfl := Option.some.inj decoded
      exact .of_eq rfl rfl
    · obtain rfl := Option.some.inj decoded
      exact .of_eq rfl rfl
  · cases decoded

theorem keepsWriter_delivered {event : LaneEvent} (delivered : lane.delivered = some (event, after)) :
    KeepsWriter lane after := by
  unfold Lane.delivered at delivered
  split at delivered
  · obtain ⟨-, rfl⟩ := Prod.mk.inj (Option.some.inj delivered)
    exact .of_eq rfl rfl
  · obtain ⟨-, rfl⟩ := Prod.mk.inj (Option.some.inj delivered)
    exact .of_eq rfl rfl
  · cases delivered

theorem receive_shrinks {channelOpen : Bool} (received : lane.receive channelOpen = some after) :
    after.writerQueue.length < lane.writerQueue.length ∨
      after.accepts = false ∧ after.writerQueue = lane.writerQueue := by
  unfold Lane.receive at received
  split at received
  · rename_i payload rest receiving filled
    rw [filled, List.length_cons]
    split at received <;>
    · obtain rfl := Option.some.inj received
      exact Or.inl (Nat.lt_succ_self _)
  · split at received
    · cases received
    · obtain rfl := Option.some.inj received
      exact Or.inr ⟨rfl, rfl⟩
  · cases received

def Bounded (lane : Lane) : Prop := lane.writerQueue.length ≤ writerQueueCapacity

theorem Bounded.move {pipeCapacity : Nat} (bounded : Bounded lane)
    (moved : LaneMove pipeCapacity lane after) : Bounded after := by
  cases moved with
  | still => exact bounded
  | queue accepts room =>
      have less : lane.writerQueue.length < writerQueueCapacity := of_decide_eq_true room
      simp only [Bounded, List.length_append, List.length_singleton]
      exact less
  | receive received =>
      rcases receive_shrinks received with less | ⟨-, same⟩
      · exact Nat.le_trans (Nat.le_of_lt less) bounded
      · rw [Bounded, same]
        exact bounded
  | write written =>
      rw [Bounded, (keepsWriter_write written).writerQueue]
      exact bounded
  | reportClosed closing => exact Nat.zero_le _
  | read moved =>
      rw [Bounded, (keepsWriter_read moved).writerQueue]
      exact bounded
  | decode decoded =>
      rw [Bounded, (keepsWriter_decode decoded).writerQueue]
      exact bounded
  | deliver delivered =>
      rw [Bounded, (keepsWriter_delivered delivered).writerQueue]
      exact bounded

end JqBle.Proof.LinkProfile
