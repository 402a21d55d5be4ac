import JqBle.Library.History
import JqBle.LinkProfile.Outbound
import JqBle.Proof.LinkProfile.Performed

/-!
# From the client's queue to the radio

What the client has queued is taken by the runtime in that order and nothing is taken twice, however
the flushes, the driver queue and the events of the radio interleave. Only a batch that is taken makes
the runtime send, so the radio sees the queued payloads in their order too.
-/

namespace JqBle.Proof.LinkProfile
open Std Host Library Execution JqBle.LinkProfile

/-! ## The queues -/

variable {δ : Type} [PeerDirectory δ BlePeerKey DiscoveredPeerHint] {path reached : OutboundPath δ}
  {initial : BleRuntimeTask δ} {inputs : List OutboundStep}

def queuedIn (initial : BleRuntimeTask δ) (inputs : List OutboundStep) : List BleOutboundCommand :=
  history OutboundPath.step OutboundPath.accepted (.components initial) inputs

def takenIn (initial : BleRuntimeTask δ) (inputs : List OutboundStep) : List BleOutboundCommand :=
  history OutboundPath.step OutboundPath.taken (.components initial) inputs

def pathAfter (initial : BleRuntimeTask δ) (inputs : List OutboundStep) : OutboundPath δ :=
  exec OutboundPath.step (.components initial) inputs

/-- What a step does to the commands: a runtime that has stopped takes none, and else what was on its
way and what is accepted is what is taken and what is on its way then, unless the step stops it. -/
structure Moves (path : OutboundPath δ) (input : OutboundStep) (reached : OutboundPath δ) : Prop where
  ended : path.stopped = true → reached.stopped = true ∧ path.taken input = []
  first : path.stopped = false → path.taken input <+: path.inFlight ++ path.accepted input
  rest : reached.stopped = false →
    path.inFlight ++ path.accepted input = path.taken input ++ reached.inFlight

theorem moves_of_kept {input : OutboundStep} (stopped : reached.stopped = path.stopped)
    (none : path.taken input = [])
    (rest : path.stopped = false → reached.inFlight = path.inFlight ++ path.accepted input) :
    Moves path input reached := by
  refine ⟨fun ended => ⟨stopped.trans ended, none⟩, ?_, ?_⟩
  · intro _
    rw [none]
    exact List.nil_prefix
  · intro goes
    rw [none, List.nil_append, rest (stopped.symm.trans goes)]

omit [PeerDirectory δ BlePeerKey DiscoveredPeerHint] in
theorem inFlight_of_push {commands : BoundedQueue BleDriverCommand} {command : BleDriverCommand}
    (pushed : path.commands.push command = some commands) :
    commands.items.flatMap OutboundPath.batchOf =
      path.commands.items.flatMap OutboundPath.batchOf ++ OutboundPath.batchOf command := by
  rw [BoundedQueue.items_of_push pushed, List.flatMap_append, List.flatMap_singleton]

inductive PathMove (path : OutboundPath δ) : OutboundStep → OutboundPath δ → Prop
  | queued (intent : TransportDeliveryIntent) (payload : List UInt8) :
      PathMove path (.sendTransportTo intent payload true)
        { path with mailbox := path.mailbox ++ [⟨intent, payload⟩] }
  | flushed (command : BleOutboundCommand) (rest : List BleOutboundCommand)
      (idle : path.dispatching = none) (waiting : path.mailbox = command :: rest) :
      PathMove path .flushOutbound { path with mailbox := [], dispatching := some (command :: rest) }
  | lost (batch : List BleOutboundCommand) (awaits : path.dispatching = some batch)
      (stopped : path.stopped = true) :
      PathMove path .dispatched { path with dispatching := none }
  | dispatched (batch : List BleOutboundCommand) (commands : BoundedQueue BleDriverCommand)
      (awaits : path.dispatching = some batch)
      (pushed : path.commands.push (.dispatch batch) = some commands) :
      PathMove path .dispatched { path with dispatching := none, commands := commands }
  | shutDown (commands : BoundedQueue BleDriverCommand)
      (pushed : path.commands.push .shutdown = some commands) :
      PathMove path .shutdown { path with commands := commands }
  | received (backend : Backend) (command : BleDriverCommand) (others : List BleDriverCommand)
      (goes : path.stopped = false) (looping : path.restored = [])
      (held : path.commands.items = command :: others) :
      PathMove path (.recv backend) { path with
        commands :=
          if command = .shutdown then .empty path.commands.capacity else path.commands.drop 1
        task := path.task.step ⟨.command command, backend⟩
        stopped := command = .shutdown }
  | turned (turn : Turn) (rest : List BleDevice) (other : ∀ command, turn.event ≠ .command command)
      (after : restoredAfter path.restored turn.event = some rest) :
      PathMove path (.turn turn) { path with task := path.task.step turn, restored := rest }

theorem pathMove_next {input : OutboundStep} (taken : path.next input = some reached) :
    PathMove path input reached := by
  cases input with
  | sendTransportTo intent payload accepted =>
      cases accepted with
      | true =>
          obtain rfl := Option.some.inj taken
          exact .queued intent payload
      | false => cases taken
  | flushOutbound =>
      simp only [OutboundPath.next, OutboundPath.flushOutbound] at taken
      split at taken
      · rename_i command rest idle waiting
        obtain rfl := Option.some.inj taken
        exact .flushed command rest idle waiting
      · cases taken
  | dispatched =>
      simp only [OutboundPath.next, OutboundPath.dispatched] at taken
      split at taken
      · cases taken
      · rename_i batch awaits
        split at taken
        · rename_i stopped
          obtain rfl := Option.some.inj taken
          exact .lost batch awaits stopped
        · obtain ⟨commands, pushed, rfl⟩ := Option.map_eq_some_iff.mp taken
          exact .dispatched batch commands awaits pushed
  | shutdown =>
      simp only [OutboundPath.next, OutboundPath.shutdown] at taken
      split at taken
      · cases taken
      · obtain ⟨commands, pushed, rfl⟩ := Option.map_eq_some_iff.mp taken
        exact .shutDown commands pushed
  | recv backend =>
      simp only [OutboundPath.next, OutboundPath.recv] at taken
      split at taken
      · cases taken
      · rename_i looping
        simp only [Bool.or_eq_true, Bool.not_eq_true', not_or, Bool.not_eq_true,
          Bool.not_eq_false, List.isEmpty_iff] at looping
        split at taken
        · cases taken
        · rename_i command others held
          obtain rfl := Option.some.inj taken
          exact .received backend command others looping.1 looping.2 held
  | turn turn =>
      simp only [OutboundPath.next, OutboundPath.turnOf] at taken
      split at taken
      · cases taken
      · rename_i other
        split at taken
        · cases taken
        · obtain ⟨rest, after, rfl⟩ := Option.map_eq_some_iff.mp taken
          exact .turned turn rest other after

theorem unmoved_of_disabled {input : OutboundStep} (disabled : path.next input = none) :
    path.accepted input = [] ∧ path.taken input = [] := by
  cases input with
  | sendTransportTo intent payload accepted =>
      cases accepted with
      | true => cases disabled
      | false => exact ⟨rfl, rfl⟩
  | recv backend =>
      have received : path.recv backend = none := disabled
      exact ⟨rfl, by simp only [OutboundPath.taken, received]⟩
  | flushOutbound | dispatched | shutdown | turn turn => exact ⟨rfl, rfl⟩

theorem taken_recv {backend : Backend} {command : BleDriverCommand} {others : List BleDriverCommand}
    (received : path.next (.recv backend) = some reached)
    (held : path.commands.items = command :: others) :
    path.taken (.recv backend) = OutboundPath.batchOf command := by
  have known : path.recv backend = some reached := received
  simp [OutboundPath.taken, known, held]

theorem moves_next {input : OutboundStep} (taken : path.next input = some reached) :
    Moves path input reached := by
  have move := pathMove_next taken
  cases move with
  | queued intent payload =>
      exact moves_of_kept rfl rfl fun _ => by simp [OutboundPath.inFlight, OutboundPath.accepted]
  | flushed command rest idle waiting =>
      exact moves_of_kept rfl rfl fun _ => by
        simp [OutboundPath.inFlight, OutboundPath.accepted, idle, waiting]
  | lost batch awaits stopped =>
      exact moves_of_kept rfl rfl fun goes => absurd (goes.symm.trans stopped) (by simp)
  | dispatched batch commands awaits pushed =>
      refine moves_of_kept rfl rfl fun _ => ?_
      simp [OutboundPath.inFlight, OutboundPath.accepted, inFlight_of_push pushed, awaits,
        OutboundPath.batchOf]
  | shutDown commands pushed =>
      refine moves_of_kept rfl rfl fun _ => ?_
      simp [OutboundPath.inFlight, OutboundPath.accepted, inFlight_of_push pushed,
        OutboundPath.batchOf]
  | received backend command others goes looping held =>
      have flight : path.inFlight ++ path.accepted (.recv backend) = OutboundPath.batchOf command ++
          (others.flatMap OutboundPath.batchOf ++ path.dispatching.getD [] ++ path.mailbox) := by
        simp [OutboundPath.inFlight, OutboundPath.accepted, held]
      refine ⟨fun ended => absurd (goes.symm.trans ended) (by simp), ?_, ?_⟩
      · intro _
        rw [taken_recv taken held, flight]
        exact List.prefix_append ..
      · intro goesOn
        rw [taken_recv taken held, flight]
        cases command with
        | shutdown => simp at goesOn
        | dispatch batch => simp [OutboundPath.inFlight, BoundedQueue.drop, held]
  | turned turn rest other after =>
      exact moves_of_kept rfl rfl fun _ => by simp [OutboundPath.inFlight, OutboundPath.accepted]

theorem moves_step (path : OutboundPath δ) (input : OutboundStep) :
    Moves path input (path.step input) := by
  apply attempt_cases (P := fun reached : OutboundPath δ => Moves path input reached)
  · intro disabled
    obtain ⟨nothing, none⟩ := unmoved_of_disabled disabled
    exact moves_of_kept rfl none fun _ => by rw [nothing, List.append_nil]
  · intro reached taken
    exact moves_next taken

/-- What was taken is a prefix of what was accepted, and the rest is on its way while the runtime goes
on. -/
theorem taken_of_queued (initial : BleRuntimeTask δ) (inputs : List OutboundStep) :
    takenIn initial inputs <+: queuedIn initial inputs ∧
      ((pathAfter initial inputs).stopped = false →
        queuedIn initial inputs = takenIn initial inputs ++ (pathAfter initial inputs).inFlight) := by
  induction inputs using List.reverseRecOn with
  | nil => exact ⟨List.prefix_rfl, fun _ => rfl⟩
  | append_singleton before input ih =>
      obtain ⟨earlier, goesOn⟩ := ih
      have moves := moves_step (pathAfter initial before) input
      unfold takenIn queuedIn pathAfter at *
      rw [history_snoc, history_snoc, exec_snoc]
      cases stopped : (exec OutboundPath.step (.components initial) before).stopped with
      | true =>
          obtain ⟨ended, nothing⟩ := moves.ended stopped
          rw [nothing, List.append_nil, ended]
          exact ⟨earlier.trans (List.prefix_append ..), fun goes => absurd goes (by simp)⟩
      | false =>
          rw [goesOn stopped, List.append_assoc]
          refine ⟨(List.prefix_append_right_inj _).mpr (moves.first stopped), ?_⟩
          intro goes
          rw [moves.rest goes, List.append_assoc]

/-! ## The radio -/

def sentIn (initial : BleRuntimeTask δ) (inputs : List OutboundStep) :
    List (BleRuntimeTask δ × Effect) :=
  (history OutboundPath.step OutboundPath.performed (.components initial) inputs).filter
    fun sent => isRadioPath sent.2

omit [PeerDirectory δ BlePeerKey DiscoveredPeerHint] in
theorem filter_performed (task : BleRuntimeTask δ) (effects : List Effect) :
    (effects.map fun effect => (task, effect)).filter (fun sent => isRadioPath sent.2) =
      (effects.filter isRadioPath).map fun effect => (task, effect) := by
  rw [List.filter_map]
  rfl

theorem performed_of_disabled {input : OutboundStep} (disabled : path.next input = none) :
    path.performed input = [] := by
  cases input with
  | recv backend | turn turn => simp only [OutboundPath.performed, disabled]
  | sendTransportTo | flushOutbound | dispatched | shutdown => rfl

theorem sent_of_taken (state : BatchState path.task path.task) (input : OutboundStep) :
    List.SublistForall₂ (fun sent unicast => OnHeldPath sent.1 sent.2 unicast)
      ((path.performed input).filter fun sent => isRadioPath sent.2)
      (addressed (path.taken input)) := by
  cases taken : path.next input with
  | none =>
      rw [performed_of_disabled taken]
      exact .nil
  | some reached =>
      have move := pathMove_next taken
      cases move with
      | queued | flushed | lost | dispatched | shutDown => exact .nil
      | turned turn rest other after =>
          have silent : (path.task.step turn).outbox.filter isRadioPath = [] :=
            radio_step_of_not_command path.task other
          simp only [OutboundPath.performed, taken]
          rw [filter_performed, silent]
          exact .nil
      | received backend command others goes looping held =>
          rw [taken_recv taken held]
          simp only [OutboundPath.performed, taken]
          rw [filter_performed, List.sublistForall₂_map_left_iff]
          cases command with
          | shutdown => exact .nil
          | dispatch batch =>
              have dispatches : (Turn.mk (.command (.dispatch batch)) backend).event =
                .command (.dispatch batch) := rfl
              exact state.step dispatches

/-! ## Whole runs -/

/-- What is needed of the state: it comes from turns of the runtime, and the driver queue has room at
all. -/
structure Underway (initial : BleRuntimeTask δ) (path : OutboundPath δ) : Prop where
  turns : ∃ turns, path.task = exec BleRuntimeTask.step initial turns
  capacity : path.commands.capacity = initial.config.queue.commandCapacity

theorem Underway.step (underway : Underway initial path) (input : OutboundStep) :
    Underway initial (path.step input) := by
  apply attempt_cases (P := fun reached => Underway initial reached) (fun _ => underway)
  intro reached taken
  have move := pathMove_next taken
  cases move with
  | queued | flushed | lost => exact ⟨underway.turns, underway.capacity⟩
  | dispatched batch commands awaits pushed =>
      exact ⟨underway.turns, (BoundedQueue.capacity_of_push pushed).trans underway.capacity⟩
  | shutDown commands pushed =>
      exact ⟨underway.turns, (BoundedQueue.capacity_of_push pushed).trans underway.capacity⟩
  | received backend command others goes looping held =>
      obtain ⟨turns, task⟩ := underway.turns
      constructor
      · exact ⟨turns ++ [⟨.command command, backend⟩], by rw [exec_snoc, ← task]⟩
      · rw [← underway.capacity]
        split
        · rfl
        · rfl
  | turned turn rest other after =>
      obtain ⟨turns, task⟩ := underway.turns
      exact ⟨⟨turns ++ [turn], by rw [exec_snoc, ← task]⟩, underway.capacity⟩

theorem underway_run (initial : BleRuntimeTask δ) (inputs : List OutboundStep) :
    Underway initial (pathAfter initial inputs) := by
  apply exec_always (P := fun path => Underway initial path)
  · exact ⟨⟨[], rfl⟩, rfl⟩
  · intro path input underway
    exact underway.step input

theorem commandCapacity_pos {targetOs : TargetOs} {localNodeId : NodeId} {config : BleConfig}
    {restoredState : BleRestoredState}
    (created : BleRuntimeTask.new targetOs localNodeId config restoredState = .ok initial) :
    0 < initial.config.queue.commandCapacity := by
  unfold BleRuntimeTask.new at created
  split at created
  · cases created
  · split at created
    · cases created
    · rename_i room
      obtain rfl := Except.ok.inj created
      exact Nat.pos_of_ne_zero room

/-- The steps that the bridge and the runtime take by themselves. -/
def OwnMove : OutboundStep → Prop
  | .flushOutbound | .dispatched | .recv _ => True
  | .sendTransportTo .. | .shutdown | .turn _ => False

theorem inFlight_of_stuck (stuck : Stuck OutboundPath.next OwnMove path)
    (goes : path.stopped = false) (looping : path.restored = [])
    (room : 0 < path.commands.capacity) : path.inFlight = [] := by
  have received : path.commands.items = [] := by
    have nothing : path.recv Scenario.silent = none := stuck (.recv Scenario.silent) trivial
    unfold OutboundPath.recv at nothing
    rw [goes, looping] at nothing
    cases held : path.commands.items with
    | nil => rfl
    | cons command others =>
        rw [held] at nothing
        cases nothing
  have idle : path.dispatching = none := by
    have waits : path.dispatched = none := stuck .dispatched trivial
    unfold OutboundPath.dispatched at waits
    cases awaited : path.dispatching with
    | none => rfl
    | some batch =>
        simp only [awaited, goes, Bool.false_eq_true, if_false, Option.map_eq_none_iff,
          BoundedQueue.push_eq_none] at waits
        simp only [BoundedQueue.isFull, received, List.length_nil, decide_eq_true_eq] at waits
        omega
  have flushed : path.mailbox = [] := by
    have nothing : path.flushOutbound = none := stuck .flushOutbound trivial
    unfold OutboundPath.flushOutbound at nothing
    cases queued : path.mailbox with
    | nil => rfl
    | cons command others =>
        rw [idle, queued] at nothing
        cases nothing
  simp [OutboundPath.inFlight, received, idle, flushed]

namespace Scenario

-- Two commands are queued and flushed while the peer is being met, and taken when it is resolved.
def outboundToPeer : List OutboundStep :=
  [.sendTransportTo (.unicast (l2capEndpoint ⟨"peer"⟩)) [7] true,
    .sendTransportTo (.unicast (gattEndpoint ⟨"peer"⟩)) [8] true, .flushOutbound] ++
    upgraded.map .turn ++ [.dispatched, .recv silent]

end Scenario

end JqBle.Proof.LinkProfile
