import JqBle.Client.CommandLoop
import JqBle.Library.History
import JqBle.Proof.Client.Incoming

/-!
# Calls are served one by one, in order and in time

The loop is, seen through its task, the sequential client that handles the commands of the calls in
their order, between rounds of the bridge. What a step of the loop can do is said once, and every result
is a case split over it.
-/

namespace JqBle.Proof.Client
open Host Library Execution JqBle.LinkProfile JqBle.Client CommandLoop

variable {π : Type} {host : ClientHost} {loop reached : CommandLoop π} {input : CommandLoopStep}

/-! ## Receiving and stopping -/

/-- Where a wait or a drain takes its next command, and how it goes on afterwards. -/
inductive Receives : CommandStage → Option Nat → CommandLoopStep → Prop
  | draining (left : Nat) : Receives (.draining (left + 1)) (some left) .tryRecv
  | waiting : Receives .waiting none .recv

/-- The loop ends at its top or in a wait when a shutdown is requested, or where it finds the queue
empty and its sender gone. -/
inductive Stops (loop : CommandLoop π) : CommandLoopStep → Prop
  | top (stage : loop.stage = .top) (requested : loop.shutdown = true) : Stops loop .checkShutdown
  | waiting (stage : loop.stage = .waiting) (requested : loop.shutdown = true) :
      Stops loop .shutdownChanged
  | drained {left : Nat} (stage : loop.stage = .draining (left + 1))
      (gone : loop.disconnected = true) : Stops loop .tryRecv
  | unsent (stage : loop.stage = .waiting) (gone : loop.disconnected = true) : Stops loop .recv

inductive Performing (loop : CommandLoop π) : CommandLoopStep → ClientInput → Prop
  | handling (answers : SendAnswers) (queued : QueuedCommand) (left : Option Nat)
      (stage : loop.stage = .handling queued left) :
      Performing loop (.handleCommand answers) (.command queued.command answers)
  | driving (rounds : ClientRounds) (notified : Bool) (stage : loop.stage = .driving) :
      Performing loop (.driveBridgeRound rounds notified) (.bridgeRound rounds)

theorem pending_of_handling {queued : QueuedCommand} {left : Option Nat}
    (stage : loop.stage = .handling queued left) : loop.pending = queued :: loop.commands.items := by
  rw [pending, stage]
  rfl

theorem pending_stop (loop : CommandLoop π) : loop.stop.pending = [] := by
  simp [pending, CommandLoop.stop, underway, BoundedQueue.drop]

theorem Receives.underway_eq {stage : CommandStage} {left : Option Nat}
    (receives : Receives stage left input) : underway stage = [] := by
  cases receives <;> rfl

theorem running_of_receives {left : Option Nat} (receives : Receives loop.stage left input) :
    loop.stage ≠ .stopped := by
  intro stopped
  rw [stopped] at receives
  cases receives

theorem commandOf_of_own (own : Own input) : commandOf input = none := by
  cases input with
  | send | sendMulticast | requestShutdown | dropCommands => cases own
  | _ => rfl

theorem own_of_receives {stage : CommandStage} {left : Option Nat}
    (receives : Receives stage left input) : Own input := by
  cases receives <;> trivial

theorem own_of_stops (stops : Stops loop input) : Own input := by
  cases stops <;> trivial

theorem Performing.own {performed : ClientInput} (performing : Performing loop input performed) :
    Own input := by
  cases performing <;> trivial

theorem Performing.running {performed : ClientInput} (performing : Performing loop input performed) :
    loop.stage ≠ .stopped := by
  cases performing with
  | handling _ _ _ stage | driving _ _ stage =>
      rw [stage]
      exact nofun

theorem Performing.served_eq {performed : ClientInput}
    (performing : Performing loop input performed) : loop.served input = [performed] := by
  cases performing with
  | handling _ _ _ stage | driving _ _ stage => simp only [served, stage]

/-! ## Shutting down -/

structure Sound (loop : CommandLoop π) : Prop where
  dropped : loop.disconnected = true → loop.shutdown = true
  ended : loop.stage = .stopped →
    (loop.shutdown = true ∨ loop.task.panicked = true) ∧ loop.commands.items = []
  answered : loop.stage ≠ .stopped → loop.abandoned = [] ∧ loop.task.panicked = false

theorem Sound.running (sound : Sound loop) (running : loop.shutdown = false)
    (calm : loop.task.panicked = false) : loop.stage ≠ .stopped ∧ loop.abandoned = [] := by
  have alive : loop.stage ≠ .stopped := by
    intro stopped
    rcases (sound.ended stopped).1 with requested | panicked
    · rw [running] at requested
      cases requested
    · rw [calm] at panicked
      cases panicked
  exact ⟨alive, (sound.answered alive).1⟩

theorem Sound.requested (sound : Sound loop) (stops : Stops loop input) : loop.shutdown = true := by
  cases stops with
  | top _ requested | waiting _ requested => exact requested
  | drained _ gone | unsent _ gone => exact sound.dropped gone

theorem ne_stopped_after_command (left : Option Nat) : stageAfterCommand left ≠ .stopped := by
  cases left <;> simp [stageAfterCommand]

theorem after_round_cases (notified : Bool) (result : Except BleClientError BleBridgeProgress) :
    stageAfterRound notified result = .top ∨ stageAfterRound notified result = .waiting := by
  unfold stageAfterRound
  split
  · exact Or.inr rfl
  · exact Or.inl rfl
  · split
    · exact Or.inl rfl
    · cases notified
      · exact Or.inr rfl
      · exact Or.inl rfl
    · cases notified
      · exact Or.inr rfl
      · exact Or.inl rfl

theorem underway_after_command (left : Option Nat) : underway (stageAfterCommand left) = [] := by
  cases left <;> rfl

theorem underway_after_round (notified : Bool) (result : Except BleClientError BleBridgeProgress) :
    underway (stageAfterRound notified result) = [] := by
  rcases after_round_cases notified result with top | waiting
  · rw [top]
    rfl
  · rw [waiting]
    rfl

/-! ## A step -/

variable [HostTopologyProjector π]

inductive Moves (host : ClientHost) (loop : CommandLoop π) : CommandLoopStep → CommandLoop π → Prop
  | called {input : CommandLoopStep} (command : ClientCommand) (commands : BoundedQueue QueuedCommand)
      (running : loop.shutdown = false) (calm : loop.task.panicked = false)
      (room : loop.commands.push ⟨loop.calls, command⟩ = some commands)
      (enters : loop.accepted host input = [⟨loop.calls, command⟩])
      (foreign : ¬ Own input) :
      Moves host loop input { loop with commands := commands, calls := loop.calls + 1 }
  | requested : Moves host loop .requestShutdown { loop with shutdown := true }
  | dropped (requested : loop.shutdown = true) :
      Moves host loop .dropCommands { loop with disconnected := true }
  | stops {input : CommandLoopStep} (stops : Stops loop input) : Moves host loop input loop.stop
  | drains (stage : loop.stage = .top) (running : loop.shutdown = false) :
      Moves host loop .checkShutdown { loop with stage := .draining clientCommandDrainMax }
  | drained (left : Nat) (stage : loop.stage = .draining left)
      (done : left = 0 ∨ loop.commands.items = []) :
      Moves host loop .tryRecv { loop with stage := .driving }
  | received {input : CommandLoopStep} (queued : QueuedCommand) (rest : List QueuedCommand)
      (left : Option Nat) (items : loop.commands.items = queued :: rest)
      (receives : Receives loop.stage left input)
      (running : loop.stage = .waiting → loop.shutdown = false) :
      Moves host loop input
        { loop with stage := .handling queued left, commands := loop.commands.drop 1 }
  | panicked {input : CommandLoopStep} (performed : ClientInput)
      (performing : Performing loop input performed)
      (panics : (loop.task.handle host performed).panicked = true) :
      Moves host loop input
        { loop with task := loop.task.settle (loop.task.handle host performed) }.stop
  | handled (answers : SendAnswers) (queued : QueuedCommand) (left : Option Nat)
      (stage : loop.stage = .handling queued left)
      (returns : (loop.task.handleCommand host answers queued.command).1.panicked = false) :
      Moves host loop (.handleCommand answers)
        { loop with
          task := (loop.task.handleCommand host answers queued.command).1
          replies := loop.replies ++
            [(queued, (loop.task.handleCommand host answers queued.command).2)]
          stage := stageAfterCommand left }
  | driven (rounds : ClientRounds) (notified : Bool) (stage : loop.stage = .driving)
      (returns : (loop.task.driveBridgeRound host rounds).1.panicked = false) :
      Moves host loop (.driveBridgeRound rounds notified)
        { loop with
          task := (loop.task.driveBridgeRound host rounds).1
          stage := stageAfterRound notified (loop.task.driveBridgeRound host rounds).2 }
  | woken (stage : loop.stage = .waiting) (running : loop.shutdown = false)
      (items : loop.commands.items = []) : Moves host loop .wake { loop with stage := .top }

theorem moves_of_call {command : ClientCommand} (taken : loop.call command = some reached)
    (enters : loop.accepted host input = [⟨loop.calls, command⟩]) (foreign : ¬ Own input) :
    Moves host loop input reached := by
  unfold CommandLoop.call at taken
  split at taken
  · cases taken
  · rename_i serves
    simp only [Bool.or_eq_true, not_or, Bool.not_eq_true] at serves
    obtain ⟨commands, room, rfl⟩ := Option.map_eq_some_iff.mp taken
    exact .called command commands serves.1 serves.2 room enters foreign

theorem moves_of_receive {left : Option Nat} {empty : Option (CommandLoop π)}
    (receives : Receives loop.stage left input)
    (running : loop.stage = .waiting → loop.shutdown = false)
    (gone : loop.disconnected = true → Stops loop input)
    (otherwise : loop.commands.items = [] → empty = some reached → Moves host loop input reached)
    (taken : loop.receive left empty = some reached) : Moves host loop input reached := by
  unfold CommandLoop.receive at taken
  split at taken
  · rename_i queued rest items
    obtain rfl := Option.some.inj taken
    exact .received queued rest left items receives running
  · rename_i items
    split at taken
    · rename_i disconnected
      obtain rfl := Option.some.inj taken
      exact .stops (gone disconnected)
    · exact otherwise items taken

theorem moves_of_next (taken : loop.next host input = some reached) : Moves host loop input reached := by
  cases input with
  | send toNodeId payload =>
      apply moves_of_call taken
      · simp [accepted, commandOf, taken]
      · exact id
  | sendMulticast groupId receivers payload =>
      apply moves_of_call taken
      · simp [accepted, commandOf, taken]
      · exact id
  | requestShutdown =>
      obtain rfl := Option.some.inj taken
      exact .requested
  | dropCommands =>
      simp only [next] at taken
      split at taken
      · rename_i requested
        obtain rfl := Option.some.inj taken
        exact .dropped requested
      · cases taken
  | checkShutdown =>
      simp only [next] at taken
      split at taken
      · rename_i stage
        obtain rfl := Option.some.inj taken
        split
        · exact .stops (.top stage ‹_›)
        · exact .drains stage (Bool.eq_false_iff.mpr ‹_›)
      · cases taken
  | tryRecv =>
      simp only [next] at taken
      split at taken
      · obtain rfl := Option.some.inj taken
        exact .drained 0 ‹_› (Or.inl rfl)
      · rename_i left stage
        apply moves_of_receive (stage ▸ .draining left) _ (.drained stage) _ taken
        · intro waits
          rw [stage] at waits
          cases waits
        · intro items drives
          obtain rfl := Option.some.inj drives
          exact .drained _ stage (Or.inr items)
      · cases taken
  | handleCommand answers =>
      simp only [next] at taken
      split at taken
      · rename_i queued left stage
        obtain rfl := Option.some.inj taken
        split
        · exact .panicked _ (.handling answers queued left stage) ‹_›
        · rename_i returns
          rw [settle_of_returned (Bool.not_eq_true _ ▸ returns)]
          exact .handled answers queued left stage (Bool.eq_false_iff.mpr returns)
      · cases taken
  | driveBridgeRound rounds notified =>
      simp only [next] at taken
      split at taken
      · rename_i stage
        obtain rfl := Option.some.inj taken
        split
        · exact .panicked _ (.driving rounds notified stage) ‹_›
        · rename_i returns
          rw [settle_of_returned (Bool.not_eq_true _ ▸ returns)]
          exact .driven rounds notified stage (Bool.eq_false_iff.mpr returns)
      · cases taken
  | shutdownChanged =>
      simp only [next] at taken
      split at taken
      · rename_i stage
        split at taken
        · obtain rfl := Option.some.inj taken
          exact .stops (.waiting stage ‹_›)
        · cases taken
      · cases taken
  | recv =>
      simp only [next] at taken
      split at taken
      · rename_i stage
        split at taken
        · cases taken
        · rename_i running
          apply moves_of_receive (stage ▸ .waiting) _ (.unsent stage) _ taken
          · exact fun _ => Bool.eq_false_iff.mpr running
          · intro items never
            cases never
      · cases taken
  | wake =>
      simp only [next] at taken
      split at taken
      · rename_i stage
        split at taken
        · cases taken
        · rename_i idle
          simp only [Bool.or_eq_true, Bool.not_eq_true', not_or, Bool.not_eq_true, Bool.not_eq_false,
            List.isEmpty_iff] at idle
          obtain rfl := Option.some.inj taken
          exact .woken stage idle.1 idle.2
      · cases taken

theorem step_cases {P : CommandLoop π → Prop} (stays : loop.next host input = none → P loop)
    (moves : ∀ reached, Moves host loop input reached → P reached) :
    P (CommandLoop.step host loop input) :=
  attempt_cases stays fun reached taken => moves reached (moves_of_next taken)

theorem sound_spawn (localNodeId : NodeId) (topology : Observation Configuration)
    (engineCapabilities : List Nat) :
    Sound (CommandLoop.spawn localNodeId topology engineCapabilities : CommandLoop π) where
  dropped gone := by cases gone
  ended stopped := by cases stopped
  answered _ := ⟨rfl, rfl⟩

theorem sound_step (sound : Sound loop) (input : CommandLoopStep) :
    Sound (CommandLoop.step host loop input) := by
  apply step_cases
  · exact fun _ => sound
  · intro reached moves
    cases moves with
    | called command commands running calm =>
        have alive := (sound.running running calm).1
        exact ⟨sound.dropped, fun stopped => absurd stopped alive, sound.answered⟩
    | requested =>
        exact ⟨fun _ => rfl, fun stopped => ⟨Or.inl rfl, (sound.ended stopped).2⟩, sound.answered⟩
    | dropped requested => exact ⟨fun _ => requested, sound.ended, sound.answered⟩
    | stops stops =>
        have requested := sound.requested stops
        refine ⟨sound.dropped, fun _ => ⟨Or.inl requested, ?_⟩, fun alive => absurd rfl alive⟩
        exact List.drop_length
    | panicked performed performing panics =>
        refine ⟨sound.dropped, fun _ => ⟨Or.inr ?_, ?_⟩, fun alive => absurd rfl alive⟩
        · exact panicked_settle panics
        · exact List.drop_length
    | drains stage | drained left stage | woken stage =>
        have answered := sound.answered (by simp [stage])
        exact ⟨sound.dropped, nofun, fun _ => answered⟩
    | received queued rest left items receives =>
        have answered := sound.answered (running_of_receives receives)
        exact ⟨sound.dropped, nofun, fun _ => answered⟩
    | handled answers queued left stage returns =>
        have answered := (sound.answered (by simp [stage])).1
        have alive := ne_stopped_after_command left
        exact ⟨sound.dropped, fun stopped => absurd stopped alive, fun _ => ⟨answered, returns⟩⟩
    | driven rounds notified stage returns =>
        have answered := (sound.answered (by simp [stage])).1
        refine ⟨sound.dropped, fun stopped => ?_, fun _ => ⟨answered, returns⟩⟩
        rcases after_round_cases notified (loop.task.driveBridgeRound host rounds).2 with top | waiting
        · cases top.symm.trans stopped
        · cases waiting.symm.trans stopped

/-! ## What was accepted is answered in order -/

def log (loop : CommandLoop π) : List QueuedCommand :=
  loop.replies.map Prod.fst ++ loop.abandoned ++ loop.pending

theorem accepted_of_disabled (disabled : loop.next host input = none) :
    loop.accepted host input = [] := by
  unfold accepted
  split
  · simp [disabled]
  · rfl

theorem accepted_of_uncalled (uncalled : commandOf input = none) : loop.accepted host input = [] := by
  rw [accepted, uncalled]

theorem log_step (sound : Sound loop) (input : CommandLoopStep) :
    log (CommandLoop.step host loop input) = log loop ++ loop.accepted host input := by
  apply step_cases (P := fun reached => log reached = log loop ++ loop.accepted host input)
  · intro disabled
    rw [accepted_of_disabled disabled, List.append_nil]
  · intro reached moves
    cases moves with
    | called command commands running calm room enters =>
        rw [enters]
        simp [log, pending, BoundedQueue.items_of_push room]
    | requested | dropped =>
        rw [accepted_of_uncalled rfl, List.append_nil]
        rfl
    | stops stops =>
        rw [accepted_of_uncalled (commandOf_of_own (own_of_stops stops)), log, pending_stop]
        simp [log, CommandLoop.stop]
    | panicked performed performing =>
        rw [accepted_of_uncalled (commandOf_of_own performing.own), log, pending_stop]
        simp [log, pending, CommandLoop.stop]
    | drains stage | drained left stage | woken stage =>
        rw [accepted_of_uncalled rfl]
        simp [log, pending, underway, stage]
    | received queued rest left items receives =>
        rw [accepted_of_uncalled (commandOf_of_own (own_of_receives receives)), log,
          pending_of_handling rfl]
        simp [log, pending, BoundedQueue.drop, receives.underway_eq, items]
    | handled answers queued left stage =>
        have answered := (sound.answered (by simp [stage])).1
        rw [accepted_of_uncalled rfl, log, log, pending_of_handling stage]
        simp [pending, underway_after_command, answered]
    | driven rounds notified stage =>
        have idle : underway loop.stage = [] := by rw [stage]; rfl
        rw [accepted_of_uncalled rfl]
        simp [log, pending, underway_after_round, idle]

theorem numbers_step (input : CommandLoopStep) :
    List.range (CommandLoop.step host loop input).calls =
      List.range loop.calls ++ (loop.accepted host input).map QueuedCommand.reply := by
  apply step_cases (P := fun reached => List.range reached.calls =
    List.range loop.calls ++ (loop.accepted host input).map QueuedCommand.reply)
  · intro disabled
    simp [accepted_of_disabled disabled]
  · intro reached moves
    cases moves with
    | called command commands running calm room enters =>
        rw [enters]
        exact List.range_succ
    | stops stops =>
        simp [accepted_of_uncalled (commandOf_of_own (own_of_stops stops)), CommandLoop.stop]
    | panicked performed performing =>
        simp [accepted_of_uncalled (commandOf_of_own performing.own), CommandLoop.stop]
    | received queued rest left items receives =>
        simp [accepted_of_uncalled (commandOf_of_own (own_of_receives receives))]
    | requested | dropped | drains | drained | woken | handled | driven =>
        rw [accepted_of_uncalled rfl]
        simp

/-! ## Seen through its task the loop is the sequential client -/

theorem served_of_disabled (disabled : loop.next host input = none) : loop.served input = [] := by
  cases input with
  | handleCommand answers | driveBridgeRound rounds notified =>
      simp only [next] at disabled
      split at disabled
      · cases disabled
      · simp only [served]
  | _ => rfl

omit [HostTopologyProjector π] in
theorem served_of_foreign (foreign : ¬ Own input) : loop.served input = [] := by
  cases input with
  | send | sendMulticast | requestShutdown | dropCommands => rfl
  | _ => exact absurd trivial foreign

omit [HostTopologyProjector π] in
theorem Receives.served_eq {stage : CommandStage} {left : Option Nat}
    (receives : Receives stage left input) : loop.served input = [] := by
  cases receives <;> rfl

/-- A step has the task handle an input, and replies if the input is a command and handling it
returns. -/
inductive Performs (host : ClientHost) (loop reached : CommandLoop π) : List ClientInput → Prop
  | nothing (task : reached.task = loop.task) (replies : reached.replies = loop.replies) :
      Performs host loop reached []
  | panic (input : ClientInput) (running : loop.stage ≠ .stopped)
      (panics : (loop.task.handle host input).panicked = true)
      (task : reached.task = loop.task.settle (loop.task.handle host input))
      (replies : reached.replies = loop.replies) : Performs host loop reached [input]
  | command (queued : QueuedCommand) (answers : SendAnswers) (running : loop.stage ≠ .stopped)
      (returns : (loop.task.handleCommand host answers queued.command).1.panicked = false)
      (task : reached.task = (loop.task.handleCommand host answers queued.command).1)
      (replies : reached.replies = loop.replies ++
        [(queued, (loop.task.handleCommand host answers queued.command).2)]) :
      Performs host loop reached [.command queued.command answers]
  | round (rounds : ClientRounds) (running : loop.stage ≠ .stopped)
      (returns : (loop.task.driveBridgeRound host rounds).1.panicked = false)
      (task : reached.task = (loop.task.driveBridgeRound host rounds).1)
      (replies : reached.replies = loop.replies) : Performs host loop reached [.bridgeRound rounds]

theorem performs_step (input : CommandLoopStep) :
    Performs host loop (CommandLoop.step host loop input) (loop.served input) := by
  apply step_cases (P := fun reached => Performs host loop reached (loop.served input))
  · intro disabled
    rw [served_of_disabled disabled]
    exact .nothing rfl rfl
  · intro reached moves
    cases moves with
    | called command commands running calm room enters foreign =>
        rw [served_of_foreign foreign]
        exact .nothing rfl rfl
    | stops stops => cases stops <;> exact .nothing rfl rfl
    | panicked performed performing panics =>
        rw [performing.served_eq]
        exact .panic performed performing.running panics rfl rfl
    | received queued rest left items receives =>
        rw [receives.served_eq]
        exact .nothing rfl rfl
    | handled answers queued left stage returns =>
        simp only [served, stage]
        exact .command queued answers (by simp [stage]) returns rfl rfl
    | driven rounds notified stage returns =>
        simp only [served, stage]
        exact .round rounds (by simp [stage]) returns rfl rfl
    | requested | dropped | drains | drained | woken => exact .nothing rfl rfl

theorem task_step (sound : Sound loop) (input : CommandLoopStep) :
    exec (ClientTask.step host) loop.task (loop.served input) =
      (CommandLoop.step host loop input).task := by
  have performs : Performs host loop _ _ := performs_step input
  generalize loop.served input = inputs, CommandLoop.step host loop input = reached at performs ⊢
  cases performs with
  | nothing task =>
      rw [task]
      rfl
  | panic input running panics task =>
      rw [task]
      exact step_of_calm (sound.answered running).2 input
  | command queued answers running returns task =>
      rw [task]
      exact (step_of_calm (sound.answered running).2 _).trans (settle_of_returned returns)
  | round rounds running returns task =>
      rw [task]
      exact (step_of_calm (sound.answered running).2 _).trans (settle_of_returned returns)

/-- The replies, each with the command that it answers. -/
def replied (loop : CommandLoop π) : List (ClientCommand × Except BleClientError ClientReply) :=
  loop.replies.map fun reply => (reply.1.command, reply.2)

theorem replied_step (sound : Sound loop) (input : CommandLoopStep) :
    replied (CommandLoop.step host loop input) = replied loop ++
      history (ClientTask.step host) (ClientTask.answered host) loop.task (loop.served input) := by
  have performs : Performs host loop _ _ := performs_step input
  generalize loop.served input = inputs, CommandLoop.step host loop input = reached at performs ⊢
  cases performs with
  | nothing _ replies | round rounds _ _ _ replies =>
      simp [replied, replies, history, ClientTask.answered]
  | panic input running panics task replies =>
      have silent : loop.task.answered host input = [] := by
        have panicked : (loop.task.step host input).panicked = true := by
          rw [step_of_calm (sound.answered running).2]
          exact panicked_settle panics
        cases input with
        | bridgeRound rounds => rfl
        | command command answers => exact if_pos panicked
      simp [replied, replies, history, silent]
  | command queued answers running returns _ replies =>
      have answers : loop.task.answered host (.command queued.command answers) =
          [(queued.command, (loop.task.handleCommand host answers queued.command).2)] := by
        have returned : (loop.task.step host (.command queued.command answers)).panicked = false := by
          rw [step_of_calm (sound.answered running).2]
          exact (congrArg ClientTask.panicked (settle_of_returned returns)).trans returns
        exact if_neg (Bool.eq_false_iff.mp returned)
      simp [replied, replies, history, answers]

/-! ## Rest -/

/-- A router that refuses everything answers too. -/
def refusals : SendAnswers where
  activeRoute _ := none
  forwardCached _ := .error (.other 0)
  activateRoute := .error (.other 0)
  forwardActivated _ := .error (.other 0)
  sendTransport := .ok ()
  rounds := ⟨refused, refused⟩
where
  refused : ClientRound :=
    { sharedClock := id
      notifierSnapshot := 0
      drainRawIngress := .ok []
      ingestTransportObservation := fun _ => .ok ()
      advanceRound := .error (.other 0)
      dispatch := .ok () }

omit [HostTopologyProjector π] in
theorem receive_isSome (loop : CommandLoop π) (left : Option Nat) (empty : Option (CommandLoop π))
    (ready : loop.commands.items ≠ [] ∨ empty.isSome = true) : (loop.receive left empty).isSome = true := by
  unfold CommandLoop.receive
  split
  · rfl
  · rename_i items
    split
    · rfl
    · exact ready.resolve_left fun more => more items

/-- The loop itself can go on unless it waits for a command or has stopped. -/
theorem waiting_of_stuck (stuck : Stuck (next host) Own loop) :
    loop.stage = .stopped ∨
      loop.stage = .waiting ∧ loop.shutdown = false ∧ loop.commands.items = [] := by
  cases stage : loop.stage with
  | stopped => exact Or.inl rfl
  | top =>
      have enabled := stuck .checkShutdown trivial
      simp [next, stage] at enabled
  | draining left =>
      have enabled := stuck .tryRecv trivial
      cases left with
      | zero => simp [next, stage] at enabled
      | succ left =>
          have some := receive_isSome loop (some left) (some { loop with stage := .driving })
            (Or.inr rfl)
          simp only [next, stage] at enabled
          rw [enabled] at some
          cases some
  | handling queued left =>
      have enabled := stuck (.handleCommand refusals) trivial
      simp [next, stage] at enabled
  | driving =>
      have enabled := stuck (.driveBridgeRound refusals.rounds false) trivial
      simp [next, stage] at enabled
  | waiting =>
      have changed := stuck .shutdownChanged trivial
      have enabled := stuck .recv trivial
      have running : loop.shutdown = false := by simpa [next, stage] using changed
      refine Or.inr ⟨rfl, running, ?_⟩
      by_contra more
      have some := receive_isSome loop none none (Or.inl more)
      simp only [next, stage, running] at enabled
      rw [if_neg Bool.false_ne_true] at enabled
      rw [enabled] at some
      cases some

theorem pending_of_stuck (sound : Sound loop) (stuck : Stuck (next host) Own loop) :
    loop.pending = [] := by
  rcases waiting_of_stuck stuck with stopped | ⟨waiting, -, items⟩
  · rw [pending, stopped, (sound.ended stopped).2]
    rfl
  · simp [pending, waiting, items, underway]

/-! ## The whole run -/

section Runs
variable (host) (localNodeId : NodeId) (topology : Observation Configuration)
  (engineCapabilities : List Nat) (inputs : List CommandLoopStep)

end Runs

end JqBle.Proof.Client
