import JqBle.Proof.Client.CommandLoop

/-!
# How long a call, a round and a shutdown can wait for the loop

Every bound is a budget that the steps of the loop pay from.
-/

namespace JqBle.Proof.Client
open Host Library Execution JqBle.LinkProfile JqBle.Client CommandLoop

variable {π : Type} {host : ClientHost} {loop reached : CommandLoop π} {input : CommandLoopStep}

/-! ## What a drain has left -/

def Drains : CommandStage → Prop
  | .draining left => left ≤ clientCommandDrainMax
  | .handling _ (some left) => left < clientCommandDrainMax
  | _ => True

theorem drains_after_command {queued : QueuedCommand} {left : Option Nat}
    (drains : Drains (.handling queued left)) : Drains (stageAfterCommand left) := by
  cases left with
  | none => trivial
  | some left => exact Nat.le_of_lt drains

theorem drains_after_round (notified : Bool) (result : Except BleClientError BleBridgeProgress) :
    Drains (stageAfterRound notified result) := by
  rcases after_round_cases notified result with top | waiting
  · rw [top]
    trivial
  · rw [waiting]
    trivial

theorem Receives.drains {stage : CommandStage} {left : Option Nat}
    (receives : Receives stage left input) (drains : Drains stage) (queued : QueuedCommand) :
    Drains (.handling queued left) := by
  cases receives with
  | draining left => exact Nat.lt_of_succ_le drains
  | waiting => trivial

/-! ## Rounds -/

/-- The commands that can be handled before the next round. -/
def beforeRound : CommandStage → Nat
  | .top => clientCommandDrainMax
  | .draining left => left
  | .handling _ (some left) => left + 1
  | .handling _ none | .waiting => clientCommandDrainMax + 1
  | .driving | .stopped => 0

theorem beforeRound_le {stage : CommandStage} (drains : Drains stage) :
    beforeRound stage ≤ clientCommandDrainMax + 1 := by
  cases stage with
  | handling queued left =>
      cases left with
      | none => exact Nat.le_refl _
      | some left => exact Nat.succ_le_succ (Nat.le_of_lt drains)
  | top => exact Nat.le_succ _
  | draining left => exact Nat.le_succ_of_le drains
  | waiting => exact Nat.le_refl _
  | driving | stopped => exact Nat.zero_le _

/-! ## Shutting down -/

/-- The steps of the loop until a requested shutdown has stopped it. -/
def untilStopped : CommandStage → Nat
  | .stopped => 0
  | .top | .waiting => 1
  | .driving => 2
  | .draining left => 2 * left + 3
  | .handling _ (some left) => 2 * left + 4
  | .handling _ none => 2

theorem untilStopped_le {stage : CommandStage} (drains : Drains stage) :
    untilStopped stage ≤ 2 * clientCommandDrainMax + 3 := by
  cases stage with
  | handling queued left =>
      cases left with
      | none => simp [untilStopped]
      | some left =>
          have less : left < clientCommandDrainMax := drains
          simp only [untilStopped]
          omega
  | draining left =>
      have less : left ≤ clientCommandDrainMax := drains
      simp only [untilStopped]
      omega
  | top | waiting | driving | stopped => simp [untilStopped]

def closingTime (loop : CommandLoop π) : Nat :=
  if loop.shutdown then untilStopped loop.stage else 2 * clientCommandDrainMax + 3

/-! ## Awaiting a reply -/

def numbers (loop : CommandLoop π) : List Nat := loop.pending.map QueuedCommand.reply

structure Numbered (loop : CommandLoop π) : Prop where
  sound : Sound loop
  numbered : (log loop).map QueuedCommand.reply = List.range loop.calls
  capacity : loop.commands.capacity = defaultClientCommandCapacity

theorem Numbered.suffix (numbered : Numbered loop) : numbers loop <:+ List.range loop.calls := by
  rw [← numbered.numbered, log, List.map_append]
  exact List.suffix_append ..

theorem Numbered.nodup (numbered : Numbered loop) : (numbers loop).Nodup :=
  numbered.suffix.sublist.nodup List.nodup_range

theorem Numbered.lt {number : Nat} (numbered : Numbered loop) (awaits : number ∈ numbers loop) :
    number < loop.calls :=
  List.mem_range.mp (numbered.suffix.subset awaits)

/-- The steps of the loop until the next reply, while a command is pending. -/
def untilReply : CommandStage → Nat
  | .stopped => 0
  | .handling .. => 1
  | .draining (_ + 1) | .waiting => 2
  | .top => 3
  | .driving => 4
  | .draining 0 => 5

@[simp] theorem untilReply_handling (queued : QueuedCommand) (left : Option Nat) :
    untilReply (.handling queued left) = 1 := rfl

theorem untilReply_le (stage : CommandStage) : untilReply stage ≤ 5 := by
  cases stage with
  | draining left => cases left <;> simp [untilReply]
  | _ => simp [untilReply]

def untilAnswered (stage : CommandStage) (number : Nat) (numbers : List Nat) : Nat :=
  if numbers.contains number then untilReply stage + 5 * numbers.idxOf number else 0

def patience (number : Nat) (loop : CommandLoop π) : Nat :=
  if number < loop.calls then untilAnswered loop.stage number (numbers loop)
  else 5 * (defaultClientCommandCapacity + 1)

theorem untilAnswered_of_not_mem {stage : CommandStage} {number : Nat} {numbers : List Nat}
    (absent : number ∉ numbers) : untilAnswered stage number numbers = 0 := by
  simp [untilAnswered, absent]

theorem called_le {number : Nat} {command : ClientCommand} {commands : BoundedQueue QueuedCommand}
    (numbered : Numbered loop) (room : loop.commands.push ⟨loop.calls, command⟩ = some commands) :
    patience number { loop with commands := commands, calls := loop.calls + 1 } ≤
      patience number loop := by
  have pending : numbers { loop with commands := commands, calls := loop.calls + 1 } =
      numbers loop ++ [loop.calls] := by
    simp [numbers, CommandLoop.pending, BoundedQueue.items_of_push room]
  unfold patience
  rw [pending]
  rcases Nat.lt_trichotomy number loop.calls with old | rfl | new
  · rw [if_pos old, if_pos (Nat.lt_succ_of_lt old)]
    by_cases awaits : number ∈ numbers loop
    · simp [untilAnswered, awaits, List.idxOf_append_of_mem awaits]
    · have absent : number ∉ numbers loop ++ [loop.calls] := by
        simp [awaits, Nat.ne_of_lt old]
      rw [untilAnswered_of_not_mem absent]
      exact Nat.zero_le _
  · have bounded := commands.bounded
    have underway : (underway loop.stage).length ≤ 1 := by
      unfold CommandLoop.underway
      split <;> simp
    have fresh : loop.calls ∉ numbers loop := fun member => Nat.lt_irrefl _ (numbered.lt member)
    have position : (numbers loop ++ [loop.calls]).idxOf loop.calls = (numbers loop).length := by
      rw [List.idxOf_append_of_notMem fresh]
      simp
    have soon := untilReply_le loop.stage
    rw [if_pos (Nat.lt_succ_self _), if_neg (Nat.lt_irrefl _)]
    rw [BoundedQueue.capacity_of_push room, numbered.capacity, BoundedQueue.items_of_push room] at bounded
    have held : (numbers loop).length =
        (CommandLoop.underway loop.stage).length + loop.commands.items.length := by
      simp [numbers, CommandLoop.pending]
    rw [List.length_append, List.length_singleton] at bounded
    simp only [untilAnswered, position]
    split
    · omega
    · exact Nat.zero_le _
  · apply Nat.le_of_eq
    rw [if_neg (Nat.not_lt.mpr new), if_neg (Nat.not_lt.mpr (Nat.le_of_lt new))]

/-- A reply brings those behind it nearer by more than the loop can spend before the next one. -/
theorem untilAnswered_handled {number first : Nat} {rest : List Nat} {queued : QueuedCommand}
    (left : Option Nat) (distinct : (first :: rest).Nodup) (awaits : number ∈ first :: rest) :
    untilAnswered (stageAfterCommand left) number rest + 1 ≤
      untilAnswered (.handling queued left) number (first :: rest) := by
  have soon := untilReply_le (stageAfterCommand left)
  by_cases same : first = number
  · subst same
    rw [untilAnswered_of_not_mem (List.nodup_cons.mp distinct).1]
    simp [untilAnswered, untilReply]
  · have later : number ∈ rest := List.mem_of_ne_of_mem (Ne.symm same) awaits
    simp only [untilAnswered, List.contains_iff_mem.mpr awaits, List.contains_iff_mem.mpr later, if_true,
      List.idxOf_cons_ne rest same, untilReply_handling]
    omega

/-! ## Steps -/

variable [HostTopologyProjector π]

theorem drains_step (drains : Drains loop.stage) (input : CommandLoopStep) :
    Drains (CommandLoop.step host loop input).stage := by
  apply step_cases (P := fun reached => Drains reached.stage)
  · exact fun _ => drains
  · intro reached moves
    cases moves with
    | called | requested | dropped => exact drains
    | stops | panicked | drained | woken => trivial
    | drains => exact Nat.le_refl _
    | received queued rest left items receives => exact receives.drains drains queued
    | handled answers queued left stage =>
        rw [stage] at drains
        exact drains_after_command drains
    | driven rounds notified => exact drains_after_round notified _

theorem command_pays (input : CommandLoopStep) :
    ((loop.served input).filter ClientInput.isCommand).length +
        beforeRound (CommandLoop.step host loop input).stage ≤
      beforeRound loop.stage + (clientCommandDrainMax + 1) *
        ((loop.served input).filter fun served => !served.isCommand).length := by
  apply step_cases (P := fun reached =>
    ((loop.served input).filter ClientInput.isCommand).length + beforeRound reached.stage ≤
      beforeRound loop.stage + (clientCommandDrainMax + 1) *
        ((loop.served input).filter fun served => !served.isCommand).length)
  · intro disabled
    simp [served_of_disabled disabled]
  · intro reached moves
    cases moves with
    | called command commands running calm room enters foreign => simp [served_of_foreign foreign]
    | requested | dropped => simp [served]
    | stops stops =>
        have quiet : loop.served input = [] := by
          generalize loop = before at stops ⊢
          cases stops <;> rfl
        simp [quiet, CommandLoop.stop, beforeRound]
    | panicked performed performing =>
        rw [performing.served_eq]
        cases performing with
        | handling answers queued left stage =>
            cases left <;>
              simp [stage, CommandLoop.stop, beforeRound, List.filter_cons, ClientInput.isCommand]
        | driving => simp [CommandLoop.stop, beforeRound, ClientInput.isCommand]
    | drains stage | drained left stage | woken stage => simp [served, stage, beforeRound]
    | received queued rest left items receives =>
        have kept : beforeRound (.handling queued left) = beforeRound loop.stage := by
          generalize loop.stage = stage at receives ⊢
          cases receives <;> rfl
        simp [receives.served_eq, kept]
    | handled answers queued left stage =>
        have pays : 1 + beforeRound (stageAfterCommand left) ≤ beforeRound (.handling queued left) := by
          cases left <;> simp [beforeRound, stageAfterCommand, Nat.add_comm]
        simpa [served, stage, List.filter_cons, ClientInput.isCommand] using pays
    | driven rounds notified stage =>
        have most := beforeRound_le
          (drains_after_round notified (loop.task.driveBridgeRound host rounds).2)
        simpa [served, stage, ClientInput.isCommand, beforeRound] using most

theorem length_ownStep_le (input : CommandLoopStep) : (loop.ownStep host input).length ≤ 1 := by
  unfold ownStep
  split <;> simp

theorem ownStep_of_foreign (foreign : ¬ Own input) : loop.ownStep host input = [] := by
  unfold ownStep
  rw [if_neg fun own => foreign own.1]

theorem ownStep_of_disabled (disabled : loop.next host input = none) : loop.ownStep host input = [] := by
  unfold ownStep
  rw [disabled]
  simp

theorem closing_le (kept : reached.shutdown = loop.shutdown)
    (nearer : loop.shutdown = true → untilStopped reached.stage + 1 ≤ untilStopped loop.stage) :
    (loop.closing host input).length + closingTime reached ≤ closingTime loop := by
  have most : (loop.ownStep host input).length ≤ 1 := length_ownStep_le input
  unfold closing closingTime
  rw [kept]
  split
  · rename_i requested
    have nearer := nearer requested
    omega
  · simp

theorem closing_pays (drains : Drains loop.stage) (input : CommandLoopStep) :
    (loop.closing host input).length + closingTime (CommandLoop.step host loop input) ≤
      closingTime loop := by
  apply step_cases (P := fun reached =>
    (loop.closing host input).length + closingTime reached ≤ closingTime loop)
  · intro disabled
    simp [closing, ownStep_of_disabled disabled]
  · intro reached moves
    cases moves with
    | called command commands running => simp [closing, closingTime, running]
    | requested =>
        have bounded := untilStopped_le drains
        have quiet : loop.ownStep host .requestShutdown = [] := ownStep_of_foreign id
        simp only [closing, closingTime, quiet]
        split <;> simp [bounded]
    | dropped requested =>
        have quiet : loop.ownStep host .dropCommands = [] := ownStep_of_foreign id
        simp [closing, closingTime, quiet]
    | stops stops =>
        refine closing_le rfl fun _ => ?_
        cases stops with
        | top stage | waiting stage | drained stage | unsent stage =>
            simp [stage, CommandLoop.stop, untilStopped]
    | panicked performed performing =>
        refine closing_le rfl fun _ => ?_
        cases performing with
        | handling _ _ left stage => cases left <;> simp [stage, CommandLoop.stop, untilStopped]
        | driving _ _ stage => simp [stage, CommandLoop.stop, untilStopped]
    | drains stage running | woken stage running =>
        refine closing_le rfl fun requested => ?_
        rw [running] at requested
        cases requested
    | drained left stage done =>
        refine closing_le rfl fun _ => ?_
        simp [stage, untilStopped]
    | received queued rest left items receives running =>
        refine closing_le rfl fun requested => ?_
        generalize loop.stage = stage at receives running ⊢
        cases receives with
        | draining left =>
            simp only [untilStopped]
            omega
        | waiting =>
            rw [running rfl] at requested
            cases requested
    | handled answers queued left stage =>
        refine closing_le rfl fun _ => ?_
        cases left <;> simp [stage, untilStopped, stageAfterCommand]
    | driven rounds notified stage =>
        refine closing_le rfl fun _ => ?_
        rcases after_round_cases notified (loop.task.driveBridgeRound host rounds).2 with top | waiting
        · simp [stage, top, untilStopped]
        · simp [stage, waiting, untilStopped]

theorem capacity_step (input : CommandLoopStep) :
    (CommandLoop.step host loop input).commands.capacity = loop.commands.capacity := by
  apply step_cases (P := fun reached => reached.commands.capacity = loop.commands.capacity)
  · exact fun _ => rfl
  · intro reached moves
    cases moves with
    | called command commands running calm room => exact BoundedQueue.capacity_of_push room
    | _ => rfl

theorem numbered_step (numbered : Numbered loop) (input : CommandLoopStep) :
    Numbered (CommandLoop.step host loop input) where
  sound := sound_step numbered.sound input
  numbered := by
    rw [log_step numbered.sound, List.map_append, numbered.numbered, ← numbers_step]
  capacity := (capacity_step input).trans numbered.capacity

theorem numbered_spawn (localNodeId : NodeId) (topology : Observation Configuration)
    (engineCapabilities : List Nat) :
    Numbered (CommandLoop.spawn localNodeId topology engineCapabilities : CommandLoop π) :=
  ⟨sound_spawn .., rfl, rfl⟩

theorem awaited_of_not_mem {number : Nat} (absent : number ∉ numbers loop) :
    loop.awaited host number input = [] := by
  unfold awaited
  rw [if_neg]
  simpa [numbers] using absent

theorem length_awaited_le {number : Nat} : (loop.awaited host number input).length ≤ 1 := by
  unfold awaited
  split
  · exact length_ownStep_le input
  · simp

theorem awaited_le {number : Nat} (numbered : Numbered loop) (calls : reached.calls = loop.calls)
    (nearer : number ∈ numbers loop → untilAnswered reached.stage number (numbers reached) + 1 ≤
      untilAnswered loop.stage number (numbers loop))
    (quiet : numbers reached ⊆ numbers loop) :
    (loop.awaited host number input).length + patience number reached ≤ patience number loop := by
  have most : (loop.awaited host number input).length ≤ 1 := length_awaited_le
  unfold patience
  rw [calls]
  by_cases awaits : number ∈ numbers loop
  · have nearer := nearer awaits
    rw [if_pos (numbered.lt awaits), if_pos (numbered.lt awaits)]
    omega
  · rw [awaited_of_not_mem awaits, untilAnswered_of_not_mem awaits,
      untilAnswered_of_not_mem fun member => awaits (quiet member)]
    simp

theorem awaited_le_of_same {number : Nat} (numbered : Numbered loop)
    (calls : reached.calls = loop.calls) (same : numbers reached = numbers loop)
    (nearer : numbers loop ≠ [] → untilReply reached.stage + 1 ≤ untilReply loop.stage) :
    (loop.awaited host number input).length + patience number reached ≤ patience number loop := by
  apply awaited_le numbered calls
  · intro awaits
    have nearer := nearer (List.ne_nil_of_mem awaits)
    rw [same]
    simp only [untilAnswered, List.contains_iff_mem.mpr awaits, if_true]
    omega
  · rw [same]
    exact List.Subset.refl _

omit [HostTopologyProjector π] in
theorem numbers_stop (loop : CommandLoop π) : numbers loop.stop = [] := by
  rw [numbers, pending_stop, List.map_nil]

theorem awaited_le_of_stop {number : Nat} (numbered : Numbered loop)
    (calls : reached.calls = loop.calls) (stopped : reached.stage = .stopped)
    (none : numbers reached = []) (running : 1 ≤ untilReply loop.stage) :
    (loop.awaited host number input).length + patience number reached ≤ patience number loop := by
  refine awaited_le numbered calls (fun awaits => ?_) ?_
  · rw [none, stopped]
    simp only [untilAnswered, List.contains_iff_mem.mpr awaits, if_true]
    simp
    omega
  · simp [none]

theorem awaited_pays {number : Nat} (numbered : Numbered loop) (input : CommandLoopStep) :
    (loop.awaited host number input).length + patience number (CommandLoop.step host loop input) ≤
      patience number loop := by
  apply step_cases (P := fun reached =>
    (loop.awaited host number input).length + patience number reached ≤ patience number loop)
  · intro disabled
    simp [awaited, ownStep_of_disabled disabled]
  · intro reached moves
    cases moves with
    | called command commands running calm room enters foreign =>
        have later : patience number { loop with commands := commands, calls := loop.calls + 1 } ≤
            patience number loop := called_le numbered room
        simpa [awaited, ownStep_of_foreign foreign] using later
    | requested =>
        have quiet : loop.ownStep host .requestShutdown = [] := ownStep_of_foreign id
        simp only [awaited, quiet, ite_self, List.length_nil, Nat.zero_add]
        exact Nat.le_refl _
    | dropped requested =>
        have quiet : loop.ownStep host .dropCommands = [] := ownStep_of_foreign id
        simp only [awaited, quiet, ite_self, List.length_nil, Nat.zero_add]
        exact Nat.le_refl _
    | stops stops =>
        refine awaited_le_of_stop numbered rfl rfl (numbers_stop loop) ?_
        cases stops with
        | top stage | waiting stage | drained stage | unsent stage => simp [stage, untilReply]
    | panicked performed performing =>
        refine awaited_le_of_stop numbered rfl rfl (numbers_stop _) ?_
        cases performing with
        | handling _ _ _ stage | driving _ _ stage => simp [stage, untilReply]
    | drains stage =>
        refine awaited_le_of_same numbered rfl ?_ fun _ => ?_
        · simp [numbers, CommandLoop.pending, stage, underway]
        · rw [stage]
          exact Nat.le_refl _
    | woken stage running items =>
        have none : numbers loop = [] := by
          simp [numbers, CommandLoop.pending, stage, items, underway]
        refine awaited_le_of_same numbered rfl ?_ fun awaited => absurd none awaited
        simp [numbers, CommandLoop.pending, stage, underway]
    | drained left stage done =>
        refine awaited_le_of_same numbered rfl ?_ fun awaited => ?_
        · simp [numbers, CommandLoop.pending, stage, underway]
        · rcases done with rfl | items
          · rw [stage]
            exact Nat.le_refl _
          · refine absurd ?_ awaited
            simp [numbers, CommandLoop.pending, stage, items, underway]
    | received queued rest left items receives running =>
        refine awaited_le_of_same numbered rfl ?_ fun _ => ?_
        · rw [numbers, pending_of_handling rfl]
          simp [numbers, CommandLoop.pending, items, receives.underway_eq, BoundedQueue.drop]
        · generalize loop.stage = stage at receives ⊢
          cases receives <;> exact Nat.le_refl _
    | handled answers queued left stage =>
        have before : numbers loop = queued.reply :: loop.commands.items.map QueuedCommand.reply := by
          rw [numbers, pending_of_handling stage, List.map_cons]
        have after (task : ClientTask π) replies : numbers
            { loop with task := task, replies := replies, stage := stageAfterCommand left } =
              loop.commands.items.map QueuedCommand.reply := by
          simp [numbers, CommandLoop.pending, underway_after_command]
        have distinct := numbered.nodup
        refine awaited_le numbered rfl (fun awaits => ?_) ?_
        · rw [before] at awaits distinct ⊢
          rw [after, stage]
          exact untilAnswered_handled left distinct awaits
        · rw [after, before]
          exact List.subset_cons_self ..
    | driven rounds notified stage =>
        refine awaited_le_of_same numbered rfl ?_ fun _ => ?_
        · have idle : underway loop.stage = [] := by rw [stage]; rfl
          simp [numbers, CommandLoop.pending, idle, underway_after_round]
        · rcases after_round_cases notified (loop.task.driveBridgeRound host rounds).2 with top | waiting
          · simp [stage, top, untilReply]
          · simp [stage, waiting, untilReply]

/-! ## Runs -/

section Runs
variable (host) (localNodeId : NodeId) (topology : Observation Configuration)
  (engineCapabilities : List Nat) (before after : List CommandLoopStep)

theorem rounds_not_starved :
    let start : CommandLoop π := .spawn localNodeId topology engineCapabilities
    let reached := exec (CommandLoop.step host) start before
    let served := history (CommandLoop.step host) CommandLoop.served reached after
    served.countP ClientInput.isCommand ≤
      (clientCommandDrainMax + 1) * (served.countP (fun input => !input.isCommand) + 1) := by
  intro start reached served
  have drains : Drains reached.stage := by
    apply exec_always (P := fun loop : CommandLoop π => Drains loop.stage)
    · trivial
    · exact fun _ input drains => drains_step drains input
  have bounded := beforeRound_le drains
  have paid : (history (CommandLoop.step host)
        (fun loop input => (loop.served input).filter ClientInput.isCommand) reached after).length +
        beforeRound (exec (CommandLoop.step host) reached after).stage ≤
      beforeRound reached.stage + (clientCommandDrainMax + 1) * (history (CommandLoop.step host)
        (fun loop input => (loop.served input).filter fun input => !input.isCommand)
        reached after).length :=
    history_length_le (P := fun _ => True) (fun loop : CommandLoop π => beforeRound loop.stage) _ trivial
      (fun _ _ _ => trivial) (fun _ input _ => command_pays input) after
  rw [← filter_history, ← filter_history, ← List.countP_eq_length_filter,
    ← List.countP_eq_length_filter] at paid
  show (history _ _ _ _).countP _ ≤ _ * ((history _ _ _ _).countP _ + 1)
  rw [Nat.mul_add]
  omega

end Runs

end JqBle.Proof.Client
