import JqBle.LinkProfile.ControlIngress
import JqBle.Proof.LinkProfile.Ingress
import Mathlib.Data.List.Nodup

/-!
# No control event is lost or doubled

A control event is popped, offered, put back and offered again while the consumer makes room at any
moment. Whatever the order of these, it has entered the mailbox once or it is deferred once.
-/

namespace JqBle.Proof.LinkProfile
open Host Library Execution JqBle.LinkProfile

variable {μ : Type} [IngressMailbox μ] {ingress : ControlIngress μ}

/-! ## One step -/

/-- The events that have entered and the deferred ones are together the emitted ones. -/
structure Conserved (ingress : ControlIngress μ) : Prop where
  numbered : ingress.emitted.map ControlEvent.order = List.range ingress.emitted.length
  perm : (IngressMailbox.entered ingress.ingressTx ++ ingress.deferredControlIngress).Perm
    ingress.emitted

theorem Conserved.emitControlEvent (conserved : Conserved ingress) (event : TransportIngressEvent) :
    Conserved (ingress.emitControlEvent event) := by
  constructor
  · show (ingress.emitted ++ [ControlEvent.mk ingress.emitted.length event]).map
      ControlEvent.order = List.range (ingress.emitted ++ _).length
    rw [List.map_append, conserved.numbered, List.length_append, List.length_singleton,
      List.range_succ]
    rfl
  · simp only [ControlIngress.emitControlEvent, IngressMailbox.entered_emitControl]
    split
    · rw [List.append_assoc, List.singleton_append]
      exact List.perm_middle.trans ((conserved.perm.cons _).trans (List.perm_append_singleton ..).symm)
    · rw [← List.append_assoc]
      exact conserved.perm.append_right _

theorem flushIteration_cases (ingress : ControlIngress μ) :
    ∃ moved, ingress.deferredControlIngress =
        moved ++ ingress.flushIteration.1.deferredControlIngress ∧
      IngressMailbox.entered ingress.flushIteration.1.ingressTx =
        IngressMailbox.entered ingress.ingressTx ++ moved ∧
      ingress.flushIteration.1.emitted = ingress.emitted ∧
      (ingress.flushIteration.2 = true → moved ≠ []) := by
  unfold ControlIngress.flushIteration
  cases waiting : ingress.deferredControlIngress with
  | nil => exact ⟨[], by simp [waiting], by simp, rfl, nofun⟩
  | cons control rest =>
      have answer := IngressMailbox.entered_emitControl ingress.ingressTx control
      dsimp only
      split
      · rename_i accepted
        rw [if_pos accepted] at answer
        exact ⟨[control], rfl, answer, rfl, fun _ => by simp⟩
      · rename_i refused
        rw [if_neg refused] at answer
        exact ⟨[], rfl, by simpa using answer, rfl, nofun⟩

theorem Conserved.flushIteration (conserved : Conserved ingress) :
    Conserved ingress.flushIteration.1 := by
  obtain ⟨moved, waiting, entered, emitted, -⟩ := flushIteration_cases ingress
  constructor
  · rw [emitted]
    exact conserved.numbered
  · have perm := conserved.perm
    rw [waiting, ← List.append_assoc] at perm
    rw [entered, emitted]
    exact perm

theorem Conserved.step (conserved : Conserved ingress) (next : ControlStep) :
    Conserved (ingress.step next) := by
  cases next with
  | emitControlEvent event => exact conserved.emitControlEvent event
  | emitPayload event =>
      refine ⟨conserved.numbered, ?_⟩
      show (IngressMailbox.entered (IngressMailbox.emitPayload ingress.ingressTx event) ++ _).Perm _
      rw [IngressMailbox.entered_emitPayload]
      exact conserved.perm
  | flushIteration => exact conserved.flushIteration
  | drain count =>
      refine ⟨conserved.numbered, ?_⟩
      show (IngressMailbox.entered (IngressMailbox.drain ingress.ingressTx count) ++ _).Perm _
      rw [IngressMailbox.entered_drain]
      exact conserved.perm

theorem conserved_run (capacity : Nat) (steps : List ControlStep) :
    Conserved (exec ControlIngress.step (.new capacity : ControlIngress μ) steps) := by
  apply exec_always
  · refine ⟨rfl, ?_⟩
    show (IngressMailbox.entered (IngressMailbox.new (μ := μ) capacity) ++ []).Perm []
    rw [IngressMailbox.entered_new]
    exact .nil
  · intro ingress next conserved
    exact conserved.step next

theorem Conserved.nodup (conserved : Conserved ingress) : ingress.emitted.Nodup := by
  apply List.Nodup.of_map ControlEvent.order
  rw [conserved.numbered]
  exact List.nodup_range

theorem Conserved.count (conserved : Conserved ingress) (control : ControlEvent) :
    (IngressMailbox.entered ingress.ingressTx).count control +
        ingress.deferredControlIngress.count control =
      if control ∈ ingress.emitted then 1 else 0 := by
  rw [← List.count_append, conserved.perm.count_eq]
  split
  · rename_i emitted
    exact List.count_eq_one_of_mem conserved.nodup emitted
  · rename_i never
    exact List.count_eq_zero_of_not_mem never

/-! ## One flush -/

def flushSteps (drained : Nat → Nat) : (attempt iterations : Nat) → List ControlStep
  | _, 0 => []
  | attempt, iterations + 1 =>
      .drain (drained attempt) :: .flushIteration :: flushSteps drained (attempt + 1) iterations

/-- A flush makes at most one iteration more than there are deferred events. -/
theorem flush_terminates (drained : Nat → Nat) (fuel attempt : Nat) (ingress : ControlIngress μ)
    (enough : ingress.deferredControlIngress.length < fuel) :
    ∃ flushed iterations,
      ControlIngress.flushDeferredControlIngress drained fuel attempt ingress = some flushed ∧
      flushed = exec ControlIngress.step ingress (flushSteps drained attempt iterations) ∧
      iterations ≤ ingress.deferredControlIngress.length + 1 ∧
      flushed.deferredControlIngress <:+ ingress.deferredControlIngress := by
  induction fuel generalizing attempt ingress with
  | zero => cases enough
  | succ fuel ih =>
      obtain ⟨moved, waiting, -, -, progress⟩ :=
        flushIteration_cases (ingress.drain (drained attempt))
      have deferred : (ingress.drain (drained attempt)).deferredControlIngress =
          ingress.deferredControlIngress := rfl
      rw [deferred] at waiting
      unfold ControlIngress.flushDeferredControlIngress
      dsimp only
      split
      · rename_i continues
        have shorter := congrArg List.length waiting
        rw [List.length_append] at shorter
        have positive := List.length_pos_iff.mpr (progress continues)
        obtain ⟨flushed, iterations, result, executed, bounded, suffix⟩ :=
          ih (attempt + 1) (ingress.drain (drained attempt)).flushIteration.1 (by omega)
        refine ⟨flushed, iterations + 1, result, executed, by omega, ?_⟩
        rw [waiting]
        exact suffix.trans (List.suffix_append ..)
      · refine ⟨_, 1, rfl, rfl, by omega, ?_⟩
        rw [waiting]
        exact List.suffix_append ..

/-- The events given to `emit_control_event`, in order. -/
def emissions (steps : List ControlStep) : List TransportIngressEvent :=
  steps.filterMap fun
    | .emitControlEvent event => some event
    | _ => none

theorem emitted_run (capacity : Nat) (steps : List ControlStep) :
    (exec ControlIngress.step (.new capacity : ControlIngress μ) steps).emitted.map
      ControlEvent.event = emissions steps := by
  induction steps using List.reverseRecOn with
  | nil => rfl
  | append_singleton before next ih =>
      rw [exec_snoc, emissions, List.filterMap_append, ← emissions, ← ih]
      cases next with
      | emitControlEvent event =>
          show ((_ : List ControlEvent) ++ [ControlEvent.mk _ event]).map ControlEvent.event = _
          rw [List.map_append]
          rfl
      | emitPayload event => simp [ControlIngress.step, ControlIngress.emitPayload]
      | flushIteration =>
          obtain ⟨-, -, -, emitted, -⟩ := flushIteration_cases
            (exec ControlIngress.step (.new capacity : ControlIngress μ) before)
          simp [ControlIngress.step, emitted]
      | drain count => simp [ControlIngress.step, ControlIngress.drain]

/-- After any interleaving, every control event that was emitted has entered the mailbox once or is
deferred once, and a flush from there ends with what is left of the deferred events. -/
theorem control_events_conserved (capacity : Nat) (steps : List ControlStep) :
    let ingress := exec ControlIngress.step (.new capacity : ControlIngress μ) steps
    ingress.emitted.map ControlEvent.event = emissions steps ∧ ingress.emitted.Nodup ∧
      (∀ control, (IngressMailbox.entered ingress.ingressTx).count control +
          ingress.deferredControlIngress.count control =
        if control ∈ ingress.emitted then 1 else 0) ∧
      ∀ (drained : Nat → Nat) (fuel attempt : Nat),
        ingress.deferredControlIngress.length < fuel → ∃ flushed iterations,
          ControlIngress.flushDeferredControlIngress drained fuel attempt ingress = some flushed ∧
          flushed = exec ControlIngress.step (.new capacity)
            (steps ++ flushSteps drained attempt iterations) ∧
          flushed.deferredControlIngress <:+ ingress.deferredControlIngress := by
  have conserved := conserved_run (μ := μ) capacity steps
  refine ⟨emitted_run capacity steps, conserved.nodup, conserved.count, ?_⟩
  intro drained fuel attempt enough
  obtain ⟨flushed, iterations, result, executed, -, suffix⟩ :=
    flush_terminates drained fuel attempt _ enough
  exact ⟨flushed, iterations, result, by rw [executed, exec_append], suffix⟩

/-- The second event is deferred by a mailbox of one place and flushed after a drain. -/
def overflowed : List ControlStep :=
  [.emitControlEvent (rawBleLinkObservedEvent (Scenario.node 2) (gattEndpoint ⟨"peer"⟩)),
    .emitControlEvent (rawBleLinkFaultedEvent (Scenario.node 2) (gattEndpoint ⟨"peer"⟩)), .drain 1]

theorem control_events_conserved_overflow :
    ∃ flushed : ControlIngress BoundedMailbox,
      ControlIngress.flushDeferredControlIngress (fun _ => 0) 2 0
        (exec ControlIngress.step (.new 1) overflowed) = some flushed ∧
      flushed.deferredControlIngress <:+
        (exec ControlIngress.step (.new 1 : ControlIngress BoundedMailbox)
          overflowed).deferredControlIngress := by
  obtain ⟨-, -, -, flushes⟩ := control_events_conserved (μ := BoundedMailbox) 1 overflowed
  have enough : (exec ControlIngress.step (.new 1 : ControlIngress BoundedMailbox)
      overflowed).deferredControlIngress.length < 2 := by
    decide +kernel
  obtain ⟨flushed, iterations, result, -, suffix⟩ := flushes (fun _ => 0) 2 0 enough
  exact ⟨flushed, result, suffix⟩

/-! ## The runtime's own ingress -/

/-- The two models of the ingress agree, over the bounded mailbox. -/
structure Simulates (control : ControlIngress BoundedMailbox) (ingress : RuntimeIngress) : Prop where
  ingressTx : control.ingressTx = ⟨ingress.mailbox, ingress.entered⟩
  deferred : control.deferredControlIngress = ingress.deferredControlIngress
  emitted : control.emitted.length = ingress.emitted

variable {control : ControlIngress BoundedMailbox} {runtimeIngress : RuntimeIngress}

theorem emitControl_bounded (runtimeIngress : RuntimeIngress)
    (simulates : control.ingressTx = ⟨runtimeIngress.mailbox, runtimeIngress.entered⟩)
    (event : ControlEvent) :
    IngressMailbox.emitControl control.ingressTx event =
      match runtimeIngress.emitControl event with
      | some sent => (⟨sent.mailbox, sent.entered⟩, true)
      | none => (control.ingressTx, false) := by
  rw [simulates]
  unfold RuntimeIngress.emitControl
  simp only [IngressMailbox.emitControl]
  cases runtimeIngress.mailbox.push (.control event) <;> rfl

theorem Simulates.emitControlEvent (simulates : Simulates control runtimeIngress)
    (event : TransportIngressEvent) :
    Simulates (control.emitControlEvent event) (runtimeIngress.emitControlEvent event) := by
  let counted := { runtimeIngress with emitted := runtimeIngress.emitted + 1 }
  have answer := emitControl_bounded counted simulates.ingressTx
    ⟨runtimeIngress.emitted, event⟩
  unfold ControlIngress.emitControlEvent RuntimeIngress.emitControlEvent
  dsimp only
  rw [simulates.emitted]
  cases accepted : counted.emitControl ⟨runtimeIngress.emitted, event⟩ with
  | some sent =>
      obtain ⟨-, waiting, emitted⟩ := emitControl_eq_some accepted
      rw [accepted] at answer
      rw [answer]
      constructor
      · rfl
      · rw [waiting]
        exact simulates.deferred
      · rw [emitted, List.length_append, simulates.emitted]
        rfl
  | none =>
      rw [accepted] at answer
      rw [answer]
      constructor
      · exact simulates.ingressTx
      · rw [← simulates.deferred]
        rfl
      · rw [List.length_append, simulates.emitted]
        rfl

theorem simulates_flushLoop (drained : Nat → Nat) (waiting : List ControlEvent) (attempt : Nat)
    (simulates : Simulates control { runtimeIngress with deferredControlIngress := waiting }) :
    ∃ iterations, Simulates
      (exec ControlIngress.step control (flushSteps drained attempt iterations))
      (RuntimeIngress.flushLoop drained attempt waiting runtimeIngress) := by
  induction waiting generalizing attempt control runtimeIngress with
  | nil => exact ⟨0, simulates⟩
  | cons event rest ih =>
      have drainedTx : (control.drain (drained attempt)).ingressTx =
          ⟨(runtimeIngress.drain (drained attempt)).mailbox, runtimeIngress.entered⟩ := by
        rw [ControlIngress.drain, simulates.ingressTx]
        rfl
      have deferred : (control.drain (drained attempt)).deferredControlIngress = event :: rest :=
        simulates.deferred
      have answer := emitControl_bounded (runtimeIngress.drain (drained attempt)) drainedTx
        event
      unfold RuntimeIngress.flushLoop
      dsimp only
      split
      · rename_i sent accepted
        obtain ⟨-, -, counted⟩ := emitControl_eq_some accepted
        rw [accepted] at answer
        have moved : Simulates (control.drain (drained attempt)).flushIteration.1
            { sent with deferredControlIngress := rest } := by
          unfold ControlIngress.flushIteration
          rw [deferred]
          dsimp only
          rw [answer]
          exact ⟨rfl, rfl, simulates.emitted.trans counted.symm⟩
        obtain ⟨iterations, reached⟩ := ih (attempt + 1) moved
        exact ⟨iterations + 1, reached⟩
      · rename_i refused
        rw [refused] at answer
        refine ⟨1, ?_⟩
        show Simulates (control.drain (drained attempt)).flushIteration.1 _
        unfold ControlIngress.flushIteration
        rw [deferred]
        dsimp only
        rw [answer]
        exact ⟨drainedTx, rfl, simulates.emitted⟩

def ingressEmissions (steps : List IngressStep) : List TransportIngressEvent :=
  steps.filterMap fun
    | .emitControlEvent event => some event
    | _ => none

theorem emissions_flushSteps (drained : Nat → Nat) (attempt iterations : Nat) :
    emissions (flushSteps drained attempt iterations) = [] := by
  induction iterations generalizing attempt with
  | zero => rfl
  | succ iterations ih => exact ih (attempt + 1)

theorem Simulates.step (simulates : Simulates control runtimeIngress) (next : IngressStep) :
    ∃ steps, emissions steps = ingressEmissions [next] ∧
      Simulates (exec ControlIngress.step control steps) (runtimeIngress.step next) := by
  cases next with
  | emitControlEvent event =>
      exact ⟨[.emitControlEvent event], rfl, simulates.emitControlEvent event⟩
  | emitPayload event =>
      refine ⟨[.emitPayload event], rfl, ?_⟩
      simp only [exec_cons, exec_nil, ControlIngress.step, ControlIngress.emitPayload,
        RuntimeIngress.step, RuntimeIngress.emitPayload, simulates.ingressTx,
        IngressMailbox.emitPayload]
      split
      · rename_i mailbox pushed
        exact ⟨by rw [pushed]; rfl, simulates.deferred, simulates.emitted⟩
      · rename_i refused
        exact ⟨by rw [refused]; rfl, simulates.deferred, simulates.emitted⟩
  | flushDeferredControlIngress drained =>
      obtain ⟨iterations, reached⟩ := simulates_flushLoop drained
        runtimeIngress.deferredControlIngress 0 simulates
      exact ⟨flushSteps drained 0 iterations, emissions_flushSteps drained 0 iterations, reached⟩
  | drain count =>
      refine ⟨[.drain count], rfl, ?_, simulates.deferred, simulates.emitted⟩
      show IngressMailbox.drain control.ingressTx count = _
      rw [simulates.ingressTx]
      rfl

theorem simulates_run (capacity : Nat) (steps : List IngressStep) :
    ∃ controlSteps, emissions controlSteps = ingressEmissions steps ∧
      Simulates (exec ControlIngress.step (.new capacity) controlSteps)
        (exec RuntimeIngress.step (.new capacity) steps) := by
  induction steps using List.reverseRecOn with
  | nil => exact ⟨[], rfl, rfl, rfl, rfl⟩
  | append_singleton before next ih =>
      obtain ⟨controlSteps, emitted, simulates⟩ := ih
      obtain ⟨added, emittedNow, reached⟩ := simulates.step next
      refine ⟨controlSteps ++ added, ?_, ?_⟩
      · rw [emissions, List.filterMap_append, ← emissions, ← emissions, emitted, emittedNow,
          ingressEmissions, ingressEmissions, ← List.filterMap_append, ingressEmissions]
      · rw [exec_append, exec_snoc]
        exact reached

/-- Every state of the runtime holds the control events of its turns, each once. -/
theorem runtime_conserves_control_events {δ : Type}
    [PeerDirectory δ BlePeerKey DiscoveredPeerHint] (targetOs : TargetOs) (localNodeId : NodeId)
    (config : BleConfig) (restoredState : BleRestoredState) (turns : List LoopTurn) :
    let runtime : BleRuntime δ := .launch targetOs localNodeId config restoredState
    let ingress := (exec BleRuntime.step runtime turns).ingress
    ∃ emitted : List ControlEvent,
      emitted.map ControlEvent.order = List.range ingress.emitted ∧
      emitted.map ControlEvent.event = ingressEmissions (runtime.runSteps turns) ∧
      (ingress.entered ++ ingress.deferredControlIngress).Perm emitted := by
  intro runtime ingress
  obtain ⟨controlSteps, emissions, simulates⟩ :=
    simulates_run config.queue.ingressCapacity (runtime.runSteps turns)
  have executed : ingress = exec RuntimeIngress.step (.new config.queue.ingressCapacity)
    (runtime.runSteps turns) := ingress_run runtime turns
  have conserved := conserved_run (μ := BoundedMailbox) config.queue.ingressCapacity controlSteps
  rw [executed]
  let control : ControlIngress BoundedMailbox :=
    exec ControlIngress.step (.new config.queue.ingressCapacity) controlSteps
  refine ⟨control.emitted, ?_, ?_, ?_⟩
  · rw [conserved.numbered, simulates.emitted]
  · rw [emitted_run, emissions]
  · have perm := conserved.perm
    rw [simulates.ingressTx, simulates.deferred] at perm
    exact perm

end JqBle.Proof.LinkProfile
