import JqBle.LinkProfile.Ingress
import JqBle.Proof.LinkProfile.Scenario

/-!
# The order of control events

Flushing keeps the deferred events in order. A new control event is offered to the mailbox without
a look at the deferred ones, so it overtakes them whenever the mailbox has room again.
-/

namespace JqBle.Proof.LinkProfile
open Host Library Execution JqBle.LinkProfile

variable {ingress : RuntimeIngress} {control : ControlEvent}

/-- The control events that have entered the mailbox did so in the order of their emission. -/
def OrderKept (ingress : RuntimeIngress) : Prop :=
  ingress.entered.Pairwise fun first second => first.order < second.order

/-- Those that have entered, followed by the deferred ones, are the emitted ones in order. -/
def InOrder (ingress : RuntimeIngress) : Prop :=
  (ingress.entered ++ ingress.deferredControlIngress).map ControlEvent.order =
    List.range ingress.emitted

theorem InOrder.orderKept (inOrder : InOrder ingress) : OrderKept ingress := by
  unfold InOrder at inOrder
  have sorted : ((ingress.entered ++ ingress.deferredControlIngress).map
      ControlEvent.order).Pairwise (· < ·) := by
    rw [inOrder]
    exact List.pairwise_lt_range
  exact (List.pairwise_append.mp (List.pairwise_map.mp sorted)).1

theorem emitControl_eq_none : ingress.emitControl control = none ↔
    ingress.mailbox.isFull = true := by
  unfold RuntimeIngress.emitControl
  rw [Option.map_eq_none_iff, BoundedQueue.push_eq_none]

theorem emitControl_eq_some {entered : RuntimeIngress}
    (accepted : ingress.emitControl control = some entered) :
    entered.entered = ingress.entered ++ [control] ∧
      entered.deferredControlIngress = ingress.deferredControlIngress ∧
      entered.emitted = ingress.emitted := by
  obtain ⟨mailbox, -, rfl⟩ := Option.map_eq_some_iff.mp accepted
  exact ⟨rfl, rfl, rfl⟩

/-! ## Flushing -/

theorem flushLoop_spec (drained : Nat → Nat) (attempt : Nat) (waiting : List ControlEvent)
    (ingress : RuntimeIngress) :
    (RuntimeIngress.flushLoop drained attempt waiting ingress).entered ++
        (RuntimeIngress.flushLoop drained attempt waiting ingress).deferredControlIngress =
        ingress.entered ++ waiting ∧
      (RuntimeIngress.flushLoop drained attempt waiting ingress).emitted = ingress.emitted := by
  induction waiting generalizing attempt ingress with
  | nil => exact ⟨rfl, rfl⟩
  | cons control rest ih =>
      unfold RuntimeIngress.flushLoop
      dsimp only
      split
      · rename_i entered accepted
        obtain ⟨moved, -, counted⟩ := emitControl_eq_some accepted
        obtain ⟨order, emitted⟩ := ih (attempt + 1) entered
        refine ⟨?_, emitted.trans counted⟩
        rw [order, moved]
        simp [RuntimeIngress.drain]
      · exact ⟨rfl, rfl⟩

theorem entered_flushLoop (drained : Nat → Nat) (attempt : Nat) (waiting : List ControlEvent)
    (ingress : RuntimeIngress) :
    ingress.entered <+: (RuntimeIngress.flushLoop drained attempt waiting ingress).entered := by
  induction waiting generalizing attempt ingress with
  | nil => exact List.prefix_rfl
  | cons control rest ih =>
      unfold RuntimeIngress.flushLoop
      dsimp only
      split
      · rename_i entered accepted
        have moved := (emitControl_eq_some accepted).1
        refine List.IsPrefix.trans ?_ (ih (attempt + 1) entered)
        rw [moved]
        exact List.prefix_append ..
      · exact List.prefix_rfl

theorem InOrder.flush (inOrder : InOrder ingress) (drained : Nat → Nat) :
    InOrder (ingress.flushDeferredControlIngress drained) := by
  obtain ⟨order, emitted⟩ := flushLoop_spec drained 0 ingress.deferredControlIngress ingress
  unfold InOrder RuntimeIngress.flushDeferredControlIngress
  rw [order, emitted]
  exact inOrder

/-! ## One step -/

/-- A control event is emitted only while none is deferred or the mailbox is full. -/
def EmitsInTurn (ingress : RuntimeIngress) : IngressStep → Prop
  | .emitControlEvent _ =>
      ingress.deferredControlIngress = [] ∨ ingress.mailbox.isFull = true
  | _ => True

theorem emitControlEvent_cases (ingress : RuntimeIngress) (event : TransportIngressEvent) :
    (ingress.emitControlEvent event).emitted = ingress.emitted + 1 ∧
      ((ingress.mailbox.isFull = true ∧
        (ingress.emitControlEvent event).entered = ingress.entered ∧
        (ingress.emitControlEvent event).deferredControlIngress =
          ingress.deferredControlIngress ++ [⟨ingress.emitted, event⟩]) ∨
      (ingress.mailbox.isFull = false ∧
        (ingress.emitControlEvent event).entered = ingress.entered ++ [⟨ingress.emitted, event⟩] ∧
        (ingress.emitControlEvent event).deferredControlIngress =
          ingress.deferredControlIngress)) := by
  unfold RuntimeIngress.emitControlEvent
  dsimp only
  split
  · rename_i entered accepted
    obtain ⟨moved, waiting, counted⟩ := emitControl_eq_some accepted
    have room : ingress.mailbox.isFull = false := by
      have notRefused := accepted ▸ Option.some_ne_none entered
      rw [ne_eq, emitControl_eq_none, Bool.not_eq_true] at notRefused
      exact notRefused
    exact ⟨counted, Or.inr ⟨room, moved, waiting⟩⟩
  · rename_i refused
    have full := emitControl_eq_none.mp refused
    exact ⟨rfl, Or.inl ⟨full, rfl, rfl⟩⟩

theorem capacity_emitControlEvent (ingress : RuntimeIngress) (event : TransportIngressEvent) :
    (ingress.emitControlEvent event).mailbox.capacity = ingress.mailbox.capacity := by
  unfold RuntimeIngress.emitControlEvent
  dsimp only
  split
  · rename_i entered accepted
    obtain ⟨mailbox, pushed, rfl⟩ := Option.map_eq_some_iff.mp accepted
    exact BoundedQueue.capacity_of_push pushed
  · rfl

theorem InOrder.step (inOrder : InOrder ingress) {next : IngressStep}
    (allowed : EmitsInTurn ingress next) : InOrder (ingress.step next) := by
  cases next with
  | emitControlEvent event =>
      obtain ⟨counted, ⟨full, entered, waiting⟩ | ⟨room, entered, waiting⟩⟩ :=
        emitControlEvent_cases ingress event
      · unfold InOrder at inOrder ⊢
        simp only [RuntimeIngress.step]
        rw [counted, entered, waiting, ← List.append_assoc, List.map_append, inOrder,
          List.range_succ]
        rfl
      · have none : ingress.deferredControlIngress = [] := by
          rcases allowed with none | full
          · exact none
          · rw [room] at full
            cases full
        unfold InOrder at inOrder ⊢
        simp only [RuntimeIngress.step]
        rw [none, List.append_nil] at inOrder
        rw [counted, entered, waiting, none, List.append_nil, List.map_append, inOrder,
          List.range_succ]
        rfl
  | emitPayload event =>
      simp only [RuntimeIngress.step, RuntimeIngress.emitPayload]
      split <;> exact inOrder
  | flushDeferredControlIngress drained => exact inOrder.flush drained
  | drain count => exact inOrder

theorem inOrder_run {capacity : Nat} {steps : List IngressStep}
    (meets : Meets RuntimeIngress.step EmitsInTurn (.new capacity) steps) :
    InOrder (exec RuntimeIngress.step (.new capacity) steps) :=
  exec_invariant (P := InOrder) (by simp [InOrder, RuntimeIngress.new])
    (fun _ _ inOrder allowed => inOrder.step allowed) meets

theorem overtaken_by_emission (inOrder : InOrder ingress) {event : TransportIngressEvent}
    (overtakes : ¬ EmitsInTurn ingress (.emitControlEvent event)) :
    ∃ drained, ¬ OrderKept
      ((ingress.emitControlEvent event).flushDeferredControlIngress drained) := by
  unfold EmitsInTurn at overtakes
  rw [not_or, Bool.not_eq_true] at overtakes
  obtain ⟨deferred, room⟩ := overtakes
  obtain ⟨-, ⟨full, -, -⟩ | ⟨-, entered, waiting⟩⟩ := emitControlEvent_cases ingress event
  · rw [room] at full
    cases full
  cases shape : ingress.deferredControlIngress with
  | nil => exact absurd shape deferred
  | cons first rest =>
      have earlier : first.order < ingress.emitted := by
        have member : first.order ∈ (ingress.entered ++
            ingress.deferredControlIngress).map ControlEvent.order := by simp [shape]
        rw [inOrder] at member
        exact List.mem_range.mp member
      -- Drain everything, then flush: the first deferred event enters behind the new one.
      have positive : 0 < (ingress.emitControlEvent event).mailbox.capacity := by
        rw [capacity_emitControlEvent]
        exact BoundedQueue.capacity_pos_of_not_full room
      refine ⟨fun _ => (ingress.emitControlEvent event).mailbox.items.length, ?_⟩
      intro ordered
      unfold RuntimeIngress.flushDeferredControlIngress at ordered
      rw [waiting, shape] at ordered
      unfold RuntimeIngress.flushLoop at ordered
      dsimp only at ordered
      split at ordered
      · rename_i moved accepted
        have behind := (emitControl_eq_some accepted).1
        have sorted := List.Pairwise.sublist (entered_flushLoop _ _ rest moved).sublist ordered
        simp only [behind, RuntimeIngress.drain, entered, List.append_assoc] at sorted
        have pair := (List.pairwise_append.mp sorted).2.1
        simp at pair
        omega
      · rename_i refused
        have full := emitControl_eq_none.mp refused
        have empty := BoundedQueue.isFull_drop_length positive
        simp only [RuntimeIngress.drain] at full
        rw [empty] at full
        cases full

/-- Along any interleaving, the control events enter in the order of their emission, now and with
every flush that may follow, exactly when each is emitted while none is deferred or the mailbox is
full. -/
theorem control_order_iff (capacity : Nat) (steps : List IngressStep) :
    Meets RuntimeIngress.step EmitsInTurn (.new capacity) steps ↔
      ∀ before, before <+: steps →
        OrderKept (exec RuntimeIngress.step (.new capacity) before) ∧
          ∀ drained, OrderKept (exec RuntimeIngress.step (.new capacity)
            (before ++ [.flushDeferredControlIngress drained])) := by
  refine meets_iff_forall_prefix (P := fun before =>
    OrderKept (exec RuntimeIngress.step (.new capacity) before) ∧
      ∀ drained, OrderKept (exec RuntimeIngress.step (.new capacity)
        (before ++ [.flushDeferredControlIngress drained]))) ?_ ?_
  · exact ⟨List.Pairwise.nil, fun _ => List.Pairwise.nil⟩
  · intro before next meets _
    constructor
    · rintro ⟨-, flushed⟩
      cases next with
      | emitControlEvent event =>
          by_contra overtakes
          obtain ⟨drained, overtaken⟩ := overtaken_by_emission (inOrder_run meets) overtakes
          have ordered := flushed drained
          rw [exec_snoc, exec_snoc] at ordered
          exact overtaken ordered
      | emitPayload event => trivial
      | flushDeferredControlIngress drained => trivial
      | drain count => trivial
    · intro allowed
      have longer := meets_snoc.mpr ⟨meets, allowed⟩
      refine ⟨(inOrder_run longer).orderKept, ?_⟩
      intro drained
      have flushed : Meets RuntimeIngress.step EmitsInTurn (.new capacity)
          ((before ++ [next]) ++ [.flushDeferredControlIngress drained]) :=
        meets_snoc.mpr ⟨longer, trivial⟩
      exact (inOrder_run flushed).orderKept

/-! ## Runs of the runtime -/

theorem ingress_run {δ : Type} [PeerDirectory δ BlePeerKey DiscoveredPeerHint]
    (runtime : BleRuntime δ) (turns : List LoopTurn) :
    (exec BleRuntime.step runtime turns).ingress =
      exec RuntimeIngress.step runtime.ingress (runtime.runSteps turns) := by
  induction turns generalizing runtime with
  | nil => rfl
  | cons next rest ih =>
      rw [exec_cons, ih, BleRuntime.runSteps, exec_append]
      rfl

/-- The mailbox holds one event. It is full when the connection of `peer` announces GATT, and is
drained before the same turn announces L2CAP. -/
def overtaking : List LoopTurn :=
  [⟨Scenario.discover ⟨"first"⟩ (Scenario.node 3), some fun _ => 0, fun _ => 0⟩,
    ⟨Scenario.connect ⟨"first"⟩ (Scenario.node 3) none, some fun _ => 0, fun _ => 0⟩,
    ⟨Scenario.discover ⟨"peer"⟩ (Scenario.node 2), some fun _ => 0, fun _ => 0⟩,
    ⟨Scenario.connect ⟨"peer"⟩ (Scenario.node 2) (some ⟨129⟩), some fun _ => 0,
      fun position => if position = 7 then 1 else 0⟩,
    ⟨⟨.retryDeferredControl, Scenario.silent⟩, some fun _ => 1, fun _ => 0⟩]

def crowded : BleRuntime PeerMap :=
  .launch .other (Scenario.node 1) { queue := { ingressCapacity := 1 } } {}

theorem control_event_overtaken :
    (exec RuntimeIngress.step (.new 1) (crowded.runSteps overtaking)).entered =
        [⟨0, rawBleLinkObservedEvent (Scenario.node 3) (gattEndpoint ⟨"first"⟩)⟩,
          ⟨2, rawBleLinkObservedEvent (Scenario.node 2) (l2capEndpoint ⟨"peer"⟩)⟩,
          ⟨1, rawBleLinkObservedEvent (Scenario.node 2) (gattEndpoint ⟨"peer"⟩)⟩] ∧
      ¬ OrderKept (exec RuntimeIngress.step (.new 1) (crowded.runSteps overtaking)) := by
  have entered : (exec RuntimeIngress.step (.new 1) (crowded.runSteps overtaking)).entered =
      [⟨0, rawBleLinkObservedEvent (Scenario.node 3) (gattEndpoint ⟨"first"⟩)⟩,
        ⟨2, rawBleLinkObservedEvent (Scenario.node 2) (l2capEndpoint ⟨"peer"⟩)⟩,
        ⟨1, rawBleLinkObservedEvent (Scenario.node 2) (gattEndpoint ⟨"peer"⟩)⟩] := by
    decide +kernel
  refine ⟨entered, ?_⟩
  unfold OrderKept
  rw [entered]
  simp

end JqBle.Proof.LinkProfile
