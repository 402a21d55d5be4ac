import JqBle.LinkProfile.Ingress

/-!
# Deferred control events over any mailbox (`task.rs`)

The mailbox of `jacquard_host_support` is a parameter: `emit` takes an event in or says that it did
not. The runtime's calls and the consumer's drains are steps of their own, and the loop of
`flush_deferred_control_ingress` is one step for each iteration, since a drain may fall between two
of them. Between its pop and its answer the event of an iteration is in a local of the loop; a drain
in between touches the mailbox alone, so it stands before the iteration.
-/

namespace JqBle.LinkProfile
open Host Library

/-- `entered` is history: the control events that have entered, drained or not. -/
class IngressMailbox (μ : Type) where
  new : Nat → μ
  entered : μ → List ControlEvent
  emitControl : μ → ControlEvent → μ × Bool
  emitPayload : μ → TransportIngressEvent → μ
  drain : μ → Nat → μ
  entered_new : ∀ capacity, entered (new capacity) = []
  entered_emitControl : ∀ mailbox control, entered (emitControl mailbox control).1 =
    if (emitControl mailbox control).2 then entered mailbox ++ [control] else entered mailbox
  entered_emitPayload : ∀ mailbox event, entered (emitPayload mailbox event) = entered mailbox
  entered_drain : ∀ mailbox count, entered (drain mailbox count) = entered mailbox

structure ControlIngress (μ : Type) where
  ingressTx : μ
  deferredControlIngress : List ControlEvent
  emitted : List ControlEvent

inductive ControlStep
  | emitControlEvent (event : TransportIngressEvent)
  | emitPayload (event : TransportIngressEvent)
  | flushIteration
  | drain (count : Nat)

namespace ControlIngress
variable {μ : Type} [IngressMailbox μ]

def new (ingressCapacity : Nat) : ControlIngress μ := ⟨IngressMailbox.new ingressCapacity, [], []⟩

def emitControlEvent (ingress : ControlIngress μ) (event : TransportIngressEvent) :
    ControlIngress μ :=
  let control : ControlEvent := ⟨ingress.emitted.length, event⟩
  let sent := IngressMailbox.emitControl ingress.ingressTx control
  { ingressTx := sent.1
    deferredControlIngress :=
      if sent.2 then ingress.deferredControlIngress
      else ingress.deferredControlIngress ++ [control]
    emitted := ingress.emitted ++ [control] }

def emitPayload (ingress : ControlIngress μ) (event : TransportIngressEvent) : ControlIngress μ :=
  { ingress with ingressTx := IngressMailbox.emitPayload ingress.ingressTx event }

def drain (ingress : ControlIngress μ) (count : Nat) : ControlIngress μ :=
  { ingress with ingressTx := IngressMailbox.drain ingress.ingressTx count }

-- A refused event goes back to the front and ends the loop, as an empty queue does.
def flushIteration (ingress : ControlIngress μ) : ControlIngress μ × Bool :=
  match ingress.deferredControlIngress with
  | [] => (ingress, false)
  | control :: rest =>
      let sent := IngressMailbox.emitControl ingress.ingressTx control
      if sent.2 then ({ ingress with ingressTx := sent.1, deferredControlIngress := rest }, true)
      else
        ({ ingress with ingressTx := sent.1, deferredControlIngress := control :: rest }, false)

-- `drained k` events are drained before iteration `k`; out of fuel there is no result.
def flushDeferredControlIngress (drained : Nat → Nat) :
    (fuel attempt : Nat) → ControlIngress μ → Option (ControlIngress μ)
  | 0, _, _ => none
  | fuel + 1, attempt, ingress =>
      let flushed := (ingress.drain (drained attempt)).flushIteration
      if flushed.2 then flushDeferredControlIngress drained fuel (attempt + 1) flushed.1
      else some flushed.1

def step (ingress : ControlIngress μ) : ControlStep → ControlIngress μ
  | .emitControlEvent event => ingress.emitControlEvent event
  | .emitPayload event => ingress.emitPayload event
  | .flushIteration => ingress.flushIteration.1
  | .drain count => ingress.drain count

end ControlIngress

/-! ## The bounded mailbox -/

structure BoundedMailbox where
  queue : BoundedQueue QueuedIngress
  entered : List ControlEvent

instance : IngressMailbox BoundedMailbox where
  new capacity := ⟨.empty capacity, []⟩
  entered := BoundedMailbox.entered
  emitControl mailbox control :=
    match mailbox.queue.push (.control control) with
    | some queue => (⟨queue, mailbox.entered ++ [control]⟩, true)
    | none => (mailbox, false)
  emitPayload mailbox event :=
    { mailbox with queue := (mailbox.queue.push (.payload event)).getD mailbox.queue }
  drain mailbox count := { mailbox with queue := mailbox.queue.drop count }
  entered_new _ := rfl
  entered_emitControl mailbox control := by
    cases mailbox.queue.push (.control control) <;> rfl
  entered_emitPayload _ _ := rfl
  entered_drain _ _ := rfl

end JqBle.LinkProfile
