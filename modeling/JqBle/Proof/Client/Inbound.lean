import JqBle.Client.Inbound
import JqBle.Library.History
import JqBle.Proof.Client.Incoming
import JqBle.Proof.Client.Node

/-!
# A subscriber hears what the runtime has heard

From the effects of the runtime to the stream of a subscriber there is one queue after the other, and a
failing round, a full mailbox, a lagging receiver or a panic only leaves payloads out.
-/

namespace JqBle.Proof.Client
open Std Host Library Execution JqBle.LinkProfile JqBle.Client JqBle.Proof.LinkProfile

/-! ## A round -/

def observedPayload : TransportObservation → Option (NodeId × List UInt8)
  | .payloadReceived fromNodeId endpoint payload _ =>
      clientPayload (.payloadReceived fromNodeId endpoint payload)
  | .linkObserved .. => none

theorem incomingPayloads_observed (observations : List TransportObservation) :
    (incomingPayloads observations).1.Sublist (observations.filterMap observedPayload) ∧
      ((incomingPayloads observations).2 = false →
        (incomingPayloads observations).1 = observations.filterMap observedPayload) := by
  induction observations using incomingPayloads.induct with
  | case1 => exact ⟨List.Sublist.refl _, fun _ => rfl⟩
  | case2 remoteNodeId observation rest ih =>
      simpa only [incomingPayloads, List.filterMap_cons, observedPayload] using ih
  | case3 fromNodeId endpoint payload tick rest panic decodes =>
      simp [incomingPayloads, decodes]
  | case4 fromNodeId endpoint payload tick rest decodes ih =>
      simpa only [incomingPayloads, decodes, List.filterMap_cons, observedPayload, clientPayload]
        using ih
  | case5 fromNodeId endpoint payload tick rest unframed decodes ih =>
      simp only [incomingPayloads, decodes, List.filterMap_cons, observedPayload, clientPayload]
      exact ⟨ih.1.cons_cons _, fun calm => congrArg _ (ih.2 calm)⟩

def stagedPayload (staged : StagedObservation) : Option (NodeId × List UInt8) :=
  observedPayload staged.observation

section Rounds
variable {κ : Type} [BleBridgeClock κ] (shape : CastShaping)

theorem observedPayload_observed (bridge : BleHostBridge κ) (event : TransportIngressEvent)
    (tick : Tick) :
    observedPayload (bridge.observeTransportIngress shape event tick).1 = clientPayload event := by
  cases event with
  | payloadReceived fromNodeId endpoint payload => rfl
  | linkObserved nodeId link sourceClass evidenceClass origin =>
      simp only [BleHostBridge.observeTransportIngress, linkObservationFromBleEvent]
      split
      · rfl
      · rfl

theorem stageEvent_payload {bridge : BleHostBridge κ} {tick : Tick}
    (room : ¬ bridge.inboundCapacity ≤ bridge.pendingTransportObservations.length)
    (event : TransportIngressEvent) :
    ∃ staged, (bridge.stageEvent shape tick event).pendingTransportObservations =
        bridge.pendingTransportObservations ++ [staged] ∧
      (bridge.stageEvent shape tick event).inboundCapacity = bridge.inboundCapacity ∧
      stagedPayload staged = clientPayload event := by
  have observed := observedPayload_observed shape { bridge with arrived := bridge.arrived + 1 } event tick
  unfold BleHostBridge.stageEvent
  simp only [if_neg room]
  cases event with
  | payloadReceived => exact ⟨_, rfl, rfl, observed⟩
  | linkObserved => exact ⟨_, rfl, rfl, observed⟩

theorem payloads_staged (tick : Tick) (events : List TransportIngressEvent)
    (bridge : BleHostBridge κ) :
    (events.foldl (BleHostBridge.stageEvent shape tick) bridge
        ).pendingTransportObservations.filterMap stagedPayload =
      bridge.pendingTransportObservations.filterMap stagedPayload ++
        (events.take (bridge.inboundCapacity - bridge.pendingTransportObservations.length)).filterMap
          clientPayload := by
  induction events generalizing bridge with
  | nil => simp
  | cons event rest ih =>
      rw [List.foldl_cons, ih]
      by_cases full : bridge.inboundCapacity ≤ bridge.pendingTransportObservations.length
      · rw [stageEvent_of_full shape full]
        simp [Nat.sub_eq_zero_of_le full]
      · obtain ⟨staged, pending, capacity, payload⟩ := stageEvent_payload shape full event
        have less : bridge.inboundCapacity - bridge.pendingTransportObservations.length =
            (bridge.inboundCapacity - (bridge.pendingTransportObservations.length + 1)) + 1 := by
          omega
        rw [pending, capacity, less]
        simp only [List.filterMap_append, List.length_append, List.length_singleton,
          List.take_succ_cons, List.append_assoc]
        cases received : clientPayload event with
        | none => simp [payload, received]
        | some item => simp [payload, received]

end Rounds

/-- What a round publishes: the payloads of the events that the bridge keeps, up to a panic, if the
router and the flush serve the round, and nothing else. -/
theorem published_cases {δ : Type} {node : BleNode δ} (idle : Idle node.bridge) (shape : CastShaping)
    (answers : BridgeAnswers BleRuntimeEffects) :
    (node.roundResult shape answers).isOk = true ∧ (∃ observations,
        node.published shape answers = incomingPayloads observations ∧
        observations.filterMap observedPayload = ((node.ingress.mailbox.items.map QueuedIngress.raw).take
          node.bridge.inboundCapacity).filterMap clientPayload ∧
        ∀ fromNodeId endpoint payload tick,
          .payloadReceived fromNodeId endpoint payload tick ∈ observations →
          .payloadReceived fromNodeId endpoint payload ∈
            node.ingress.mailbox.items.map QueuedIngress.raw) ∨
      (node.roundResult shape answers).isOk = false ∧ node.published shape answers = ([], false) := by
  have drained : (node.drainedAnswers answers).drainRawIngress =
    .ok (node.ingress.mailbox.items.map QueuedIngress.raw) := rfl
  let staged := stagedBridge shape node.bridge (node.drainedAnswers answers)
    (node.ingress.mailbox.items.map QueuedIngress.raw)
  let observations := staged.pendingTransportObservations.map StagedObservation.observation
  have payloads : observations.filterMap observedPayload =
      ((node.ingress.mailbox.items.map QueuedIngress.raw).take
        node.bridge.inboundCapacity).filterMap clientPayload := by
    have moved := payloads_staged shape
      (BleBridgeClock.advanceTick (answers.sharedClock node.bridge.clock)).1
      (node.ingress.mailbox.items.map QueuedIngress.raw)
      { node.bridge with
        clock := (BleBridgeClock.advanceTick (answers.sharedClock node.bridge.clock)).2 }
    rw [idle.nothingPending] at moved
    rw [List.filterMap_map]
    exact moved
  have received : ∀ fromNodeId endpoint payload tick,
      .payloadReceived fromNodeId endpoint payload tick ∈ observations →
      .payloadReceived fromNodeId endpoint payload ∈
        node.ingress.mailbox.items.map QueuedIngress.raw := by
    intro fromNodeId endpoint payload tick member
    obtain ⟨reported, pending, equal⟩ := List.mem_map.mp member
    rcases (observedOf_staged shape _ _ _).2 reported pending with old | ⟨event, raw, observes⟩
    · simp [idle.nothingPending] at old
    · rw [equal] at observes
      exact payload_of_observed observes ▸ raw
  rcases advanceRound_driven shape node.bridge drained with
    ⟨error, failed, -⟩ | ⟨progress, outcome, flushed, succeeded, -, returned⟩
  · right
    have result : node.roundResult shape answers = .error error := congrArg Prod.snd failed
    exact ⟨by rw [result]; rfl, by rw [BleNode.published, result]⟩
  · left
    have result : node.roundResult shape answers = .ok progress := congrArg Prod.snd succeeded
    refine ⟨by rw [result]; rfl, observations, ?_, payloads, received⟩
    rw [BleNode.published, result]
    rcases returned with ⟨state, rfl, none, -⟩ | rfl
    · have empty : observations = [] := by
        have pending : staged.pendingTransportObservations = [] := none
        simp only [observations, pending, List.map_nil]
      rw [empty]
      rfl
    · rfl

/-! ## Control events -/

section Controls
variable {δ : Type} {node : BleNode δ}

theorem linkEvent_raw (nodeId : NodeId) (endpoint : LinkEndpoint) (state : LinkRuntimeState) :
    LinkEvent (rawBleLinkEvent nodeId endpoint state) := trivial

theorem linkEvent_of_emitControl [PeerDirectory δ BlePeerKey DiscoveredPeerHint]
    (task : BleRuntimeTask δ) (turn : Turn) :
    ∀ event, .emitControl event ∈ (task.step turn).outbox → LinkEvent event := by
  apply step_induction (P := fun reached => ∀ event, .emitControl event ∈ reached.outbox →
    LinkEvent event)
  · intro event member
    cases member
  · intro before after change earlier event member
    obtain ⟨effects, outbox, sources⟩ := effects_change change
    rw [outbox] at member
    rcases List.mem_append.mp member with old | new
    · exact earlier event old
    · cases sources _ new with
      | quiet quiet => cases quiet
      | gatt | l2cap | subscribed | unsubscribed => exact linkEvent_raw ..
      | closed channelId announced =>
          obtain ⟨nodeId, session, same⟩ := observed_of_mem_closeAnnouncement announced
          obtain rfl := Effect.emitControl.inj same
          exact linkEvent_raw ..
      | faulted deviceId cause event fault =>
          obtain ⟨nodeId, endpoint, same⟩ := faulted_of_mem_disconnectFaults fault
          obtain rfl := Effect.emitControl.inj same
          exact linkEvent_raw ..

end Controls

theorem payloads_of_link {event : TransportIngressEvent} (link : LinkEvent event) :
    clientPayload event = none := by
  cases event with
  | payloadReceived => cases link
  | linkObserved => rfl

def queuedPayloads (ingress : RuntimeIngress) : List (NodeId × List UInt8) :=
  ingress.mailbox.items.filterMap fun item => clientPayload item.raw

/-- Nothing but link events goes by way of the control class. -/
structure LinksOnly (ingress : RuntimeIngress) : Prop where
  deferred : ∀ control ∈ ingress.deferredControlIngress, LinkEvent control.event
  queued : ∀ control, .control control ∈ ingress.mailbox.items → LinkEvent control.event

namespace LinksOnly
variable {ingress entered : RuntimeIngress}

theorem emitControl (links : LinksOnly ingress) {control : ControlEvent}
    (link : LinkEvent control.event) (accepted : ingress.emitControl control = some entered) :
    LinksOnly entered ∧ queuedPayloads entered = queuedPayloads ingress := by
  obtain ⟨mailbox, pushed, rfl⟩ := Option.map_eq_some_iff.mp accepted
  have items := BoundedQueue.items_of_push pushed
  refine ⟨⟨links.deferred, ?_⟩, ?_⟩
  · intro other member
    rw [items] at member
    rcases List.mem_append.mp member with old | new
    · exact links.queued other old
    · obtain rfl := QueuedIngress.control.inj (List.mem_singleton.mp new)
      exact link
  · unfold queuedPayloads
    rw [items, List.filterMap_append]
    simp [QueuedIngress.raw, payloads_of_link link]

theorem emitControlEvent (links : LinksOnly ingress) {event : TransportIngressEvent}
    (link : LinkEvent event) :
    LinksOnly (ingress.emitControlEvent event) ∧
      queuedPayloads (ingress.emitControlEvent event) = queuedPayloads ingress := by
  have counted : LinksOnly { ingress with emitted := ingress.emitted + 1 } :=
    ⟨links.deferred, links.queued⟩
  unfold RuntimeIngress.emitControlEvent
  dsimp only
  split
  · rename_i entered accepted
    exact counted.emitControl link accepted
  · refine ⟨⟨?_, links.queued⟩, rfl⟩
    intro control member
    rcases List.mem_append.mp member with old | new
    · exact links.deferred control old
    · rw [List.mem_singleton.mp new]
      exact link

theorem flushIteration (links : LinksOnly ingress) :
    LinksOnly ingress.flushIteration.1 ∧
      queuedPayloads ingress.flushIteration.1 = queuedPayloads ingress := by
  unfold RuntimeIngress.flushIteration
  split
  · exact ⟨links, rfl⟩
  · rename_i control rest waiting
    split
    · rename_i entered accepted
      have link : LinkEvent control.event := links.deferred control (by simp [waiting])
      obtain ⟨queued, same⟩ := links.emitControl link accepted
      refine ⟨⟨?_, queued.queued⟩, same⟩
      intro other member
      exact links.deferred other (by simp [waiting, member])
    · exact ⟨links, rfl⟩

theorem emitPayload (links : LinksOnly ingress) (event : TransportIngressEvent) :
    LinksOnly (ingress.emitPayload event) ∧
      ((ingress.mailbox.isFull = true ∧
        queuedPayloads (ingress.emitPayload event) = queuedPayloads ingress) ∨
      (ingress.mailbox.isFull = false ∧ queuedPayloads (ingress.emitPayload event) =
        queuedPayloads ingress ++ (clientPayload event).toList)) := by
  unfold RuntimeIngress.emitPayload
  split
  · rename_i mailbox pushed
    have items := BoundedQueue.items_of_push pushed
    have room : ingress.mailbox.isFull = false := by
      have accepted : ingress.mailbox.push (.payload event) ≠ none := by simp [pushed]
      rwa [ne_eq, BoundedQueue.push_eq_none, Bool.not_eq_true] at accepted
    refine ⟨⟨links.deferred, ?_⟩, Or.inr ⟨room, ?_⟩⟩
    · intro control member
      rw [items] at member
      rcases List.mem_append.mp member with old | new
      · exact links.queued control old
      · cases List.mem_singleton.mp new
    · unfold queuedPayloads
      rw [items, List.filterMap_append]
      cases received : clientPayload event with
      | none => simp [QueuedIngress.raw, received]
      | some item => simp [QueuedIngress.raw, received]
  · rename_i refused
    exact ⟨links, Or.inl ⟨BoundedQueue.push_eq_none.mp refused, rfl⟩⟩

theorem drained (links : LinksOnly ingress) :
    LinksOnly (ingress.drain ingress.mailbox.items.length) ∧
      queuedPayloads (ingress.drain ingress.mailbox.items.length) = [] := by
  have empty : (ingress.drain ingress.mailbox.items.length).mailbox.items = [] := by
    simp [RuntimeIngress.drain, BoundedQueue.drop]
  refine ⟨⟨links.deferred, ?_⟩, ?_⟩
  · intro control member
    rw [empty] at member
    cases member
  · unfold queuedPayloads
    rw [empty]
    rfl

end LinksOnly

/-! ## A step of the node -/

section Node
variable {δ : Type} {node : BleNode δ}

structure ControlsAreLinks (node : BleNode δ) : Prop where
  work : ∀ event, .emitControlEvent event ∈ node.work → LinkEvent event
  ingress : LinksOnly node.ingress

def nodePayloads (node : BleNode δ) : List (NodeId × List UInt8) :=
  queuedPayloads node.ingress ++ node.work.filterMap InboundPath.workPayload

def TakesPayload (node : BleNode δ) : Prop :=
  ∀ event rest, node.work = .emitPayload event :: rest → node.ingress.mailbox.isFull = false

theorem ControlsAreLinks.ingressStep (links : ControlsAreLinks node) :
    ControlsAreLinks node.ingressStep ∧
      (nodePayloads node.ingressStep).Sublist (nodePayloads node) ∧
      (TakesPayload node → nodePayloads node.ingressStep = nodePayloads node) := by
  have same {reached : BleNode δ} (equal : nodePayloads reached = nodePayloads node) :
      (nodePayloads reached).Sublist (nodePayloads node) ∧
        (TakesPayload node → nodePayloads reached = nodePayloads node) := by
    rw [equal]
    exact ⟨List.Sublist.refl _, fun _ => rfl⟩
  unfold BleNode.ingressStep
  split
  · exact ⟨links, same rfl⟩
  · rename_i rest working
    obtain ⟨flushed, payloads⟩ := links.ingress.flushIteration
    refine ⟨⟨?_, flushed⟩, same ?_⟩
    · intro event member
      apply links.work
      dsimp only at member
      split at member
      · exact member
      · simp [working, member]
    · unfold nodePayloads
      rw [payloads]
      dsimp only
      split
      · rfl
      · rw [working]
        rfl
  · rename_i event rest working
    obtain ⟨entered, payloads⟩ := links.ingress.emitControlEvent
      (links.work event (by simp [working]))
    refine ⟨⟨?_, entered⟩, same ?_⟩
    · intro other member
      exact links.work other (by simp [working, member])
    · unfold nodePayloads
      rw [payloads, working]
      rfl
  · rename_i event rest working
    obtain ⟨entered, payloads⟩ := links.ingress.emitPayload event
    have moved : nodePayloads node = queuedPayloads node.ingress ++ ((clientPayload event).toList ++
        rest.filterMap InboundPath.workPayload) := by
      unfold nodePayloads
      rw [working]
      cases received : clientPayload event with
      | none => simp [InboundPath.workPayload, received]
      | some item => simp [InboundPath.workPayload, received]
    refine ⟨⟨?_, entered⟩, ?_⟩
    · intro other member
      exact links.work other (by simp [working, member])
    · rw [moved]
      unfold nodePayloads
      rcases payloads with ⟨full, payloads⟩ | ⟨room, payloads⟩
      · rw [payloads]
        refine ⟨(List.sublist_append_right ..).append_left _, ?_⟩
        intro takes
        rw [takes event rest working] at full
        cases full
      · rw [payloads, List.append_assoc]
        exact ⟨List.Sublist.refl _, fun _ => rfl⟩

variable [PeerDirectory δ BlePeerKey DiscoveredPeerHint]

theorem workPayload_ingressWork (effects : List Effect) :
    (effects.filterMap ingressWork).filterMap InboundPath.workPayload =
      effects.filterMap InboundPath.emittedPayload := by
  rw [List.filterMap_filterMap]
  congr 1
  funext effect
  cases effect <;> rfl

theorem ControlsAreLinks.turnStep (links : ControlsAreLinks node) (idle : node.work = [])
    (turn : Turn) (looped : Bool) :
    ControlsAreLinks (node.turnStep turn looped) ∧ nodePayloads (node.turnStep turn looped) =
      nodePayloads node ++ (node.task.step turn).outbox.filterMap InboundPath.emittedPayload := by
  refine ⟨⟨?_, links.ingress⟩, ?_⟩
  · intro event member
    rcases List.mem_append.mp member with flush | emitted
    · cases looped with
      | true => cases List.mem_singleton.mp flush
      | false => cases flush
    · obtain ⟨effect, performed, work⟩ := List.mem_filterMap.mp emitted
      cases effect <;> cases work
      exact linkEvent_of_emitControl node.task turn event performed
  · unfold nodePayloads BleNode.turnStep
    dsimp only
    rw [idle, List.filterMap_append, workPayload_ingressWork]
    cases looped with
    | true => simp [InboundPath.workPayload]
    | false => simp

end Node

/-! ## The whole path -/

section Path
variable {δ : Type} [PeerDirectory δ BlePeerKey DiscoveredPeerHint] {path : InboundPath δ}
  {capacity : Nat}

def MailboxSliceable (node : BleNode δ) : Prop :=
  ∀ fromNodeId endpoint payload,
    .payloadReceived fromNodeId endpoint payload ∈ node.ingress.mailbox.items.map QueuedIngress.raw →
      clientPayloadMagic.length ≤ payload.length

/-- The step leaves no payload out: the mailbox has room for one that is emitted, and a round succeeds
with all of the events, none of them too short to slice, and comes to a subscriber that has room for
its payloads. -/
def LeavesNothingOut (shape : CastShaping) (path : InboundPath δ) : InboundStep → Prop
  | .node .ingress => TakesPayload path.node
  | .node (.round answers) =>
      (path.node.roundResult shape answers).isOk = true ∧
        path.node.ingress.mailbox.items.length ≤ path.node.bridge.inboundCapacity ∧
        MailboxSliceable path.node ∧
        ∃ received, path.subscriber = some received ∧
          received.length + (path.node.published shape answers).1.length ≤ incomingCapacity
  | .node (.turn ..) | .subscribe | .poll => True

structure Open (capacity : Nat) (path : InboundPath δ) : Prop where
  links : ControlsAreLinks path.node
  joined : Joined capacity path.node

omit [PeerDirectory δ BlePeerKey DiscoveredPeerHint] in
theorem held_eq (path : InboundPath δ) :
    path.held = path.subscriber.getD [] ++ nodePayloads path.node := by
  unfold InboundPath.held nodePayloads queuedPayloads
  rw [List.append_assoc]

theorem Open.step (opened : Open capacity path) (shape : CastShaping) (input : InboundStep) :
    Open capacity (path.step shape input) := by
  cases input with
  | node next =>
      have joined := opened.joined.step shape next
      cases next with
      | turn turn looped =>
          refine ⟨?_, joined⟩
          simp only [InboundPath.step, BleNode.step]
          split
          · rename_i idle
            exact (opened.links.turnStep idle turn looped).1
          · exact opened.links
      | ingress => exact ⟨opened.links.ingressStep.1, joined⟩
      | round answers =>
          simp only [InboundPath.step]
          split
          · exact opened
          · exact ⟨⟨opened.links.work, opened.links.ingress.drained.1⟩, joined⟩
  | subscribe => exact ⟨opened.links, opened.joined⟩
  | poll => exact ⟨opened.links, opened.joined⟩

theorem receive_sublist (received published : List (NodeId × List UInt8)) :
    (InboundPath.receive received published).Sublist (received ++ published) :=
  List.drop_sublist ..

theorem receive_of_room {received published : List (NodeId × List UInt8)}
    (room : received.length + published.length ≤ incomingCapacity) :
    InboundPath.receive received published = received ++ published := by
  have none : (received ++ published).length - incomingCapacity = 0 := by
    rw [List.length_append]
    omega
  simp only [InboundPath.receive, none, List.drop_zero]

/-- A round takes the queued payloads to the subscriber, or leaves some of them out. -/
theorem round_moves (opened : Open capacity path) (shape : CastShaping)
    (answers : BridgeAnswers BleRuntimeEffects) :
    (path.step shape (.node (.round answers))).held.Sublist path.held ∧
      (LeavesNothingOut shape path (.node (.round answers)) →
        path.held = (path.step shape (.node (.round answers))).held) := by
  by_cases dead : path.panicked = true
  · have same : path.step shape (.node (.round answers)) = path := if_pos dead
    rw [same]
    exact ⟨List.Sublist.refl _, fun _ => rfl⟩
  have drained := opened.links.ingress.drained.2
  have after : (path.step shape (.node (.round answers))).held =
      (path.subscriber.map fun received =>
        InboundPath.receive received (path.node.published shape answers).1).getD [] ++
        path.node.work.filterMap InboundPath.workPayload := by
    rw [held_eq, InboundPath.step, if_neg dead]
    unfold nodePayloads
    show _ ++ (queuedPayloads (path.node.ingress.drain path.node.ingress.mailbox.items.length) ++
      path.node.work.filterMap InboundPath.workPayload) = _
    rw [drained]
    rfl
  have queued : queuedPayloads path.node.ingress =
      (path.node.ingress.mailbox.items.map QueuedIngress.raw).filterMap clientPayload := by
    rw [List.filterMap_map]
    rfl
  have fewer : (path.node.published shape answers).1.Sublist (queuedPayloads path.node.ingress) := by
    rw [queued]
    rcases published_cases opened.joined.idle shape answers with
      ⟨-, observations, published, payloads, -⟩ | ⟨-, published⟩
    · rw [published]
      exact (incomingPayloads_observed observations).1.trans
        (payloads ▸ (List.take_sublist ..).filterMap _)
    · rw [published]
      exact List.nil_sublist _
  rw [after, held_eq, nodePayloads, ← List.append_assoc]
  constructor
  · apply List.Sublist.append_right
    cases path.subscriber with
    | none => exact List.nil_sublist _
    | some received => exact (receive_sublist ..).trans (fewer.append_left received)
  · rintro ⟨succeeds, few, sliceable, received, subscribed, room⟩
    rcases published_cases opened.joined.idle shape answers with
      ⟨-, observations, published, payloads, own⟩ | ⟨failed, -⟩
    · have calm : (incomingPayloads observations).2 = false := by
        refine Bool.eq_false_iff.mpr fun panics => ?_
        obtain ⟨fromNodeId, endpoint, payload, tick, member, short⟩ := short_of_incomingPayloads panics
        have long := sliceable fromNodeId endpoint payload (own fromNodeId endpoint payload tick member)
        exact absurd short (Nat.not_lt.mpr long)
      have all : (path.node.published shape answers).1 = queuedPayloads path.node.ingress := by
        rw [published, (incomingPayloads_observed observations).2 calm, payloads,
          List.take_of_length_le (by simpa using few), queued]
      rw [subscribed]
      simp only [Option.map_some, Option.getD_some]
      rw [receive_of_room room, all]
    · rw [failed] at succeeds
      cases succeeds

theorem inbound_moves (opened : Open capacity path) (shape : CastShaping) (input : InboundStep) :
    (path.yielded input ++ (path.step shape input).held).Sublist (path.held ++ path.heard input) ∧
      (LeavesNothingOut shape path input →
        path.held ++ path.heard input = path.yielded input ++ (path.step shape input).held) := by
  cases input with
  | node next =>
      cases next with
      | turn turn looped =>
          simp only [InboundPath.step, BleNode.step, InboundPath.heard, InboundPath.yielded]
          split
          · rename_i idle
            have moved := (opened.links.turnStep idle turn looped).2
            rw [held_eq, held_eq, List.nil_append]
            dsimp only
            rw [moved, List.append_assoc]
            exact ⟨List.Sublist.refl _, fun _ => rfl⟩
          · simp
      | ingress =>
          obtain ⟨-, fewer, same⟩ := opened.links.ingressStep
          simp only [InboundPath.heard, InboundPath.yielded, List.append_nil, List.nil_append]
          rw [held_eq, held_eq]
          refine ⟨fewer.append_left _, ?_⟩
          intro takes
          exact congrArg (path.subscriber.getD [] ++ ·) (same takes).symm
      | round answers =>
          simp only [InboundPath.heard, InboundPath.yielded, List.append_nil, List.nil_append]
          exact round_moves opened shape answers
  | subscribe =>
      have same : (path.step shape .subscribe).held = path.held := rfl
      simp [InboundPath.heard, InboundPath.yielded, same]
  | poll =>
      have moved : path.yielded .poll ++ (path.step shape .poll).held = path.held := by
        rw [held_eq, held_eq]
        cases subscribed : path.subscriber with
        | none => simp [InboundPath.yielded, InboundPath.step, subscribed]
        | some received =>
            cases received with
            | nil => simp [InboundPath.yielded, InboundPath.step, subscribed]
            | cons item rest => simp [InboundPath.yielded, InboundPath.step, subscribed]
      rw [moved]
      simp [InboundPath.heard]

/-- In every run a subscriber of the client gets the application payloads that the runtime emits in
their order and none twice, whatever is left out on the way; and when no step leaves one out, it has
got all of them but those that are still on the way. -/
theorem subscriber_hears_in_order (task : BleRuntimeTask δ) (shape : CastShaping)
    (inputs : List InboundStep) :
    let start := InboundPath.newWithConfig task
    let heard := history (InboundPath.step shape) InboundPath.heard start inputs
    let yielded := history (InboundPath.step shape) InboundPath.yielded start inputs
    let held := (exec (InboundPath.step shape) start inputs).held
    (yielded ++ held).Sublist heard ∧
      (Meets (InboundPath.step shape) (LeavesNothingOut shape) start inputs →
        heard = yielded ++ held) := by
  intro start heard yielded held
  have opened : Open task.config.queue.ingressCapacity start := by
    refine ⟨⟨?_, ⟨?_, ?_⟩⟩, joined_newWithConfig task⟩
    · intro event member
      cases member
    · intro control member
      cases member
    · intro control member
      cases member
  constructor
  · exact history_sublist InboundPath.held opened (fun _ input opened => opened.step shape input)
      (fun _ input opened => (inbound_moves opened shape input).1) inputs
  · intro meets
    exact history_fifo_of_meets InboundPath.held opened
      (fun _ input opened => opened.step shape input)
      (fun _ input opened lossless => (inbound_moves opened shape input).2 lossless) meets

end Path

end JqBle.Proof.Client
