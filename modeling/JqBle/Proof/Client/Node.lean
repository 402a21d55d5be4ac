import JqBle.Client.Node
import JqBle.Proof.Client.Bridge
import JqBle.Proof.LinkProfile.Attribution
import JqBle.Proof.LinkProfile.Discovery
import JqBle.Proof.LinkProfile.Ingress

/-!
# Link events between the runtime and the bridge

The runtime never drops a control event. The bridge keeps as many events of a drain as it has room for
and looks at nothing else, so what the runtime has kept gets lost there exactly when the mailbox may
hold more.
-/

namespace JqBle.Proof.Client
open Std Host Library Execution JqBle.LinkProfile JqBle.Client JqBle.Proof.LinkProfile

/-! ## What the bridge discards -/

theorem stageDiscards_eq {κ : Type} [BleBridgeClock κ] (shape : CastShaping) (tick : Tick)
    (events : List TransportIngressEvent) (bridge : BleHostBridge κ) :
    BleHostBridge.stageDiscards shape tick bridge events =
      events.drop (bridge.inboundCapacity - bridge.pendingTransportObservations.length) := by
  induction events generalizing bridge with
  | nil => simp [BleHostBridge.stageDiscards]
  | cons event rest ih =>
      simp only [BleHostBridge.stageDiscards, ih]
      split
      · rename_i full
        rw [stageEvent_of_full shape full event, Nat.sub_eq_zero_of_le full]
        simp
      · rename_i room
        obtain ⟨clock, observation, staged⟩ : ∃ clock observation,
            bridge.stageEvent shape tick event = _ := stageEvent_of_room shape room event
        have less : bridge.inboundCapacity - bridge.pendingTransportObservations.length =
            (bridge.inboundCapacity - (bridge.pendingTransportObservations.length + 1)) + 1 := by
          omega
        rw [staged, less]
        simp

variable {δ : Type} {node : BleNode δ} {capacity : Nat}

/-- The mailbox has its capacity, and nothing is pending in the bridge between two rounds. -/
structure Joined (capacity : Nat) (node : BleNode δ) : Prop where
  mailbox : node.ingress.mailbox.capacity = capacity
  idle : Idle node.bridge
  inbound : node.bridge.inboundCapacity = inboundCapacityMax

theorem emitControl_capacity {ingress entered : RuntimeIngress} {control : ControlEvent}
    (accepted : ingress.emitControl control = some entered) :
    entered.mailbox.capacity = ingress.mailbox.capacity := by
  obtain ⟨mailbox, pushed, rfl⟩ := Option.map_eq_some_iff.mp accepted
  exact BoundedQueue.capacity_of_push pushed

theorem flushIteration_capacity (ingress : RuntimeIngress) :
    ingress.flushIteration.1.mailbox.capacity = ingress.mailbox.capacity := by
  unfold RuntimeIngress.flushIteration
  split
  · rfl
  · split
    · rename_i entered accepted
      exact (emitControl_capacity accepted :)
    · rfl

theorem emitPayload_capacity (ingress : RuntimeIngress) (event : TransportIngressEvent) :
    (ingress.emitPayload event).mailbox.capacity = ingress.mailbox.capacity := by
  unfold RuntimeIngress.emitPayload
  split
  · rename_i mailbox pushed
    exact BoundedQueue.capacity_of_push pushed
  · rfl

theorem Joined.ingressStep (joined : Joined capacity node) : Joined capacity node.ingressStep := by
  obtain ⟨mailbox, idle, inbound⟩ := joined
  unfold BleNode.ingressStep
  split
  · exact ⟨mailbox, idle, inbound⟩
  · exact ⟨(flushIteration_capacity _).trans mailbox, idle, inbound⟩
  · exact ⟨(capacity_emitControlEvent _ _).trans mailbox, idle, inbound⟩
  · exact ⟨(emitPayload_capacity _ _).trans mailbox, idle, inbound⟩

theorem Joined.roundStep (joined : Joined capacity node) (shape : CastShaping)
    (answers : BridgeAnswers BleRuntimeEffects) :
    Joined capacity (node.roundStep shape answers) ∧
      (node.roundStep shape answers).discarded = node.discarded ++
        (node.ingress.mailbox.items.map QueuedIngress.raw).drop inboundCapacityMax := by
  obtain ⟨mailbox, idle, inbound⟩ := joined
  refine ⟨⟨mailbox, idle.advanceRound shape _, ?_⟩, ?_⟩
  · have drained : ({ answers with
        drainRawIngress := .ok (node.ingress.mailbox.items.map QueuedIngress.raw) } :
        BridgeAnswers BleRuntimeEffects).drainRawIngress =
          .ok (node.ingress.mailbox.items.map QueuedIngress.raw) := rfl
    obtain ⟨-, -, same, -⟩ := advanceRound_of_drained shape idle drained
    exact same.trans inbound
  · simp only [BleNode.roundStep, stageDiscards_eq, idle.nothingPending, inbound]
    rfl

theorem joined_newWithConfig (task : BleRuntimeTask δ) :
    Joined task.config.queue.ingressCapacity (BleNode.newWithConfig task) :=
  ⟨rfl, ⟨rfl, Nat.zero_le _⟩, rfl⟩

theorem discarded_ingressStep (node : BleNode δ) : node.ingressStep.discarded = node.discarded := by
  unfold BleNode.ingressStep
  split <;> rfl

/-! ## Small mailboxes -/

variable [PeerDirectory δ BlePeerKey DiscoveredPeerHint]

theorem Joined.step (joined : Joined capacity node) (shape : CastShaping) (next : NodeStep) :
    Joined capacity (node.step shape next) := by
  cases next with
  | turn turn looped =>
      simp only [BleNode.step]
      split
      · exact ⟨joined.mailbox, joined.idle, joined.inbound⟩
      · exact joined
  | ingress => exact joined.ingressStep
  | round answers => exact (joined.roundStep shape answers).1

theorem nothing_discarded (task : BleRuntimeTask δ) (shape : CastShaping) (steps : List NodeStep)
    (small : task.config.queue.ingressCapacity ≤ inboundCapacityMax) :
    (exec (BleNode.step shape) (BleNode.newWithConfig task) steps).discarded = [] := by
  refine (exec_always (P := fun node => Joined task.config.queue.ingressCapacity node ∧
    node.discarded = []) ⟨joined_newWithConfig task, rfl⟩ ?_ steps).2
  rintro node next ⟨joined, kept⟩
  refine ⟨joined.step shape next, ?_⟩
  cases next with
  | turn turn looped =>
      simp only [BleNode.step]
      split <;> exact kept
  | ingress => exact (discarded_ingressStep node).trans kept
  | round answers =>
      have filled := node.ingress.mailbox.bounded
      rw [joined.mailbox] at filled
      simp only [BleNode.step]
      rw [(joined.roundStep shape answers).2, kept, List.nil_append]
      apply List.drop_of_length_le
      rw [List.length_map]
      exact Nat.le_trans filled small

/-! ## A burst of subscriptions -/

def LinkEvent : TransportIngressEvent → Prop
  | .linkObserved .. => True
  | .payloadReceived .. => False

/-- The runtime waits for its next event, and there is nothing but link events in the mailbox. -/
structure Crowded (count : Nat) (node : BleNode δ) : Prop where
  work : node.work = []
  deferred : node.ingress.deferredControlIngress = []
  filled : node.ingress.mailbox.items.length = count
  links : ∀ item ∈ node.ingress.mailbox.items, LinkEvent item.raw

/-- A turn of the select loop that emits at most one event. -/
def loopSteps (turn : Turn) : List NodeStep := [.turn turn true, .ingress] ++ [.ingress]

variable {count : Nat} {turn : Turn} (shape : CastShaping)

theorem Crowded.unlooped (crowded : Crowded count node)
    (silent : (node.task.step turn).outbox.filterMap ingressWork = []) :
    Crowded count (node.step shape (.turn turn false)) := by
  simp only [BleNode.step, crowded.work, if_true]
  exact ⟨silent, crowded.deferred, crowded.filled, crowded.links⟩

theorem Crowded.flushed (crowded : Crowded count node) :
    exec (BleNode.step shape) node [.turn turn true, .ingress] =
      { node with
        task := node.task.step turn
        work := (node.task.step turn).outbox.filterMap ingressWork } := by
  simp [BleNode.step, crowded.work, BleNode.turnStep, BleNode.ingressStep,
    RuntimeIngress.flushIteration, crowded.deferred]

theorem Crowded.silent (crowded : Crowded count node)
    (silent : (node.task.step turn).outbox.filterMap ingressWork = []) :
    Crowded count (exec (BleNode.step shape) node (loopSteps turn)) ∧
      (exec (BleNode.step shape) node (loopSteps turn)).task = node.task.step turn := by
  rw [loopSteps, exec_snoc, crowded.flushed shape, silent]
  exact ⟨⟨rfl, crowded.deferred, crowded.filled, crowded.links⟩, rfl⟩

theorem Crowded.emits {event : TransportIngressEvent} (crowded : Crowded count node)
    (emits : (node.task.step turn).outbox.filterMap ingressWork = [.emitControlEvent event])
    (link : LinkEvent event) (room : count < node.ingress.mailbox.capacity) :
    Crowded (count + 1) (exec (BleNode.step shape) node (loopSteps turn)) ∧
      (exec (BleNode.step shape) node (loopSteps turn)).task = node.task.step turn := by
  obtain ⟨work, deferred, filled, links⟩ := crowded
  rw [loopSteps, exec_snoc, Crowded.flushed shape ⟨work, deferred, filled, links⟩, emits]
  rw [← filled] at room
  have entered : (node.ingress.emitControlEvent event).mailbox.items =
        node.ingress.mailbox.items ++ [.control ⟨node.ingress.emitted, event⟩] ∧
      (node.ingress.emitControlEvent event).deferredControlIngress =
        node.ingress.deferredControlIngress := by
    simp [RuntimeIngress.emitControlEvent, RuntimeIngress.emitControl, BoundedQueue.push, room]
  refine ⟨⟨rfl, entered.2.trans deferred, ?_, ?_⟩, rfl⟩
  · simp only [BleNode.step, BleNode.ingressStep]
    rw [entered.1, List.length_append, filled]
    rfl
  · simp only [BleNode.step, BleNode.ingressStep]
    rw [entered.1]
    intro item member
    rcases List.mem_append.mp member with old | new
    · exact links item old
    · obtain rfl := List.mem_singleton.mp new
      exact link

/-! ## The turns of the burst -/

variable {task : BleRuntimeTask δ} {deviceId : DeviceId} {nodeId : NodeId}

def refused : Backend := { Scenario.silent with claimPending := true }

def Unresolved (task : BleRuntimeTask δ) : Prop :=
  ∀ deviceId, task.resolvedNodeIdForDevice deviceId = none

theorem ingressWork_of_quiet {effects : List Effect} (quiet : ∀ effect ∈ effects, Quiet effect) :
    effects.filterMap ingressWork = [] := by
  rw [List.filterMap_eq_nil_iff]
  intro effect member
  have silent := quiet effect member
  cases effect <;> first | rfl | cases silent

theorem Unresolved.restored (unresolved : Unresolved task) (device : BleDevice) :
    Unresolved (task.step ⟨.restoredDevice device, refused⟩) ∧
      (task.step ⟨.restoredDevice device, refused⟩).outbox.filterMap ingressWork = [] := by
  have unclaimed : refused.claims = false := rfl
  simp only [BleRuntimeTask.step, BleRuntimeTask.handle, BleRuntimeTask.handleRestoredDevice,
    BleRuntimeTask.handleDeviceDiscovered, unclaimed]
  split
  · split
    · exact ⟨unresolved, rfl⟩
    · refine ⟨?_, rfl⟩
      intro other
      refine Option.eq_none_iff_forall_ne_some.mpr fun nodeId resolved => ?_
      have earlier := resolved_of_upsertHint resolved
      rw [unresolved other] at earlier
      cases earlier
  · exact ⟨unresolved, rfl⟩

theorem Unresolved.startup (unresolved : Unresolved task) :
    Unresolved (task.step ⟨.startup, Scenario.silent⟩) ∧
      (task.step ⟨.startup, Scenario.silent⟩).outbox.filterMap ingressWork = [] := by
  have quiet := QuietStep.tryStartup { task with outbox := [] } Scenario.silent
  refine ⟨?_, ?_⟩
  · intro other
    have known := unresolved other
    simp only [BleRuntimeTask.resolvedNodeIdForDevice] at known ⊢
    rw [BleRuntimeTask.step, BleRuntimeTask.handle, quiet.peers]
    exact known
  · obtain ⟨effects, silent, appended⟩ := quiet.outbox
    rw [BleRuntimeTask.step, BleRuntimeTask.handle, appended]
    exact ingressWork_of_quiet silent

theorem radio_identity (deviceId : DeviceId) (nodeId : NodeId) :
    (Scenario.radio (fun _ => some nodeId) fun _ => none).resolveRemoteNodeId deviceId =
      .ok nodeId := by
  obtain ⟨⟨⟨bytes⟩, size⟩⟩ := nodeId
  simp only [Backend.resolveRemoteNodeId, Scenario.radio, if_true]
  exact dif_pos size

theorem Unresolved.discover (unresolved : Unresolved task) (deviceId : DeviceId) (nodeId : NodeId) :
    (∃ hint, PeerDirectory.identityState (task.step (Scenario.discover deviceId nodeId)).peers
        (BlePeerKey.ofDevice deviceId) = some (.hint hint) ∧
      hintMatchesNodeId hint.nodeIdPrefix nodeId = true) ∧
      (task.step (Scenario.discover deviceId nodeId)).outbox.filterMap ingressWork = [] := by
  obtain ⟨parsed, recorded⟩ := discoveredAs_advertisedHintService (δ := δ) nodeId
  refine ⟨recorded { task with outbox := [] } Scenario.silent
    ⟨deviceId, [discoveryServiceUuid nodeId]⟩ rfl (unresolved deviceId), ?_⟩
  have claimed : Scenario.silent.claims = true := rfl
  have hinted : parseDiscoveryHint [discoveryServiceUuid nodeId] = some (nodeIdPrefix nodeId) := parsed
  simp only [BleRuntimeTask.step, BleRuntimeTask.handle, Scenario.discover,
    BleRuntimeTask.handleCentralEvent, BleRuntimeTask.handleDeviceDiscovered, hinted, claimed,
    if_true]
  rfl

theorem connect_resolves {hint : DiscoveredPeerHint}
    (hinted : PeerDirectory.identityState task.peers (BlePeerKey.ofDevice deviceId) =
      some (.hint hint))
    (matched : hintMatchesNodeId hint.nodeIdPrefix nodeId = true) :
    (task.step (Scenario.connect deviceId nodeId none)).resolvedNodeIdForDevice deviceId =
        some nodeId ∧
      (task.step (Scenario.connect deviceId nodeId none)).outbox.filterMap ingressWork =
        [.emitControlEvent (rawBleLinkObservedEvent nodeId (gattEndpoint deviceId))] := by
  have identity := radio_identity deviceId nodeId
  have psm : (Scenario.radio (fun _ => some nodeId) fun _ => none).resolveRemotePsm deviceId =
      none := rfl
  simp only [BleRuntimeTask.step, BleRuntimeTask.handle, Scenario.connect,
    BleRuntimeTask.handleCentralEvent, BleRuntimeTask.handleDeviceConnected, identity,
    BleRuntimeTask.readFrom, BleRuntimeTask.perform, hinted, matched, if_true,
    BleRuntimeTask.installResolvedPeer, BleRuntimeTask.installGattSession,
    BleRuntimeTask.emitLinkObserved, BleRuntimeTask.emitControlEvent,
    BleRuntimeTask.tryUpgradeL2cap, psm]
  refine ⟨?_, rfl⟩
  simp [BleRuntimeTask.resolvedNodeIdForDevice]

theorem subscription_emits (resolved : task.resolvedNodeIdForDevice deviceId = some nodeId) :
    (task.step (Scenario.subscription deviceId true)).resolvedNodeIdForDevice deviceId =
        some nodeId ∧
      (task.step (Scenario.subscription deviceId true)).outbox.filterMap ingressWork =
        [.emitControlEvent (rawBleLinkObservedEvent nodeId gattNotifyFanoutEndpoint)] := by
  have known : BleRuntimeTask.resolvedNodeIdForDevice { task with outbox := [] } deviceId =
    some nodeId := resolved
  simp only [BleRuntimeTask.step, BleRuntimeTask.handle, Scenario.subscription,
    BleRuntimeTask.handlePeripheralStateEvent, if_true, BleRuntimeTask.handleP2cSubscription, known,
    BleRuntimeTask.emitControlEvent, BleRuntimeTask.perform]
  exact ⟨resolved, rfl⟩

theorem task_unlooped (work : node.work = []) :
    (node.step shape (.turn turn false)).task = node.task.step turn := by
  simp [BleNode.step, work, BleNode.turnStep]

def quietStart (restored : List BleDevice) : List NodeStep :=
  restored.map (fun device => .turn ⟨.restoredDevice device, refused⟩ false) ++
    [.turn ⟨.startup, Scenario.silent⟩ false]

theorem crowded_quietStart (restored : List BleDevice) (crowded : Crowded 0 node)
    (unresolved : Unresolved node.task) :
    Crowded 0 (exec (BleNode.step shape) node (quietStart restored)) ∧
      Unresolved (exec (BleNode.step shape) node (quietStart restored)).task := by
  induction restored generalizing node with
  | nil =>
      obtain ⟨unresolved, silent⟩ := unresolved.startup
      refine ⟨crowded.unlooped shape silent, ?_⟩
      rw [quietStart, List.map_nil, List.nil_append, exec_cons, exec_nil, task_unlooped shape crowded.work]
      exact unresolved
  | cons device rest ih =>
      obtain ⟨unresolved, silent⟩ := unresolved.restored device
      rw [← task_unlooped shape crowded.work] at unresolved
      exact ih (crowded.unlooped shape silent) unresolved

def burst (restored : List BleDevice) (count : Nat) : List NodeStep :=
  quietStart restored ++ loopSteps (Scenario.discover ⟨"peer"⟩ (Scenario.node 2)) ++
    loopSteps (Scenario.connect ⟨"peer"⟩ (Scenario.node 2) none) ++
    (List.replicate count (loopSteps (Scenario.subscription ⟨"peer"⟩ true))).flatten

theorem crowded_subscriptions (joined : Joined capacity node) (crowded : Crowded count node)
    (resolved : node.task.resolvedNodeIdForDevice deviceId = some nodeId) (more : Nat)
    (room : count + more ≤ capacity) :
    Crowded (count + more) (exec (BleNode.step shape) node
      (List.replicate more (loopSteps (Scenario.subscription deviceId true))).flatten) := by
  induction more generalizing count node with
  | zero => exact crowded
  | succ more ih =>
      obtain ⟨still, emits⟩ := subscription_emits resolved
      obtain ⟨crowded, task⟩ := crowded.emits shape emits trivial (by
        rw [joined.mailbox]
        omega)
      rw [← task] at still
      have after : Joined capacity (exec (BleNode.step shape) node
          (loopSteps (Scenario.subscription deviceId true))) :=
        exec_always joined (fun _ next joined => joined.step shape next) _
      rw [List.replicate_succ, List.flatten_cons, exec_append, ← Nat.add_assoc, Nat.add_right_comm]
      exact ih after crowded still (by omega)

theorem crowded_burst (restored : List BleDevice) (joined : Joined capacity node)
    (crowded : Crowded 0 node) (unresolved : Unresolved node.task) (more : Nat)
    (room : 1 + more ≤ capacity) :
    Crowded (1 + more) (exec (BleNode.step shape) node (burst restored more)) := by
  have kept {node : BleNode δ} (joined : Joined capacity node) (steps : List NodeStep) :
      Joined capacity (exec (BleNode.step shape) node steps) :=
    exec_always joined (fun _ next joined => joined.step shape next) steps
  obtain ⟨crowded, unresolved⟩ := crowded_quietStart shape restored crowded unresolved
  replace joined := kept joined (quietStart restored)
  rw [burst, exec_append, exec_append, exec_append]
  generalize exec (BleNode.step shape) node (quietStart restored) = node at *
  obtain ⟨⟨hint, hinted, matched⟩, silent⟩ :=
    unresolved.discover ⟨"peer"⟩ (Scenario.node 2)
  obtain ⟨crowded, task⟩ := crowded.silent shape silent
  rw [← task] at hinted
  replace joined := kept joined (loopSteps (Scenario.discover ⟨"peer"⟩ (Scenario.node 2)))
  generalize exec (BleNode.step shape) node _ = node at *
  obtain ⟨resolved, emits⟩ := connect_resolves hinted matched
  obtain ⟨crowded, task⟩ := crowded.emits shape emits trivial (by
    rw [joined.mailbox]
    omega)
  rw [← task] at resolved
  replace joined := kept joined (loopSteps (Scenario.connect ⟨"peer"⟩ (Scenario.node 2) none))
  exact crowded_subscriptions shape joined crowded resolved more room

theorem runOf_burst (restored : List BleDevice) (count : Nat)
    (answers : BridgeAnswers BleRuntimeEffects) :
    RunOf restored ((burst restored count ++ [NodeStep.round answers]).filterMap NodeStep.turn?) := by
  refine ⟨restored.map fun device => ⟨.restoredDevice device, refused⟩,
    ⟨.startup, Scenario.silent⟩ :: Scenario.discover ⟨"peer"⟩ (Scenario.node 2) ::
      Scenario.connect ⟨"peer"⟩ (Scenario.node 2) none ::
      List.replicate count (Scenario.subscription ⟨"peer"⟩ true), ?_, ?_, ?_⟩
  · have single (turn : Turn) : (loopSteps turn).filterMap NodeStep.turn? = [turn] := rfl
    have repeated (turn : Turn) : (List.replicate count (loopSteps turn)).flatten.filterMap
        NodeStep.turn? = List.replicate count turn := by
      induction count with
      | zero => rfl
      | succ count ih =>
          rw [List.replicate_succ, List.flatten_cons, List.filterMap_append, ih, single]
          rfl
    have rehydrated : (restored.map fun device =>
        NodeStep.turn ⟨.restoredDevice device, refused⟩ false).filterMap NodeStep.turn? =
          restored.map fun device => ⟨.restoredDevice device, refused⟩ := by
      simp [List.filterMap_map, Function.comp_def, NodeStep.turn?]
    simp only [burst, quietStart, List.filterMap_append, single, repeated, rehydrated]
    simp [NodeStep.turn?]
  · rw [List.map_map]
    exact List.prefix_rfl
  · intro turn member device
    simp only [List.mem_cons, List.mem_replicate] at member
    rcases member with rfl | rfl | rfl | ⟨-, rfl⟩ <;> rintro ⟨⟩

variable {targetOs : TargetOs} {localNodeId : NodeId} {config : BleConfig}
  {restoredState : BleRestoredState} {initial : BleRuntimeTask δ}

theorem burst_discarded
    (created : BleRuntimeTask.new targetOs localNodeId config restoredState = .ok initial)
    (large : inboundCapacityMax < config.queue.ingressCapacity) :
    ∃ event ∈ (exec (BleNode.step shape) (BleNode.newWithConfig initial)
      (burst restoredState.centralDevices inboundCapacityMax ++ [.round quietAnswers])).discarded,
      LinkEvent event := by
  obtain rfl := eq_launch_of_new created
  have joined := joined_newWithConfig
    (BleRuntimeTask.launch targetOs localNodeId config restoredState : BleRuntimeTask δ)
  have crowded : Crowded 0 (BleNode.newWithConfig
      (BleRuntimeTask.launch targetOs localNodeId config restoredState : BleRuntimeTask δ)) :=
    ⟨rfl, rfl, rfl, fun item member => nomatch member⟩
  have unresolved : Unresolved
      (BleRuntimeTask.launch targetOs localNodeId config restoredState : BleRuntimeTask δ) := by
    intro deviceId
    simp [BleRuntimeTask.resolvedNodeIdForDevice, BleRuntimeTask.launch]
  have room : 1 + inboundCapacityMax ≤ config.queue.ingressCapacity := by omega
  have full := crowded_burst shape restoredState.centralDevices joined crowded unresolved
    inboundCapacityMax room
  replace joined := exec_always joined (fun _ next joined => joined.step shape next)
    (burst restoredState.centralDevices inboundCapacityMax)
  rw [exec_snoc]
  generalize exec (BleNode.step shape) (_ : BleNode δ) _ = node at *
  simp only [BleNode.step]
  rw [(joined.roundStep shape quietAnswers).2]
  have last : inboundCapacityMax < node.ingress.mailbox.items.length := by
    rw [full.filled]
    omega
  refine ⟨node.ingress.mailbox.items[inboundCapacityMax].raw, ?_,
    full.links _ (List.getElem_mem last)⟩
  apply List.mem_append_right
  rw [← List.map_drop, List.drop_eq_getElem_cons last]
  exact List.mem_cons_self

/-- No run of the runtime and the bridge loses a link event to the back-pressure of the bridge exactly
when the mailbox holds no more events than the bridge. -/
theorem links_survive_iff
    (created : BleRuntimeTask.new targetOs localNodeId config restoredState = .ok initial) :
    (∀ steps : List NodeStep,
        RunOf restoredState.centralDevices (steps.filterMap NodeStep.turn?) →
        ∀ event ∈ (exec (BleNode.step shape) (BleNode.newWithConfig initial) steps).discarded,
          ¬ LinkEvent event) ↔
      config.queue.ingressCapacity ≤ inboundCapacityMax := by
  constructor
  · intro survive
    by_contra large
    obtain ⟨event, discarded, link⟩ := burst_discarded shape created (Nat.not_le.mp large)
    exact survive _ (runOf_burst _ _ _) event discarded link
  · intro small steps run event discarded
    obtain rfl := eq_launch_of_new created
    rw [nothing_discarded _ shape steps small] at discarded
    cases discarded

theorem default_config_keeps_links :
    BleRuntimeTask.new .other (Scenario.node 1) {} {} = .ok (Scenario.launched .other) ∧
      ∀ steps : List NodeStep, RunOf [] (steps.filterMap NodeStep.turn?) →
        ∀ event ∈ (exec (BleNode.step Scenario.shaping)
          (BleNode.newWithConfig (Scenario.launched .other)) steps).discarded, ¬ LinkEvent event :=
  ⟨rfl, (links_survive_iff Scenario.shaping (Scenario.new_launched .other)).mpr (by decide)⟩

theorem link_event_discarded :
    let config : BleConfig := { queue := { ingressCapacity := 1025 } }
    let restoredState : BleRestoredState := {}
    let initial : BleRuntimeTask PeerMap := .launch .other (Scenario.node 1) config restoredState
    let steps := burst restoredState.centralDevices inboundCapacityMax ++ [.round quietAnswers]
    BleRuntimeTask.new .other (Scenario.node 1) config restoredState = .ok initial ∧
      RunOf restoredState.centralDevices (steps.filterMap NodeStep.turn?) ∧
      ∃ event ∈ (exec (BleNode.step Scenario.shaping) (BleNode.newWithConfig initial)
        steps).discarded, LinkEvent event := by
  intro config restoredState initial steps
  have created : BleRuntimeTask.new .other (Scenario.node 1) config restoredState = .ok initial := rfl
  have large : inboundCapacityMax < config.queue.ingressCapacity := by decide
  refine ⟨created, runOf_burst _ _ _, ?_⟩
  exact burst_discarded Scenario.shaping created large

end JqBle.Proof.Client
