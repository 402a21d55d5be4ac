import JqBle.Client.Bridge
import JqBle.Client.Multicast
import JqBle.Client.Projector

/-!
# The client task (`client.rs`, `framing.rs`)

A command or a bridge round of the loop is handled with the answers that the router, the outbound
queue and the runtime give while it runs. The outbound queue numbers what is queued in it and keeps
what was handed to the runtime, and `routerTopology` is the configuration that the router was given
last. These are history and no decision reads them.

Slicing a payload that is too short panics the thread. The functions keep that in `panicked` and compute
on; `settle` leaves only what the thread has broadcast and handed over by then.
-/

namespace JqBle.Client
open Std Host JqBle.LinkProfile NodeProfile

/-! ## Framing -/

def clientPayloadMagic : List UInt8 := "JQCLIENT".toUTF8.toList

def encodeClientPayload (payload : List UInt8) : List UInt8 := clientPayloadMagic ++ payload

inductive ClientPanic
  | sliceStartOutOfRange
deriving DecidableEq, Repr

-- `then_some` evaluates its argument, so the payload is sliced with or without the magic.
def decodeClientPayload (payload : List UInt8) : Except ClientPanic (Option (List UInt8)) :=
  if payload.length < clientPayloadMagic.length then .error .sliceStartOutOfRange
  else if clientPayloadMagic.isPrefixOf payload then
    .ok (some (payload.drop clientPayloadMagic.length))
  else .ok none

/-! ## Commands, receipts and errors -/

inductive JacquardBleSendStage
  | queuedForTransport
deriving DecidableEq, Repr

structure JacquardBleSendReceipt where
  destinationNodeId : NodeId
  routeId : RouteId
  nextHopNodeId : NodeId
  deliveryMode : TransportDeliveryMode
  endpoint : LinkEndpoint
  stage : JacquardBleSendStage
deriving DecidableEq, Repr

structure JacquardBleMulticastReceipt where
  groupId : MulticastGroupId
  receivers : List NodeId
  deliveryMode : TransportDeliveryMode
  endpoint : LinkEndpoint
  stage : JacquardBleSendStage
deriving DecidableEq, Repr

inductive BleClientError
  | link (source : BleLinkError)
  | route (source : RouteError)
  | bridge (source : BleBridgeError)
  | transport (source : TransportError)
  | deliveryAdmission (source : RouteAdmissionRejection)
  | runtimeStart (code : Nat)
  | runtimeStopped
  | runtimePanicked
deriving DecidableEq, Repr

def noRouteCandidate : BleClientError := .route (.selection .noCandidate)

inductive ClientCommand
  | send (toNodeId : NodeId) (payload : List UInt8)
  | sendMulticast (groupId : MulticastGroupId) (receivers : List NodeId) (payload : List UInt8)
deriving DecidableEq, Repr

inductive ClientReply
  | send (receipt : JacquardBleSendReceipt)
  | sendMulticast (receipt : JacquardBleMulticastReceipt)
deriving DecidableEq, Repr

structure QueuedTransportCommand where
  nextHopNodeId : NodeId
  intent : TransportDeliveryIntent
deriving DecidableEq, Repr

structure CachedRoute where
  routeId : RouteId
  command : QueuedTransportCommand
deriving DecidableEq, Repr

def sendReceipt (destinationNodeId : NodeId) (routeId : RouteId) (queued : QueuedTransportCommand) :
    JacquardBleSendReceipt where
  destinationNodeId := destinationNodeId
  routeId := routeId
  nextHopNodeId := queued.nextHopNodeId
  deliveryMode := queued.intent.mode
  endpoint := queued.intent.endpoint
  stage := .queuedForTransport

def multicastReceipt (groupId : MulticastGroupId) (receivers : List NodeId)
    (intent : TransportDeliveryIntent) : JacquardBleMulticastReceipt where
  groupId := groupId
  receivers := receivers
  deliveryMode := intent.mode
  endpoint := intent.endpoint
  stage := .queuedForTransport

/-! ## The outbound queue -/

structure OutboundEntry where
  number : Nat
  nextHopNodeId : Option NodeId
  command : BleOutboundCommand
deriving DecidableEq, Repr

structure OutboundQueue where
  queued : Nat
  pending : List OutboundEntry
  dispatched : List OutboundEntry
  numbered : ∀ entry ∈ pending ++ dispatched, entry.number < queued

namespace OutboundQueue

def empty : OutboundQueue := ⟨0, [], [], by simp⟩

def push (queue : OutboundQueue) (nextHopNodeId : Option NodeId) (command : BleOutboundCommand) :
    OutboundQueue where
  queued := queue.queued + 1
  pending := queue.pending ++ [⟨queue.queued, nextHopNodeId, command⟩]
  dispatched := queue.dispatched
  numbered entry member := by
    have old := queue.numbered entry
    simp only [List.mem_append, List.mem_singleton] at member old
    rcases member with (pending | rfl) | dispatched
    · exact Nat.lt_succ_of_lt (old (Or.inl pending))
    · exact Nat.lt_succ_self _
    · exact Nat.lt_succ_of_lt (old (Or.inr dispatched))

-- The batch leaves the queue; it reaches the runtime unless the dispatch fails.
def flush (queue : OutboundQueue) (dispatch : Except TransportError Unit) : OutboundQueue where
  queued := queue.queued
  pending := []
  dispatched := match dispatch with
    | .ok () => queue.dispatched ++ queue.pending
    | .error _ => queue.dispatched
  numbered entry member := by
    have old := queue.numbered entry
    simp only [List.mem_append] at old
    cases dispatch with
    | ok _ =>
        simp only [List.nil_append, List.mem_append] at member
        exact old member.symm
    | error error => exact old (Or.inr member)

end OutboundQueue

/-! ## The task -/

structure ClientHost where
  shape : CastShaping
  shapeMulticast : MulticastShaping
  preset : NodePreset
  selectedNeighborFromBackendRouteId : BackendRouteId → Option NodeId
  admittedDeliveryIntent : MulticastGroupId → List NodeId → TransportDeliverySupport →
    Except RouteAdmissionRejection TransportDeliveryIntent

structure ClientTask (π : Type) where
  localNodeId : NodeId
  bridge : BleHostBridge BleRuntimeEffects
  outbound : OutboundQueue
  incoming : List (NodeId × List UInt8)
  topology : MeshTopology
  topologyUpdates : List MeshTopology
  projector : TopologyProjector π
  multicastAdmission : MulticastAdmission
  routeCache : ExtTreeMap NodeId CachedRoute
  routerTopology : Observation Configuration
  panicked : Bool

/-- What the router and the transport answer during a round of the bridge. -/
structure ClientRound where
  sharedClock : BleRuntimeEffects → BleRuntimeEffects
  notifierSnapshot : Nat
  drainRawIngress : Except TransportError (List TransportIngressEvent)
  ingestTransportObservation : Nat → Except RouteError Unit
  advanceRound : Except RouteError RouterRoundOutcome
  dispatch : Except TransportError Unit

-- `flush_outbound` hands the whole batch to the runtime, and nothing to do is not a dispatch.
def ClientRound.answers (round : ClientRound) (pending : Nat) :
    BridgeAnswers BleRuntimeEffects where
  sharedClock := round.sharedClock
  notifierSnapshot := round.notifierSnapshot
  drainRawIngress := round.drainRawIngress
  ingestTransportObservation := round.ingestTransportObservation
  advanceRound := round.advanceRound
  flushOutbound := if pending = 0 then .ok 0 else round.dispatch.map fun () => pending
  pendingOutbound := 0

structure ClientRounds where
  first : ClientRound
  followUp : ClientRound

structure SendAnswers where
  activeRoute : RouteId → Option MaterializedRoute
  forwardCached : RouteId → Except RouteError Unit
  activateRoute : Except RouteError MaterializedRoute
  forwardActivated : RouteId → Except RouteError Unit
  sendTransport : Except TransportError Unit
  rounds : ClientRounds

/-- What is broadcast for the observations, and whether one of them panics on the way. -/
def incomingPayloads : List TransportObservation → List (NodeId × List UInt8) × Bool
  | [] => ([], false)
  | .linkObserved .. :: rest => incomingPayloads rest
  | .payloadReceived fromNodeId _ payload _ :: rest =>
      match decodeClientPayload payload with
      | .error _ => ([], true)
      | .ok none => incomingPayloads rest
      | .ok (some payload) =>
          let later := incomingPayloads rest
          ((fromNodeId, payload) :: later.1, later.2)

namespace ClientTask
variable {π : Type} [HostTopologyProjector π]

def spawn (localNodeId : NodeId) (topology : Observation Configuration)
    (engineCapabilities : List Nat) : ClientTask π where
  localNodeId := localNodeId
  bridge := .withClock localNodeId (.new topology.observedAtTick) {}
  outbound := .empty
  incoming := []
  topology := (TopologyProjector.new localNodeId topology : TopologyProjector π).snapshot
  topologyUpdates := []
  projector := engineCapabilities.foldl
    (fun projector capabilities => (projector.ingestEngineCapabilities capabilities).1)
    (.new localNodeId topology)
  multicastAdmission := {}
  routeCache := ∅
  routerTopology := topology
  panicked := false

def publishTopology (task : ClientTask π) : ClientTask π :=
  { task with
    topology := task.projector.snapshot
    topologyUpdates := task.topologyUpdates ++ [task.projector.snapshot] }

/-! ## Bridge rounds -/

def ingestObservation (host : ClientHost) (ingesting : ClientTask π × Bool)
    (observation : TransportObservation) : ClientTask π × Bool :=
  let task := { ingesting.1 with
    multicastAdmission := ingesting.1.multicastAdmission.ingestTransportObservation observation }
  if isMulticastFanoutObservation observation then (task, ingesting.2)
  else
    let projected := task.projector.ingestTransportObservation host.preset observation
    ({ task with projector := projected.1 }, ingesting.2 || projected.2)

-- Nothing is broadcast after a panic; what else is computed after it, `settle` leaves out.
def publishIncoming (task : ClientTask π) (observations : List TransportObservation) :
    ClientTask π :=
  let payloads := incomingPayloads observations
  { task with
    incoming := if task.panicked then task.incoming else task.incoming ++ payloads.1
    panicked := task.panicked || payloads.2 }

def applyBridgeReport (host : ClientHost) (task : ClientTask π) (report : BleBridgeRoundReport) :
    ClientTask π × Bool :=
  let observations := report.ingestedTransportObservations.map StagedObservation.observation
  let (task, changed) := observations.foldl (ingestObservation host) (task, false)
  let task := task.publishIncoming observations
  let task := if changed then { task with routerTopology := task.projector.topology } else task
  let projected := task.projector.ingestRoundOutcome report.routerOutcome
  ({ task with projector := projected.1 }, changed || projected.2)

def applyBridgeProgress (host : ClientHost) (task : ClientTask π) :
    BleBridgeProgress → ClientTask π × Bool
  | .advanced report => task.applyBridgeReport host report
  | .waiting _ => (task, false)

/-- The observations that the round hands to the router, once the transport was drained. -/
def staged (host : ClientHost) (task : ClientTask π) (round : ClientRound) :
    Except TransportError (List StagedObservation) :=
  let answers := round.answers task.outbound.pending.length
  let tick := BleBridgeClock.advanceTick (answers.sharedClock task.bridge.clock)
  (BleHostBridge.stageTransportIngress host.shape { task.bridge with clock := tick.2 } answers
    tick.1).map BleHostBridge.pendingTransportObservations

/-- The round comes as far as the flush of the outbound queue. -/
def reachesFlush (host : ClientHost) (task : ClientTask π) (round : ClientRound) : Bool :=
  match task.staged host round with
  | .error _ => false
  | .ok observations =>
      ((round.answers task.outbound.pending.length).ingestLoop 0 observations).2.isOk &&
        round.advanceRound.isOk

def advanceRound (host : ClientHost) (task : ClientTask π) (round : ClientRound) :
    ClientTask π × Except BleBridgeError BleBridgeProgress :=
  let driven := task.bridge.advanceRound host.shape
    (round.answers task.outbound.pending.length)
  ({ task with
      bridge := driven.1
      outbound :=
        if task.reachesFlush host round then task.outbound.flush round.dispatch
        else task.outbound }, driven.2)

def runsFollowUp : BleBridgeProgress → Bool
  | .advanced report => report.routerOutcome.nextRoundHint = .immediate
  | .waiting _ => false

def driveBridgeRound (host : ClientHost) (task : ClientTask π) (rounds : ClientRounds) :
    ClientTask π × Except BleClientError BleBridgeProgress :=
  match task.advanceRound host rounds.first with
  | (task, .error error) => (task, .error (.bridge error))
  | (task, .ok progress) =>
      let (task, changed) := task.applyBridgeProgress host progress
      if runsFollowUp progress then
        match task.advanceRound host rounds.followUp with
        | (task, .error error) => (task, .error (.bridge error))
        | (task, .ok followUp) =>
            let (task, again) := task.applyBridgeProgress host followUp
            (if changed || again then task.publishTopology else task, .ok followUp)
      else (if changed then task.publishTopology else task, .ok progress)

/-! ## Sending -/

def commandForRoute (host : ClientHost) (task : ClientTask π) (route : MaterializedRoute) :
    Except BleClientError QueuedTransportCommand :=
  match host.selectedNeighborFromBackendRouteId route.backendRouteId with
  | none => .error noRouteCandidate
  | some nextHopNodeId =>
      match task.projector.snapshot.edge task.localNodeId nextHopNodeId with
      | none => .error noRouteCandidate
      | some edge => .ok ⟨nextHopNodeId, .unicast edge.observation.value.endpoint⟩

def sendTransportTo (task : ClientTask π) (nextHopNodeId : Option NodeId)
    (intent : TransportDeliveryIntent) (payload : List UInt8) (sent : Except TransportError Unit) :
    ClientTask π × Except BleClientError Unit :=
  match sent with
  | .error error => (task, .error (.transport error))
  | .ok () =>
      ({ task with outbound := task.outbound.push nextHopNodeId ⟨intent, payload⟩ }, .ok ())

def queueTransportCommand (task : ClientTask π) (queued : QueuedTransportCommand)
    (payload : List UInt8) (sent : Except TransportError Unit) :
    ClientTask π × Except BleClientError Unit :=
  task.sendTransportTo (some queued.nextHopNodeId) queued.intent payload sent

def tryCachedForward (host : ClientHost) (task : ClientTask π) (toNodeId : NodeId)
    (payload : List UInt8) (answers : SendAnswers) :
    ClientTask π × Option (Except BleClientError JacquardBleSendReceipt) :=
  match task.routeCache[toNodeId]? with
  | none => (task, none)
  | some cached =>
      match answers.activeRoute cached.routeId with
      | none => (task, none)
      | some _ =>
          match answers.forwardCached cached.routeId with
          | .error _ => ({ task with routeCache := task.routeCache.erase toNodeId }, none)
          | .ok () =>
              match task.queueTransportCommand cached.command payload answers.sendTransport with
              | (task, .error error) => (task, some (.error error))
              | (task, .ok ()) =>
                  let (task, driven) := task.driveBridgeRound host answers.rounds
                  (task,
                    some (driven.map fun _ => sendReceipt toNodeId cached.routeId cached.command))

def activateAndForward (host : ClientHost) (task : ClientTask π) (toNodeId : NodeId)
    (payload : List UInt8) (answers : SendAnswers) :
    ClientTask π × Except BleClientError JacquardBleSendReceipt :=
  match answers.activateRoute with
  | .error error => (task, .error (.route error))
  | .ok route =>
      let (projector, topologyChanged) := task.projector.ingestMaterializedRoute route
      let task := { task with projector := projector }
      match answers.forwardActivated route.routeId with
      | .error error => (task, .error (.route error))
      | .ok () =>
          match task.commandForRoute host route with
          | .error error => (task, .error error)
          | .ok queued =>
              match task.queueTransportCommand queued payload answers.sendTransport with
              | (task, .error error) => (task, .error error)
              | (task, .ok ()) =>
                  let task := { task with
                    routeCache := task.routeCache.insert toNodeId ⟨route.routeId, queued⟩ }
                  match task.driveBridgeRound host answers.rounds with
                  | (task, .error error) => (task, .error error)
                  | (task, .ok _) =>
                      (if topologyChanged then task.publishTopology else task,
                        .ok (sendReceipt toNodeId route.routeId queued))

def handleSend (host : ClientHost) (task : ClientTask π) (toNodeId : NodeId) (payload : List UInt8)
    (answers : SendAnswers) : ClientTask π × Except BleClientError JacquardBleSendReceipt :=
  match task.tryCachedForward host toNodeId payload answers with
  | (task, some result) => (task, result)
  | (task, none) => task.activateAndForward host toNodeId payload answers

def handleSendMulticast (host : ClientHost) (task : ClientTask π) (groupId : MulticastGroupId)
    (receivers : List NodeId) (payload : List UInt8) (answers : SendAnswers) :
    ClientTask π × Except BleClientError JacquardBleMulticastReceipt :=
  match task.multicastAdmission.supportFor host.shapeMulticast task.localNodeId groupId
      receivers with
  | .error rejection => (task, .error (.deliveryAdmission rejection))
  | .ok support =>
      match host.admittedDeliveryIntent groupId receivers support with
      | .error rejection => (task, .error (.deliveryAdmission rejection))
      | .ok intent =>
          match task.sendTransportTo none intent payload answers.sendTransport with
          | (task, .error error) => (task, .error error)
          | (task, .ok ()) =>
              match task.driveBridgeRound host answers.rounds with
              | (task, .error error) => (task, .error error)
              | (task, .ok _) => (task, .ok (multicastReceipt groupId receivers intent))

def handleCommand (host : ClientHost) (task : ClientTask π) (answers : SendAnswers) :
    ClientCommand → ClientTask π × Except BleClientError ClientReply
  | .send toNodeId payload =>
      let (task, result) := task.handleSend host toNodeId payload answers
      (task, result.map .send)
  | .sendMulticast groupId receivers payload =>
      let (task, result) := task.handleSendMulticast host groupId receivers payload answers
      (task, result.map .sendMulticast)

end ClientTask

/-! ## The loop -/

inductive ClientInput
  | command (command : ClientCommand) (answers : SendAnswers)
  | bridgeRound (rounds : ClientRounds)

namespace ClientTask
variable {π : Type}

/-- What is left of the task after a step: if the thread has unwound out of it, what it had broadcast
and handed to the runtime before. -/
def settle (task after : ClientTask π) : ClientTask π :=
  if after.panicked then
    { task with incoming := after.incoming, outbound := after.outbound, panicked := true }
  else after

variable [HostTopologyProjector π]

def handle (host : ClientHost) (task : ClientTask π) : ClientInput → ClientTask π
  | .command command answers => (task.handleCommand host answers command).1
  | .bridgeRound rounds => (task.driveBridgeRound host rounds).1

def step (host : ClientHost) (task : ClientTask π) (input : ClientInput) : ClientTask π :=
  if task.panicked then task else task.settle (task.handle host input)

/-- What a caller of `send` gets: a panic closes its reply channel. -/
def sendReply (host : ClientHost) (task : ClientTask π) (toNodeId : NodeId) (payload : List UInt8)
    (answers : SendAnswers) : Except BleClientError JacquardBleSendReceipt :=
  if (task.step host (.command (.send toNodeId payload) answers)).panicked then
    .error .runtimeStopped
  else (task.handleSend host toNodeId payload answers).2

end ClientTask

end JqBle.Client
