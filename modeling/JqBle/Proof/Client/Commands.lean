import JqBle.Proof.Client.Rounds

/-!
# What handling a command comes to

A command is refused, or it is queued and the rest is the work of the bridge rounds. Every property of
the sends is a case split over these.
-/

namespace JqBle.Proof.Client
open Std Host Library JqBle.LinkProfile JqBle.NodeProfile JqBle.Client

variable {π : Type} {host : ClientHost} {task queued : ClientTask π}
  {answers : SendAnswers} {command : ClientCommand} {changed : Bool} {reply : ClientReply}

/-! ## Queueing -/

/-- The route in the cache is still active and takes the payload. -/
def ForwardsCached (task : ClientTask π) (answers : SendAnswers) (toNodeId : NodeId)
    (cached : CachedRoute) : Prop :=
  task.routeCache[toNodeId]? = some cached ∧
    (∃ route, answers.activeRoute cached.routeId = some route) ∧
    answers.forwardCached cached.routeId = .ok ()

def Activates (task : ClientTask π) (answers : SendAnswers) (toNodeId : NodeId)
    (route : MaterializedRoute) : Prop :=
  (∀ cached, ¬ ForwardsCached task answers toNodeId cached) ∧ answers.activateRoute = .ok route

theorem ForwardsCached.of_located {toNodeId : NodeId} {cached other : CachedRoute}
    (forwards : ForwardsCached task answers toNodeId other)
    (located : task.routeCache[toNodeId]? = some cached) : other = cached := by
  have found := forwards.1
  rw [located] at found
  exact (Option.some.inj found).symm

variable [HostTopologyProjector π]

def withRoute (task : ClientTask π) (route : MaterializedRoute) : ClientTask π :=
  { task with projector := (task.projector.ingestMaterializedRoute route).1 }

/-- The command is accepted by the outbound queue: the client then, whether its snapshot is another
one, and the reply that is due when the rounds succeed. -/
inductive Queues (host : ClientHost) (task : ClientTask π) (answers : SendAnswers) :
    ClientCommand → ClientTask π → Bool → ClientReply → Prop
  | cached (toNodeId : NodeId) (payload : List UInt8) (cached : CachedRoute)
      (sent : answers.sendTransport = .ok ())
      (forwards : ForwardsCached task answers toNodeId cached) :
      Queues host task answers (.send toNodeId payload)
        { task with
          outbound := task.outbound.push (some cached.command.nextHopNodeId)
            ⟨cached.command.intent, payload⟩ }
        false (.send (sendReceipt toNodeId cached.routeId cached.command))
  | activated (toNodeId : NodeId) (payload : List UInt8) (route : MaterializedRoute)
      (command : QueuedTransportCommand) (sent : answers.sendTransport = .ok ())
      (activates : Activates task answers toNodeId route)
      (forwards : answers.forwardActivated route.routeId = .ok ())
      (commands : (withRoute task route).commandForRoute host route = .ok command) :
      Queues host task answers (.send toNodeId payload)
        { withRoute task route with
          outbound := task.outbound.push (some command.nextHopNodeId) ⟨command.intent, payload⟩
          routeCache := task.routeCache.insert toNodeId ⟨route.routeId, command⟩ }
        (task.projector.ingestMaterializedRoute route).2
        (.send (sendReceipt toNodeId route.routeId command))
  | multicast (groupId : MulticastGroupId) (receivers : List NodeId) (payload : List UInt8)
      (support : TransportDeliverySupport) (intent : TransportDeliveryIntent)
      (sent : answers.sendTransport = .ok ())
      (supports : task.multicastAdmission.supportFor host.shapeMulticast task.localNodeId groupId
        receivers = .ok support)
      (admits : host.admittedDeliveryIntent groupId receivers support = .ok intent) :
      Queues host task answers (.sendMulticast groupId receivers payload)
        { task with outbound := task.outbound.push none ⟨intent, payload⟩ } false
        (.sendMulticast (multicastReceipt groupId receivers intent))

theorem Queues.pushed (queues : Queues host task answers command queued changed reply) :
    ∃ nextHopNodeId outbound, queued.outbound = task.outbound.push nextHopNodeId outbound := by
  cases queues <;> exact ⟨_, _, rfl⟩

theorem Queues.bridge (queues : Queues host task answers command queued changed reply) :
    queued.bridge = task.bridge := by
  cases queues <;> rfl

structure Refused (answers : SendAnswers) (command : ClientCommand) (task reached : ClientTask π) :
    Prop where
  localNodeId : reached.localNodeId = task.localNodeId
  bridge : reached.bridge = task.bridge
  outbound : reached.outbound = task.outbound
  topology : reached.topology = task.topology
  topologyUpdates : reached.topologyUpdates = task.topologyUpdates
  incoming : reached.incoming = task.incoming
  panicked : reached.panicked = task.panicked
  routerTopology : reached.routerTopology = task.routerTopology
  routeCache : ∀ (nodeId : NodeId) (cached : CachedRoute),
    reached.routeCache[nodeId]? = some cached → task.routeCache[nodeId]? = some cached
  projector : reached.projector = task.projector ∨
    ∃ toNodeId payload route, command = .send toNodeId payload ∧
      Activates task answers toNodeId route ∧ reached.projector = (withRoute task route).projector

/-! ## Handling -/

inductive Handled (host : ClientHost) (task : ClientTask π) (answers : SendAnswers)
    (command : ClientCommand) : ClientTask π → Except BleClientError ClientReply → Prop
  | refused (reached : ClientTask π) (error : BleClientError)
      (unqueued : ∀ queued changed reply,
        ¬ Queues host task answers command queued changed reply)
      (kept : Refused answers command task reached) :
      Handled host task answers command reached (.error error)
  | failed (queued reached : ClientTask π) (changed : Bool) (reply : ClientReply)
      (error : BleClientError) (queues : Queues host task answers command queued changed reply)
      (driven : queued.driveBridgeRound host answers.rounds = (reached, .error error)) :
      Handled host task answers command reached (.error error)
  | replied (queued reached : ClientTask π) (changed : Bool) (reply : ClientReply)
      (progress : BleBridgeProgress)
      (queues : Queues host task answers command queued changed reply)
      (driven : queued.driveBridgeRound host answers.rounds = (reached, .ok progress)) :
      Handled host task answers command
        (if changed then reached.publishTopology else reached) (.ok reply)

theorem handled_of_queues {reached : ClientTask π} {result : Except BleClientError ClientReply}
    (queues : Queues host task answers command queued changed reply)
    (concluded : (reached, result) = match queued.driveBridgeRound host answers.rounds with
      | (driven, .error error) => (driven, .error error)
      | (driven, .ok _) => (if changed then driven.publishTopology else driven, .ok reply)) :
    Handled host task answers command reached result := by
  generalize driven : queued.driveBridgeRound host answers.rounds = outcome at concluded
  obtain ⟨after, progress⟩ := outcome
  cases progress with
  | error error =>
      obtain ⟨rfl, rfl⟩ := Prod.mk.inj concluded
      exact .failed queued _ changed reply error queues driven
  | ok progress =>
      obtain ⟨rfl, rfl⟩ := Prod.mk.inj concluded
      exact .replied queued after changed reply progress queues driven

theorem refused_self : Refused answers command task task :=
  ⟨rfl, rfl, rfl, rfl, rfl, rfl, rfl, rfl, fun _ _ located => located, Or.inl rfl⟩

theorem handled_activateAndForward {toNodeId : NodeId} {payload : List UInt8}
    {cache : ExtTreeMap NodeId CachedRoute}
    (missed : ∀ cached, ¬ ForwardsCached task answers toNodeId cached)
    (kept : ∀ (nodeId : NodeId) (cached : CachedRoute), cache[nodeId]? = some cached →
      task.routeCache[nodeId]? = some cached)
    (inserted : ∀ cached, cache.insert toNodeId cached = task.routeCache.insert toNodeId cached) :
    let forwarded := ClientTask.activateAndForward host { task with routeCache := cache } toNodeId
      payload answers
    Handled host task answers (.send toNodeId payload) forwarded.1
      (forwarded.2.map ClientReply.send) := by
  have unqueued {queued : ClientTask π} {changed : Bool} {reply : ClientReply}
      (queues : Queues host task answers (.send toNodeId payload) queued changed reply) :
      answers.sendTransport = .ok () ∧ ∃ route command, answers.activateRoute = .ok route ∧
        answers.forwardActivated route.routeId = .ok () ∧
        (withRoute task route).commandForRoute host route = .ok command := by
    cases queues with
    | cached _ _ cached sent forwards => exact absurd forwards (missed cached)
    | activated _ _ route command sent activates forwards commands =>
        exact ⟨sent, route, command, activates.2, forwards, commands⟩
  simp only [ClientTask.activateAndForward]
  cases activated : answers.activateRoute with
  | error error =>
      refine .refused _ _ ?_ ⟨rfl, rfl, rfl, rfl, rfl, rfl, rfl, rfl, kept, Or.inl rfl⟩
      intro queued changed reply queues
      obtain ⟨-, route, command, other, -, -⟩ := unqueued queues
      simp [activated] at other
  | ok route =>
      have activates : Activates task answers toNodeId route := ⟨missed, activated⟩
      have only {other : MaterializedRoute} (also : answers.activateRoute = .ok other) :
          other = route := by simpa [activated] using also.symm
      have refused : Refused answers (.send toNodeId payload) task
          { withRoute task route with routeCache := cache } :=
        ⟨rfl, rfl, rfl, rfl, rfl, rfl, rfl, rfl, kept,
          Or.inr ⟨toNodeId, payload, route, rfl, activates, rfl⟩⟩
      have commandEq : ClientTask.commandForRoute host
          { withRoute task route with routeCache := cache } route =
            (withRoute task route).commandForRoute host route := rfl
      simp only
      cases forwarded : answers.forwardActivated route.routeId with
      | error error =>
          refine .refused _ _ ?_ refused
          intro queued changed reply queues
          obtain ⟨-, other, command, also, forwards, -⟩ := unqueued queues
          rw [only also, forwarded] at forwards
          cases forwards
      | ok _ =>
          simp only [withRoute] at commandEq ⊢
          rw [commandEq]
          cases commanded : (withRoute task route).commandForRoute host route with
          | error error =>
              rw [withRoute] at commanded
              simp only [commanded]
              refine .refused _ _ ?_ refused
              intro queued changed reply queues
              obtain ⟨-, other, command, also, -, commands⟩ := unqueued queues
              rw [only also, withRoute, commanded] at commands
              cases commands
          | ok command =>
              rw [withRoute] at commanded
              simp only [commanded, ClientTask.queueTransportCommand, ClientTask.sendTransportTo]
              cases sent : answers.sendTransport with
              | error error =>
                  refine .refused _ _ ?_ refused
                  intro queued changed reply queues
                  have sends := (unqueued queues).1
                  simp [sent] at sends
              | ok _ =>
                  refine handled_of_queues
                    (.activated toNodeId payload route command sent activates forwarded commanded) ?_
                  simp only [inserted, withRoute]
                  generalize ClientTask.driveBridgeRound host (_ : ClientTask π) answers.rounds =
                    outcome
                  obtain ⟨after, progress⟩ := outcome
                  cases progress <;> rfl

theorem handled_send (host : ClientHost) (task : ClientTask π) (toNodeId : NodeId)
    (payload : List UInt8) (answers : SendAnswers) :
    Handled host task answers (.send toNodeId payload)
      (task.handleSend host toNodeId payload answers).1
      ((task.handleSend host toNodeId payload answers).2.map ClientReply.send) := by
  unfold ClientTask.handleSend ClientTask.tryCachedForward
  cases located : task.routeCache[toNodeId]? with
  | none =>
      refine handled_activateAndForward ?_ (fun _ _ found => found) fun _ => rfl
      rintro cached ⟨found, -, -⟩
      simp [located] at found
  | some cached =>
      simp only
      cases active : answers.activeRoute cached.routeId with
      | none =>
          refine handled_activateAndForward ?_ (fun _ _ found => found) fun _ => rfl
          intro other forwards
          obtain ⟨route, also⟩ := forwards.2.1
          rw [forwards.of_located located, active] at also
          cases also
      | some route =>
          simp only
          cases forwarded : answers.forwardCached cached.routeId with
          | error error =>
              refine handled_activateAndForward ?_ ?_ (EntryMap.insert_erase task.routeCache toNodeId)
              · intro other forwards
                have also := forwards.2.2
                rw [forwards.of_located located, forwarded] at also
                cases also
              · intro nodeId other found
                rw [EntryMap.getElem?_erase] at found
                split at found
                · cases found
                · exact found
          | ok _ =>
              have forwards : ForwardsCached task answers toNodeId cached :=
                ⟨located, ⟨route, active⟩, forwarded⟩
              simp only [ClientTask.queueTransportCommand, ClientTask.sendTransportTo]
              cases sent : answers.sendTransport with
              | error error =>
                  refine .refused _ _ ?_ refused_self
                  intro queued changed reply queues
                  cases queues <;> simp_all
              | ok _ =>
                  apply handled_of_queues (.cached toNodeId payload cached sent forwards)
                  simp only
                  generalize ClientTask.driveBridgeRound host (_ : ClientTask π) answers.rounds =
                    outcome
                  obtain ⟨after, progress⟩ := outcome
                  cases progress <;> rfl

theorem handled_sendMulticast (host : ClientHost) (task : ClientTask π) (groupId : MulticastGroupId)
    (receivers : List NodeId) (payload : List UInt8) (answers : SendAnswers) :
    Handled host task answers (.sendMulticast groupId receivers payload)
      (task.handleSendMulticast host groupId receivers payload answers).1
      ((task.handleSendMulticast host groupId receivers payload answers).2.map
        ClientReply.sendMulticast) := by
  unfold ClientTask.handleSendMulticast
  cases supported : task.multicastAdmission.supportFor host.shapeMulticast task.localNodeId groupId
      receivers with
  | error rejection =>
      refine .refused _ _ ?_ refused_self
      intro queued changed reply queues
      cases queues
      simp_all
  | ok support =>
      simp only
      cases admitted : host.admittedDeliveryIntent groupId receivers support with
      | error rejection =>
          refine .refused _ _ ?_ refused_self
          intro queued changed reply queues
          cases queues
          simp_all
      | ok intent =>
          simp only [ClientTask.sendTransportTo]
          cases sent : answers.sendTransport with
          | error error =>
              refine .refused _ _ ?_ refused_self
              intro queued changed reply queues
              cases queues
              simp_all
          | ok _ =>
              refine handled_of_queues
                (.multicast groupId receivers payload support intent sent supported admitted) ?_
              simp only
              generalize ClientTask.driveBridgeRound host (_ : ClientTask π) answers.rounds =
                outcome
              obtain ⟨after, progress⟩ := outcome
              cases progress <;> rfl

theorem handled (host : ClientHost) (task : ClientTask π) (answers : SendAnswers)
    (command : ClientCommand) :
    Handled host task answers command (task.handleCommand host answers command).1
      (task.handleCommand host answers command).2 := by
  cases command with
  | send toNodeId payload => exact handled_send host task toNodeId payload answers
  | sendMulticast groupId receivers payload =>
      exact handled_sendMulticast host task groupId receivers payload answers

/-- A step does what handling the input does, or a panic leaves only what it has broadcast and handed
to the runtime. -/
theorem step_of_handle {P : ClientTask π → Prop} {input : ClientInput}
    (unwound : ∀ incoming outbound panicked,
      P { task with incoming := incoming, outbound := outbound, panicked := panicked })
    (handled : P (task.handle host input)) : P (task.step host input) := by
  unfold ClientTask.step ClientTask.settle
  split
  · exact unwound task.incoming task.outbound task.panicked
  · split
    · exact unwound _ _ _
    · exact handled

end JqBle.Proof.Client
