import JqBle.Proof.Client.Incoming
import JqBle.Proof.Client.Receipts
import JqBle.Demo.Service

/-!
# Relayed frames

Every payload on its way through the network is the client frame of an application frame that some
service has sent: in the command channels, in the outbound queues and with the runtimes, in the
receivers of the pumps and in the relays. A pump surfaces only frames for its own node.
-/

namespace JqBle.Proof.Demo
open Std Host Library Execution JqBle.LinkProfile JqBle.NodeProfile JqBle.Client JqBle.Demo
  JqBle.Proof.Client

/-! ## Application frames -/

theorem copyFromSlice_toList (nodeId : NodeId) : copyFromSlice nodeId.bytes.toList = nodeId := by
  obtain ⟨bytes⟩ := nodeId
  apply congrArg NodeId.mk
  apply Vector.ext
  intro index bound
  simp [List.getD_eq_getElem?_getD]

theorem decode_encodeApplicationFrame (fromNodeId destinationNodeId : NodeId)
    (payload : List UInt8) :
    decodeApplicationFrame (encodeApplicationFrame fromNodeId destinationNodeId payload) =
      some ⟨fromNodeId, destinationNodeId, payload⟩ := by
  have sized (nodeId : NodeId) : nodeId.bytes.toList.length = 32 := by simp
  have long : ¬ ((encodeApplicationFrame fromNodeId destinationNodeId payload).length <
        applicationFrameMagic.length + 32 + 32 ∨
      ¬ applicationFrameMagic.isPrefixOf
        (encodeApplicationFrame fromNodeId destinationNodeId payload) = true) := by
    simp only [encodeApplicationFrame, List.length_append, sized, not_or, not_not]
    constructor
    · omega
    · simp
  have afterMagic : (encodeApplicationFrame fromNodeId destinationNodeId payload).drop
      applicationFrameMagic.length =
        fromNodeId.bytes.toList ++ (destinationNodeId.bytes.toList ++ payload) :=
    List.drop_left
  have afterSender : (encodeApplicationFrame fromNodeId destinationNodeId payload).drop
      (applicationFrameMagic.length + 32) = destinationNodeId.bytes.toList ++ payload := by
    rw [← List.drop_drop, afterMagic, List.drop_left' (sized fromNodeId)]
  have afterHeader : (encodeApplicationFrame fromNodeId destinationNodeId payload).drop
      (applicationFrameMagic.length + 32 + 32) = payload := by
    rw [← List.drop_drop, afterSender, List.drop_left' (sized destinationNodeId)]
  unfold decodeApplicationFrame
  simp only [if_neg long, afterMagic, afterSender, afterHeader, List.take_left' (sized _),
    copyFromSlice_toList]

/-! ## What a client does in a step -/

section Client
variable {π : Type} {host : ClientHost} {task reached : ClientTask π} {answers : SendAnswers}

/-- What has changed in a client between two commands: its bridge is idle again, what it has queued
since is one of the payloads, and what it has published since is from the rounds. -/
structure Grown (payloads : List UInt8 → Prop) (among : ClientRound → Prop)
    (task reached : ClientTask π) : Prop where
  localNodeId : reached.localNodeId = task.localNodeId
  idle : Idle reached.bridge
  outbound : ∀ entry ∈ reached.outbound.pending ++ reached.outbound.dispatched,
    entry ∈ task.outbound.pending ++ task.outbound.dispatched ∨ payloads entry.command.payload
  published : PublishedOf among task reached

variable [HostTopologyProjector π]

theorem outbound_step (host : ClientHost) (task : ClientTask π) (input : ClientInput) :
    (task.step host input).outbound = task.outbound ∨
      (task.step host input).outbound = (task.handle host input).outbound := by
  unfold ClientTask.step ClientTask.settle
  split
  · exact Or.inl rfl
  · split
    · exact Or.inr rfl
    · exact Or.inr rfl

theorem Grown.of_handle {payloads : List UInt8 → Prop} (idle : Idle task.bridge)
    (input : ClientInput)
    (queued : ∀ entry ∈ (task.handle host input).outbound.pending ++
      (task.handle host input).outbound.dispatched,
      entry ∈ task.outbound.pending ++ task.outbound.dispatched ∨ payloads entry.command.payload) :
    Grown payloads (DrivenBy host task input) task (task.step host input) := by
  obtain ⟨next, published⟩ := publishedOf_step host idle input
  refine ⟨(step_settings host task input).1, next, ?_, published⟩
  rcases outbound_step host task input with same | same
  · rw [same]
    exact fun entry member => Or.inl member
  · rw [same]
    exact queued

theorem grown_round (host : ClientHost) (idle : Idle task.bridge) (rounds : ClientRounds) :
    Grown (fun _ => False) (DrivenBy host task (.bridgeRound rounds)) task
      (task.step host (.bridgeRound rounds)) :=
  .of_handle idle (.bridgeRound rounds) fun _ member =>
    Or.inl (driveBridgeRound_outbound_subset host task rounds member)

theorem grown_send (host : ClientHost) (idle : Idle task.bridge) (toNodeId : NodeId)
    (payload : List UInt8) (answers : SendAnswers) :
    Grown (fun bytes => bytes = payload)
      (DrivenBy host task (.command (.send toNodeId payload) answers)) task
      (task.step host (.command (.send toNodeId payload) answers)) := by
  refine .of_handle idle (.command (.send toNodeId payload) answers) fun entry member => ?_
  rcases (handled host task answers (.send toNodeId payload)).conclusion with
    ⟨error, -, refused⟩ | ⟨queued, changed, reply, queues, -, subset, -⟩
  · rw [ClientTask.handle, refused.outbound] at member
    exact Or.inl member
  · obtain ⟨used, -, pushed, -⟩ := queues.routed
    have carried := subset member
    rw [pushed] at carried
    simp only [OutboundQueue.push, List.append_assoc, List.mem_append, List.mem_singleton]
      at carried ⊢
    rcases carried with pending | rfl | dispatched
    · exact Or.inl (Or.inl pending)
    · exact Or.inr rfl
    · exact Or.inl (Or.inr dispatched)

end Client

/-! ## One service -/

section Service
variable {π : Type} {host : ClientHost} {maxAttempts : Nat}
  {frames : List UInt8 → Prop} {nodeId : NodeId} {node reached : ServiceNode π} {step : ServiceStep}

/-! ### Requests and replies -/

theorem clientSend_eq_some {toNodeId : NodeId} {payload : List UInt8} {relay : Option RelayTask}
    (sent : node.clientSend toNodeId payload relay = some reached) :
    reached = { node with
      commands := node.commands ++ [⟨toNodeId, encodeClientPayload payload, relay⟩] } := by
  unfold ServiceNode.clientSend at sent
  split_ifs at sent
  exact (Option.some.inj sent).symm

theorem replied_cases (maxAttempts : Nat) (node : ServiceNode π) (relay : Option RelayTask)
    (result : Except BleClientError JacquardBleSendReceipt) :
    ∃ relays relayDrops,
      node.replied maxAttempts relay result =
        { node with relays := node.relays ++ relays, relayDrops := relayDrops } ∧
      ∀ waiting ∈ relays, ∃ task, relay = some task ∧ waiting.payload = task.payload := by
  unfold ServiceNode.replied
  split
  · exact ⟨[], node.relayDrops, by simp, nofun⟩
  · exact ⟨[], node.relayDrops, by simp, nofun⟩
  · rename_i task error
    split
    · refine ⟨[{ task with attempt := task.attempt + 1 }], node.relayDrops, rfl, ?_⟩
      intro waiting member
      obtain rfl := List.mem_singleton.mp member
      exact ⟨task, rfl, rfl⟩
    · exact ⟨[], node.relayDrops ++ [task.relay], by simp, nofun⟩

@[simp] theorem client_replied (maxAttempts : Nat) (node : ServiceNode π) (relay : Option RelayTask)
    (result : Except BleClientError JacquardBleSendReceipt) :
    (node.replied maxAttempts relay result).client = node.client := by
  obtain ⟨relays, relayDrops, equal, -⟩ := replied_cases maxAttempts node relay result
  rw [equal]

@[simp] theorem incoming_replied (maxAttempts : Nat) (node : ServiceNode π)
    (relay : Option RelayTask) (result : Except BleClientError JacquardBleSendReceipt) :
    (node.replied maxAttempts relay result).incoming = node.incoming := by
  obtain ⟨relays, relayDrops, equal, -⟩ := replied_cases maxAttempts node relay result
  rw [equal]

/-! ### What is on its way -/

def Framed (frames : List UInt8 → Prop) (payload : List UInt8) : Prop :=
  ∃ frame, frames frame ∧ payload = encodeClientPayload frame

/-- Everything on its way through the node is one of the frames. -/
structure Carries (frames : List UInt8 → Prop) (nodeId : NodeId) (node : ServiceNode π) : Prop where
  localNodeId : node.localNodeId = nodeId
  idle : Idle node.client.bridge
  outbound : ∀ entry ∈ node.client.outbound.pending ++ node.client.outbound.dispatched,
    Framed frames entry.command.payload
  commands : ∀ request ∈ node.commands,
    Framed frames request.payload ∧ ∀ task, request.relay = some task → frames task.payload
  published : ∀ item ∈ node.client.incoming, frames item.2
  received : ∀ received, node.transportIncoming = some received → ∀ item ∈ received, frames item.2
  awaiting : ∀ task, node.awaitingPermit = some task → frames task.payload
  relays : ∀ task ∈ node.relays, frames task.payload

theorem Framed.mono {more : List UInt8 → Prop} (included : ∀ frame, frames frame → more frame)
    {payload : List UInt8} (framed : Framed frames payload) : Framed more payload := by
  obtain ⟨frame, known, equal⟩ := framed
  exact ⟨frame, included frame known, equal⟩

theorem Carries.mono {more : List UInt8 → Prop} (included : ∀ frame, frames frame → more frame)
    (carries : Carries frames nodeId node) : Carries more nodeId node where
  localNodeId := carries.localNodeId
  idle := carries.idle
  outbound entry member := (carries.outbound entry member).mono included
  commands request member := ⟨(carries.commands request member).1.mono included,
    fun task relays => included _ ((carries.commands request member).2 task relays)⟩
  published item member := included _ (carries.published item member)
  received received same item member := included _ (carries.received received same item member)
  awaiting task same := included _ (carries.awaiting task same)
  relays task member := included _ (carries.relays task member)

theorem Carries.requested {request : SendRequest} (carries : Carries frames nodeId node)
    (framed : Framed frames request.payload)
    (relayed : ∀ task, request.relay = some task → frames task.payload) :
    Carries frames nodeId { node with commands := node.commands ++ [request] } := by
  refine { carries with commands := ?_ }
  intro other member
  rcases List.mem_append.mp member with earlier | new
  · exact carries.commands other earlier
  · obtain rfl := List.mem_singleton.mp new
    exact ⟨framed, relayed⟩

theorem Carries.taken {item : NodeId × List UInt8} {rest : List (NodeId × List UInt8)}
    (carries : Carries frames nodeId node)
    (subscribed : node.transportIncoming = some (item :: rest)) :
    frames item.2 ∧ Carries frames nodeId { node with transportIncoming := some rest } := by
  have known := carries.received _ subscribed
  refine ⟨known item List.mem_cons_self, { carries with received := ?_ }⟩
  rintro received ⟨⟩ other member
  exact known other (List.mem_cons_of_mem _ member)

theorem Carries.erased (carries : Carries frames nodeId node) (position : Nat) :
    Carries frames nodeId { node with relays := node.relays.eraseIdx position } :=
  { carries with
    relays := fun other member => carries.relays other (List.mem_of_mem_eraseIdx member) }

theorem Carries.receive {payloads : List UInt8 → Prop} {among : ClientRound → Prop}
    {client : ClientTask π} (carries : Carries frames nodeId node)
    (grown : Grown payloads among node.client client)
    (queued : ∀ payload, payloads payload → Framed frames payload)
    (delivered : ∀ round, among round → ∀ item, Broadcasts round item → frames item.2) :
    Carries frames nodeId (node.receive client) := by
  have published : ∀ item ∈ client.incoming, frames item.2 := by
    intro item member
    rcases grown.published.incoming item member with earlier | ⟨round, own, broadcast⟩
    · exact carries.published item earlier
    · exact delivered round own item broadcast
  refine ⟨grown.localNodeId.trans carries.localNodeId, grown.idle, ?_, carries.commands, published,
    ?_, carries.awaiting, carries.relays⟩
  · intro entry member
    rcases grown.outbound entry member with earlier | new
    · exact carries.outbound entry earlier
    · exact queued _ new
  · intro received same item member
    obtain ⟨earlier, subscribed, rfl⟩ := Option.map_eq_some_iff.mp same
    rcases List.mem_append.mp (List.mem_of_mem_drop member) with old | new
    · exact carries.received earlier subscribed item old
    · exact published item (List.mem_of_mem_drop new)

theorem Carries.replied {relay : Option RelayTask}
    {result : Except BleClientError JacquardBleSendReceipt} (carries : Carries frames nodeId node)
    (relayed : ∀ task, relay = some task → frames task.payload) :
    Carries frames nodeId (node.replied maxAttempts relay result) := by
  obtain ⟨relays, relayDrops, equal, again⟩ := replied_cases maxAttempts node relay result
  rw [equal]
  refine { carries with relays := ?_ }
  intro waiting member
  rcases List.mem_append.mp member with earlier | new
  · exact carries.relays waiting earlier
  · obtain ⟨task, same, payload⟩ := again waiting new
    rw [payload]
    exact relayed task same

/-! ### Steps -/

variable [HostTopologyProjector π]

inductive ServiceChange (host : ClientHost) (maxAttempts : Nat) (node : ServiceNode π) :
    ServiceStep → ServiceNode π → Prop
  | sent (destinationNodeId : NodeId) (payload : List UInt8) :
      ServiceChange host maxAttempts node (.send destinationNodeId payload)
        { node with
          commands := node.commands ++ [⟨destinationNodeId, encodeClientPayload
            (encodeApplicationFrame node.localNodeId destinationNodeId payload), none⟩] }
  | handled (answers : SendAnswers) (request : SendRequest) (rest : List SendRequest)
      (commands : node.commands = request :: rest) :
      ServiceChange host maxAttempts node (.handleCommand answers)
        (({ node with commands := rest }.receive
          (node.client.step host
            (.command (.send request.toNodeId request.payload) answers))).replied
            maxAttempts request.relay
            (node.client.sendReply host request.toNodeId request.payload answers))
  | round (rounds : ClientRounds) :
      ServiceChange host maxAttempts node (.bridgeRound rounds)
        (node.receive (node.client.step host (.bridgeRound rounds)))
  | subscribed : ServiceChange host maxAttempts node .subscribe
      { node with transportIncoming := some [] }
  | skipped (item : NodeId × List UInt8) (rest : List (NodeId × List UInt8))
      (subscribed : node.transportIncoming = some (item :: rest)) :
      ServiceChange host maxAttempts node .pump { node with transportIncoming := some rest }
  | surfaced (item : NodeId × List UInt8) (rest : List (NodeId × List UInt8))
      (subscribed : node.transportIncoming = some (item :: rest)) (frame : ApplicationFrame)
      (decoded : decodeApplicationFrame item.2 = some frame)
      (own : frame.destinationNodeId = node.localNodeId) :
      ServiceChange host maxAttempts node .pump
        { node with
          transportIncoming := some rest
          incoming := node.incoming ++ [⟨frame.fromNodeId, item.1, frame.payload⟩] }
  | taken (item : NodeId × List UInt8) (rest : List (NodeId × List UInt8))
      (subscribed : node.transportIncoming = some (item :: rest)) (relay : JacquardRelayDrop) :
      ServiceChange host maxAttempts node .pump
        { node with
          transportIncoming := some rest
          awaitingPermit := some ⟨relay, item.2, 0⟩ }
  | permitted (task : RelayTask) (awaiting : node.awaitingPermit = some task) :
      ServiceChange host maxAttempts node .pump
        { node with awaitingPermit := none, relays := node.relays ++ [task] }
  | attempted (position : Nat) (task : RelayTask) (waiting : task ∈ node.relays) :
      ServiceChange host maxAttempts node (.relayAttempt position)
        { node with
          relays := node.relays.eraseIdx position
          commands := node.commands ++
            [⟨task.relay.destinationNodeId, encodeClientPayload task.payload, some task⟩] }
  | dropped (position : Nat) (relayDrops : List JacquardRelayDrop) :
      ServiceChange host maxAttempts node (.relayAttempt position)
        { node with relays := node.relays.eraseIdx position, relayDrops := relayDrops }

theorem serviceChange (taken : node.next host maxAttempts step = some reached) :
    ServiceChange host maxAttempts node step reached := by
  cases step with
  | send destinationNodeId payload =>
      obtain rfl := clientSend_eq_some taken
      exact .sent destinationNodeId payload
  | handleCommand answers =>
      unfold ServiceNode.next ServiceNode.handleCommand at taken
      dsimp only at taken
      split at taken
      · cases taken
      · rename_i request rest commands
        obtain rfl := Option.some.inj taken
        exact .handled answers request rest commands
  | bridgeRound rounds =>
      obtain rfl := Option.some.inj taken
      exact .round rounds
  | subscribe =>
      unfold ServiceNode.next at taken
      dsimp only at taken
      split at taken
      · cases taken
      · obtain rfl := Option.some.inj taken
        exact .subscribed
  | pump =>
      unfold ServiceNode.next ServiceNode.pump at taken
      dsimp only at taken
      split at taken
      · rename_i task awaiting
        split_ifs at taken
        obtain rfl := Option.some.inj taken
        exact .permitted task awaiting
      · rename_i transportFromNodeId payload rest idle subscribed
        split at taken
        · obtain rfl := Option.some.inj taken
          exact .skipped _ rest subscribed
        · rename_i frame decoded
          split_ifs at taken with own
          · obtain rfl := Option.some.inj taken
            exact .surfaced _ rest subscribed frame decoded own
          · obtain rfl := Option.some.inj taken
            exact .taken _ rest subscribed _
      · cases taken
  | relayAttempt position =>
      unfold ServiceNode.next ServiceNode.relayAttempt at taken
      dsimp only at taken
      split at taken
      · cases taken
      · rename_i task found
        split at taken
        · obtain rfl := clientSend_eq_some taken
          exact .attempted position task (List.mem_of_getElem? found)
        · obtain rfl := Option.some.inj taken
          exact .dropped position _

/-- The rounds that the client of the node drives in the step. -/
def DrivenIn (host : ClientHost) (node : ServiceNode π) (step : ServiceStep) (round : ClientRound) :
    Prop :=
  match step with
  | .handleCommand answers =>
      ∃ request rest, node.commands = request :: rest ∧ DrivenBy host node.client
        (.command (.send request.toNodeId request.payload) answers) round
  | .bridgeRound rounds => DrivenBy host node.client (.bridgeRound rounds) round
  | .send .. | .subscribe | .pump | .relayAttempt _ => False

theorem Carries.change (carries : Carries frames nodeId node)
    (called : ∀ destinationNodeId payload, step = .send destinationNodeId payload →
      frames (encodeApplicationFrame nodeId destinationNodeId payload))
    (delivered : ∀ round, DrivenIn host node step round →
      ∀ item, Broadcasts round item → frames item.2)
    (change : ServiceChange host maxAttempts node step reached) : Carries frames nodeId reached := by
  cases change with
  | sent destinationNodeId payload =>
      refine carries.requested ⟨_, ?_, rfl⟩ nofun
      rw [carries.localNodeId]
      exact called destinationNodeId payload rfl
  | handled answers request rest commands =>
      obtain ⟨framed, relayed⟩ := carries.commands request (by simp [commands])
      have waiting : Carries frames nodeId { node with commands := rest } :=
        { carries with
          commands := fun other member => carries.commands other (by simp [commands, member]) }
      have grown := grown_send host carries.idle request.toNodeId request.payload answers
      refine (waiting.receive grown ?_ fun round driven =>
        delivered round ⟨request, rest, commands, driven⟩).replied relayed
      rintro payload rfl
      exact framed
  | round driven =>
      exact carries.receive (grown_round host carries.idle driven) nofun delivered
  | subscribed =>
      refine { carries with received := ?_ }
      rintro received ⟨⟩ item member
      cases member
  | skipped item rest subscribed => exact (carries.taken subscribed).2
  | surfaced item rest subscribed frame decoded own =>
      exact { (carries.taken subscribed).2 with }
  | taken item rest subscribed relay =>
      obtain ⟨known, taken⟩ := carries.taken subscribed
      refine { taken with awaiting := ?_ }
      rintro task ⟨⟩
      exact known
  | permitted task awaiting =>
      refine { carries with awaiting := nofun, relays := ?_ }
      intro other member
      rcases List.mem_append.mp member with earlier | new
      · exact carries.relays other earlier
      · obtain rfl := List.mem_singleton.mp new
        exact carries.awaiting _ awaiting
  | attempted position task waiting =>
      have known := carries.relays task waiting
      refine (carries.erased position).requested ⟨_, known, rfl⟩ ?_
      rintro other ⟨⟩
      exact known
  | dropped position relayDrops => exact { carries.erased position with }

/-- What a step queues was on its way before it, whatever the step receives. -/
theorem Carries.outbound_change (carries : Carries frames nodeId node)
    (change : ServiceChange host maxAttempts node step reached) :
    ∀ entry ∈ reached.client.outbound.pending ++ reached.client.outbound.dispatched,
      Framed frames entry.command.payload := by
  intro entry member
  cases change with
  | handled answers request rest commands =>
      rw [client_replied] at member
      have grown := grown_send host carries.idle request.toNodeId request.payload answers
      rcases grown.outbound entry member with earlier | new
      · exact carries.outbound entry earlier
      · rw [new]
        exact (carries.commands request (by simp [commands])).1
  | round rounds =>
      exact carries.outbound entry
        (((grown_round host carries.idle rounds).outbound entry member).resolve_right id)
  | sent | subscribed | skipped | surfaced | taken | permitted | attempted | dropped =>
      exact carries.outbound entry member

/-- Only the pump surfaces anything, and only a frame for its own node. -/
theorem incoming_change (change : ServiceChange host maxAttempts node step reached) :
    reached.incoming = node.incoming ∨
      ∃ item rest frame, node.transportIncoming = some (item :: rest) ∧
        decodeApplicationFrame item.2 = some frame ∧
        frame.destinationNodeId = node.localNodeId ∧
        reached.incoming = node.incoming ++ [⟨frame.fromNodeId, item.1, frame.payload⟩] := by
  cases change with
  | surfaced item rest subscribed frame decoded own =>
      exact Or.inr ⟨item, rest, frame, subscribed, decoded, own, rfl⟩
  | handled answers request rest commands =>
      left
      rw [incoming_replied]
      rfl
  | sent | round | subscribed | skipped | taken | permitted | attempted | dropped => exact Or.inl rfl

/-! ### The loop of a relay -/

/-- The attempts of a relay with nothing but bridge rounds between them. -/
def relayAttempts (attempts : List (List ClientRounds × SendAnswers)) : List RelayAttempt :=
  attempts.map fun attempt => ⟨attempt.1.map .bridgeRound, attempt.2⟩

def attemptSteps (attempt : List ClientRounds × SendAnswers) : List ServiceStep :=
  attempt.1.map .bridgeRound ++ [.relayAttempt 0, .handleCommand attempt.2]

theorem exec_bridgeRounds (host : ClientHost) (maxAttempts : Nat) (rounds : List ClientRounds)
    (node : ServiceNode π) :
    ∃ transportIncoming,
      exec (ServiceNode.step host maxAttempts) node (rounds.map .bridgeRound) =
        { node with
          client := exec (ClientTask.step host) node.client (rounds.map .bridgeRound)
          transportIncoming := transportIncoming } := by
  induction rounds generalizing node with
  | nil => exact ⟨node.transportIncoming, rfl⟩
  | cons first rest ih =>
      obtain ⟨transportIncoming, later⟩ := ih (node.bridgeRound host first)
      exact ⟨transportIncoming, later⟩

theorem exec_relayAttempt (host : ClientHost) (node : ServiceNode π) (relay : RelayTask)
    (commands : node.commands = []) (relays : node.relays = [relay])
    (within : relay.attempt < maxAttempts) (answers : SendAnswers) :
    let payload := encodeClientPayload relay.payload
    let sent := node.client.step host
      (.command (.send relay.relay.destinationNodeId payload) answers)
    ∃ transportIncoming,
      exec (ServiceNode.step host maxAttempts) node [.relayAttempt 0, .handleCommand answers] =
        { node with
          client := sent
          relays := []
          transportIncoming := transportIncoming }.replied maxAttempts (some relay)
            (node.client.sendReply host relay.relay.destinationNodeId payload answers) := by
  intro payload sent
  let requested : ServiceNode π :=
    { node with
      relays := []
      commands := [⟨relay.relay.destinationNodeId, payload, some relay⟩] }
  have attempted : node.next host maxAttempts (.relayAttempt 0) = some requested := by
    simp [ServiceNode.next, ServiceNode.relayAttempt, ServiceNode.clientSend, relays, within, commands,
      defaultClientCommandCapacity, requested, payload]
  have handled : requested.next host maxAttempts (.handleCommand answers) =
      some (({ requested with commands := [] }.receive sent).replied maxAttempts (some relay)
        (node.client.sendReply host relay.relay.destinationNodeId payload answers)) := rfl
  refine ⟨({ node with relays := [], commands := [] }.receive sent).transportIncoming, ?_⟩
  rw [exec_cons, ServiceNode.step, attempt_of_enabled attempted, exec_cons,
    attempt_of_enabled handled, exec_nil, ← commands]
  rfl

theorem exec_attemptSteps (host : ClientHost) (node : ServiceNode π) (relay : RelayTask)
    (commands : node.commands = []) (relays : node.relays = [relay])
    (within : relay.attempt < maxAttempts) (attempt : List ClientRounds × SendAnswers) :
    let payload := encodeClientPayload relay.payload
    let driven := exec (ClientTask.step host) node.client (attempt.1.map .bridgeRound)
    ∃ transportIncoming,
      exec (ServiceNode.step host maxAttempts) node (attemptSteps attempt) =
        { node with
          client := driven.step host
            (.command (.send relay.relay.destinationNodeId payload) attempt.2)
          relays := []
          transportIncoming := transportIncoming }.replied maxAttempts (some relay)
            (driven.sendReply host relay.relay.destinationNodeId payload attempt.2) := by
  obtain ⟨received, rounds⟩ := exec_bridgeRounds host maxAttempts attempt.1 node
  obtain ⟨answered, attempted⟩ := exec_relayAttempt host
    { node with
      client := exec (ClientTask.step host) node.client (attempt.1.map .bridgeRound)
      transportIncoming := received } relay commands relays within attempt.2
  refine ⟨answered, ?_⟩
  rw [attemptSteps, exec_append, rounds]
  exact attempted

def relayEnded (node : ServiceNode π) (relay : JacquardRelayDrop)
    (transportIncoming : Option (List (NodeId × List UInt8))) (looped : ClientTask π × Bool) :
    ServiceNode π :=
  { node with
    client := looped.1
    transportIncoming := transportIncoming
    relays := []
    relayDrops := if looped.2 then node.relayDrops else node.relayDrops ++ [relay] }

/-- The loop of `relay_framed_payload` is a run of its node, where the relay is alone. -/
theorem relayFramedPayload_run (host : ClientHost) (relay : JacquardRelayDrop) (payload : List UInt8)
    (attempts : List (List ClientRounds × SendAnswers)) (number : Nat) (node : ServiceNode π)
    (commands : node.commands = []) (relays : node.relays = [⟨relay, payload, number⟩]) :
    ∃ steps transportIncoming,
      exec (ServiceNode.step host (number + attempts.length)) node steps =
        relayEnded node relay transportIncoming (relayFramedPayload host relay.destinationNodeId
          payload node.client (relayAttempts attempts)) := by
  induction attempts generalizing node number with
  | nil =>
      refine ⟨[.relayAttempt 0], node.transportIncoming, ?_⟩
      have dropped : node.next host number (.relayAttempt 0) =
          some (relayEnded node relay node.transportIncoming (node.client, false)) := by
        simp [ServiceNode.next, ServiceNode.relayAttempt, relays, relayEnded]
      exact attempt_of_enabled dropped
  | cons attempt rest ih =>
      have again : (!(relayAttempts rest).isEmpty) =
          decide (number + 1 < number + (rest.length + 1)) := by
        cases rest <;> simp [relayAttempts]
      obtain ⟨answered, reached⟩ := exec_attemptSteps host node ⟨relay, payload, number⟩ commands
        relays (show number < number + (rest.length + 1) by omega) attempt
      change ∃ steps transportIncoming, _ = relayEnded node relay transportIncoming
        (relayFramedPayload host relay.destinationNodeId payload node.client
          (⟨attempt.1.map .bridgeRound, attempt.2⟩ :: relayAttempts rest))
      rw [relayFramedPayload, List.length_cons, again]
      dsimp only at reached ⊢
      generalize exec (ClientTask.step host) node.client (attempt.1.map .bridgeRound) = driven
        at reached ⊢
      generalize driven.sendReply host relay.destinationNodeId (encodeClientPayload payload) attempt.2 =
        result at reached ⊢
      generalize driven.step host (.command (.send relay.destinationNodeId (encodeClientPayload payload))
        attempt.2) = sent at reached ⊢
      cases result with
      | ok receipt => exact ⟨attemptSteps attempt, answered, reached⟩
      | error error =>
          simp only [ServiceNode.replied, List.nil_append] at reached ⊢
          split at reached
          · rename_i retried
            rw [if_pos retried]
            obtain ⟨steps, last, run⟩ := ih (number + 1)
              { node with
                client := sent
                relays := [⟨relay, payload, number + 1⟩]
                transportIncoming := answered } commands rfl
            have counted : number + (rest.length + 1) = number + 1 + rest.length := by omega
            refine ⟨attemptSteps attempt ++ steps, last, ?_⟩
            rw [exec_append, reached, counted]
            exact run
          · rename_i given
            rw [if_neg given]
            exact ⟨attemptSteps attempt, answered, reached⟩

end Service

/-! ## The network -/

section Network
variable {π : Type} [HostTopologyProjector π] {config : ServiceConfig}

/-- The transport delivers no payload of a client that no node has handed to its runtime. It may lose,
repeat and reorder them, and deliver to any node. Other traffic has no client frame. -/
def Delivers (config : ServiceConfig) (network : ServiceNetwork π) (input : NodeId × ServiceStep) :
    Prop :=
  ∀ round, DrivenIn (config.host input.1) (network input.1) input.2 round →
    ∀ item ∈ payloadsOf round, ∀ frame, decodeClientPayload item.2 = .ok (some frame) →
      -- A follow-up round may receive what the first round of the same step has sent.
      ∃ origin, ∃ entry ∈ (network.step config input origin).client.outbound.dispatched,
        entry.command.payload = item.2

def Called (steps : List (NodeId × ServiceStep)) (frame : List UInt8) : Prop :=
  ∃ fromNodeId destinationNodeId payload,
    (fromNodeId, .send destinationNodeId payload) ∈ steps ∧
      frame = encodeApplicationFrame fromNodeId destinationNodeId payload

theorem Called.append {steps : List (NodeId × ServiceStep)} {frame : List UInt8}
    (called : Called steps frame) (later : List (NodeId × ServiceStep)) :
    Called (steps ++ later) frame := by
  obtain ⟨fromNodeId, destinationNodeId, payload, member, equal⟩ := called
  exact ⟨fromNodeId, destinationNodeId, payload, List.mem_append_left _ member, equal⟩

theorem step_cases (config : ServiceConfig) (network : ServiceNetwork π) (nodeId : NodeId)
    (step : ServiceStep) :
    network.step config (nodeId, step) = network ∨
      ∃ reached, ServiceChange (config.host nodeId) (config.maxAttempts nodeId) (network nodeId) step
          reached ∧
        network.step config (nodeId, step) = Function.update network nodeId reached := by
  unfold ServiceNetwork.step ServiceNode.step
  cases taken : (network nodeId).next (config.host nodeId) (config.maxAttempts nodeId) step with
  | none =>
      left
      rw [attempt_of_disabled taken, Function.update_eq_self]
  | some reached =>
      right
      rw [attempt_of_enabled taken]
      exact ⟨reached, serviceChange taken, rfl⟩

theorem carries_start (topology : NodeId → Observation Configuration)
    (engineCapabilities : NodeId → List Nat) (frames : List UInt8 → Prop) (nodeId : NodeId) :
    Carries frames nodeId
      ((ServiceNetwork.start topology engineCapabilities : ServiceNetwork π) nodeId) where
  localNodeId := rfl
  idle := ⟨rfl, Nat.zero_le _⟩
  outbound _ member := by cases member
  commands _ member := by cases member
  published _ member := by cases member
  received _ subscribed := by cases subscribed
  awaiting _ waits := by cases waits
  relays _ member := by cases member

/-- The frames on their way are those of calls that were made, after every step. -/
theorem carries_step {frames : List UInt8 → Prop} {network : ServiceNetwork π}
    {input : NodeId × ServiceStep} (carries : ∀ nodeId, Carries frames nodeId (network nodeId))
    (called : ∀ destinationNodeId payload, input.2 = .send destinationNodeId payload →
      frames (encodeApplicationFrame input.1 destinationNodeId payload))
    (delivers : Delivers config network input) (nodeId : NodeId) :
    Carries frames nodeId (network.step config input nodeId) := by
  obtain ⟨actor, step⟩ := input
  rcases step_cases config network actor step with same | ⟨reached, change, equal⟩
  · rw [same]
    exact carries nodeId
  · have sent (origin : NodeId) : ∀ entry ∈
        (network.step config (actor, step) origin).client.outbound.dispatched,
        Framed frames entry.command.payload := by
      intro entry member
      rw [equal] at member
      by_cases own : origin = actor
      · subst own
        rw [Function.update_self] at member
        exact (carries origin).outbound_change change entry (List.mem_append_right _ member)
      · rw [Function.update_of_ne own] at member
        exact (carries origin).outbound entry (List.mem_append_right _ member)
    have delivered : ∀ round, DrivenIn (config.host actor) (network actor) step round →
        ∀ item, Broadcasts round item → frames item.2 := by
      rintro round driven item ⟨payload, received, decoded⟩
      obtain ⟨origin, entry, dispatched, same⟩ := delivers round driven _ received _ decoded
      obtain ⟨frame, known, framed⟩ := sent origin entry dispatched
      obtain rfl : payload = encodeClientPayload frame := same.symm.trans framed
      rw [decode_encodeClientPayload] at decoded
      obtain rfl := Option.some.inj (Except.ok.inj decoded)
      exact known
    rw [equal]
    by_cases own : nodeId = actor
    · subst own
      rw [Function.update_self]
      exact (carries nodeId).change called delivered change
    · rw [Function.update_of_ne own]
      exact carries nodeId

theorem carries_run (topology : NodeId → Observation Configuration)
    (engineCapabilities : NodeId → List Nat) {steps : List (NodeId × ServiceStep)}
    (delivers : Meets (ServiceNetwork.step config) (Delivers config)
      (ServiceNetwork.start topology engineCapabilities : ServiceNetwork π) steps) (nodeId : NodeId) :
    Carries (Called steps) nodeId (exec (ServiceNetwork.step config)
      (ServiceNetwork.start topology engineCapabilities : ServiceNetwork π) steps nodeId) := by
  revert nodeId
  refine meets_induction (P := fun steps => ∀ nodeId, Carries (Called steps) nodeId
    (exec (ServiceNetwork.step config)
      (ServiceNetwork.start topology engineCapabilities : ServiceNetwork π) steps nodeId)) ?_ ?_ delivers
  · exact carries_start topology engineCapabilities _
  · intro before input carries now nodeId
    rw [exec_snoc]
    refine carries_step (fun nodeId => (carries nodeId).mono fun frame called => called.append [input])
      ?_ now nodeId
    intro destinationNodeId payload calls
    obtain ⟨actor, step⟩ := input
    obtain rfl : step = _ := calls
    exact ⟨actor, destinationNodeId, payload, by simp, rfl⟩

/-- A node surfaces a message only for a call of `send` to it that was made before, and only from a
frame with its own node as the destination. -/
theorem relay_integrity (config : ServiceConfig) (topology : NodeId → Observation Configuration)
    (engineCapabilities : NodeId → List Nat) (steps : List (NodeId × ServiceStep))
    (delivers : Meets (ServiceNetwork.step config) (Delivers config)
      (ServiceNetwork.start topology engineCapabilities : ServiceNetwork π) steps)
    (before : List (NodeId × ServiceStep)) (input : NodeId × ServiceStep)
    (initially : before ++ [input] <+: steps) (nodeId : NodeId) :
    let network := exec (ServiceNetwork.step config)
      (ServiceNetwork.start topology engineCapabilities : ServiceNetwork π) before
    ∀ message ∈ (network.step config input nodeId).incoming.drop (network nodeId).incoming.length,
      (message.fromNodeId, .send nodeId message.payload) ∈ before ∧
        ∃ bytes rest, (network nodeId).transportIncoming =
            some ((message.transportFromNodeId, bytes) :: rest) ∧
          decodeApplicationFrame bytes =
            some ⟨message.fromNodeId, nodeId, message.payload⟩ := by
  intro network message surfaced
  have carries : Carries (Called before) nodeId (network nodeId) :=
    carries_run topology engineCapabilities (delivers.of_prefix
      ((List.prefix_append before [input]).trans initially)) nodeId
  obtain ⟨actor, step⟩ := input
  rcases step_cases config network actor step with same | ⟨reached, change, equal⟩
  · rw [same] at surfaced
    simp at surfaced
  · rw [equal] at surfaced
    by_cases own : nodeId = actor
    · subst own
      rw [Function.update_self] at surfaced
      rcases incoming_change change with silent | ⟨item, rest, frame, subscribed, decoded, dest, equal⟩
      · rw [silent] at surfaced
        simp at surfaced
      · rw [equal, List.drop_left] at surfaced
        obtain rfl := List.mem_singleton.mp surfaced
        -- The frame that the pump has taken is that of an earlier call.
        obtain ⟨fromNodeId, destinationNodeId, payload, called, framed⟩ :=
          carries.received _ subscribed item List.mem_cons_self
        have original := decoded
        rw [framed, decode_encodeApplicationFrame] at original
        obtain rfl := Option.some.inj original
        obtain rfl : destinationNodeId = nodeId := dest.trans carries.localNodeId
        exact ⟨called, item.2, rest, subscribed, decoded⟩
    · rw [Function.update_of_ne own] at surfaced
      simp at surfaced

end Network

/-! ## A frame over one relay -/

namespace Scenario
open JqBle.Proof.LinkProfile.Scenario JqBle.Proof.Client.Scenario

-- Each node of the line sends to the one after it.
def line : ServiceConfig where
  host nodeId := { clientHost with
    selectedNeighborFromBackendRouteId := fun _ =>
      some (if nodeId = node 1 then node 2 else node 3) }
  maxAttempts _ := 200

def linkTo (nodeId : NodeId) : ServiceStep :=
  .bridgeRound (quietRounds [rawBleLinkObservedEvent nodeId (gattEndpoint ⟨"peer"⟩)])

def deliver (fromNodeId : NodeId) : ServiceStep :=
  .bridgeRound (quietRounds [.payloadReceived fromNodeId (gattEndpoint ⟨"peer"⟩)
    (encodeClientPayload (encodeApplicationFrame (node 1) (node 3) [7]))])

def relayed : List (NodeId × ServiceStep) :=
  [(node 1, linkTo (node 2)), (node 1, .send (node 3) [7]),
    (node 1, .handleCommand (activation (quietRounds []))),
    (node 2, linkTo (node 3)), (node 2, .subscribe), (node 2, deliver (node 1)), (node 2, .pump),
    (node 2, .pump), (node 2, .relayAttempt 0),
    (node 2, .handleCommand (activation (quietRounds []))),
    (node 3, .subscribe), (node 3, deliver (node 2))]

def quiet : ServiceNetwork CopyingProjector := .start (fun _ => firstTopology) fun _ => []

def network (steps : List (NodeId × ServiceStep)) : ServiceNetwork CopyingProjector :=
  exec (ServiceNetwork.step line) quiet steps

end Scenario

theorem delivers_of_silent {π : Type} [HostTopologyProjector π] {config : ServiceConfig}
    {network : ServiceNetwork π} {input : NodeId × ServiceStep}
    (silent : ∀ round, DrivenIn (config.host input.1) (network input.1) input.2 round →
      payloadsOf round = []) : Delivers config network input := by
  intro round driven item received
  rw [silent round driven] at received
  cases received

namespace Scenario
open JqBle.Proof.LinkProfile.Scenario JqBle.Proof.Client.Scenario

theorem delivers_frame {network : ServiceNetwork CopyingProjector} {receiver fromNodeId : NodeId}
    (origin : NodeId)
    (sent : encodeClientPayload (encodeApplicationFrame (node 1) (node 3) [7]) ∈
      (network.step line (receiver, deliver fromNodeId) origin).client.outbound.dispatched.map
        fun entry => entry.command.payload) :
    Delivers line network (receiver, deliver fromNodeId) := by
  obtain ⟨entry, dispatched, payload⟩ := List.mem_map.mp sent
  intro round driven item received frame framed
  refine ⟨origin, entry, dispatched, payload.trans ?_⟩
  rcases Drives.one_of driven with rfl | rfl
  · obtain rfl := List.mem_singleton.mp received
    rfl
  · cases received

theorem relayed_delivers : Meets (ServiceNetwork.step line) (Delivers line) quiet
    (relayed ++ [(node 3, .pump)]) := by
  have silent (host : ClientHost) (node : ServiceNode CopyingProjector) (round : ClientRound)
      (driven : DrivenIn host node (.handleCommand (activation (quietRounds []))) round) :
      payloadsOf round = [] := by
    obtain ⟨request, rest, commands, queued, changed, reply, queues, drives⟩ := driven
    rcases drives.one_of with rfl | rfl <;> rfl
  have links (host : ClientHost) (node : ServiceNode CopyingProjector) (nodeId : NodeId)
      (round : ClientRound) (driven : DrivenIn host node (linkTo nodeId) round) :
      payloadsOf round = [] := by
    rcases Drives.one_of driven with rfl | rfl <;> rfl
  refine ⟨delivers_of_silent (links _ _ _), delivers_of_silent nofun, delivers_of_silent (silent _ _),
    delivers_of_silent (links _ _ _), delivers_of_silent nofun, delivers_frame (node 1) ?_,
    delivers_of_silent nofun, delivers_of_silent nofun, delivers_of_silent nofun,
    delivers_of_silent (silent _ _), delivers_of_silent nofun, delivers_frame (node 2) ?_,
    delivers_of_silent nofun, trivial⟩
  · decide +kernel
  · decide +kernel

end Scenario

theorem relay_integrity_line :
    let network := Scenario.network Scenario.relayed
    let message : JacquardIncomingMessage :=
      ⟨LinkProfile.Scenario.node 1, LinkProfile.Scenario.node 2, [7]⟩
    (network.step Scenario.line (LinkProfile.Scenario.node 3, .pump)
      (LinkProfile.Scenario.node 3)).incoming = [message] ∧
      (LinkProfile.Scenario.node 1, .send (LinkProfile.Scenario.node 3) [7]) ∈ Scenario.relayed := by
  intro network message
  have surfaces : (network.step Scenario.line (LinkProfile.Scenario.node 3, .pump)
      (LinkProfile.Scenario.node 3)).incoming = [message] := by decide +kernel
  have silent : (network (LinkProfile.Scenario.node 3)).incoming = [] := by decide +kernel
  refine ⟨surfaces, (relay_integrity Scenario.line _ _ _ Scenario.relayed_delivers Scenario.relayed _
    List.prefix_rfl (LinkProfile.Scenario.node 3) message ?_).1⟩
  change message ∈ (network.step Scenario.line (LinkProfile.Scenario.node 3, .pump)
    (LinkProfile.Scenario.node 3)).incoming.drop
      (network (LinkProfile.Scenario.node 3)).incoming.length
  rw [surfaces, silent]
  exact List.mem_singleton_self _

end JqBle.Proof.Demo
