import JqBle.Library.History
import JqBle.Proof.Demo.Service
import Mathlib.Data.List.Perm.Basic

/-!
# What becomes of the payloads of the pump

Every payload that the pump takes is skipped, surfaced or relayed, and every relay ends once: when the
client accepts an attempt, or as a drop when an attempt fails for good. At most 64 relays are in flight,
and they make no more attempts than the retry policy allows; one more may wait for a permit.
-/

namespace JqBle.Proof.Demo
open Host Library Execution JqBle.Client JqBle.Demo JqBle.Proof.Client

/-! ## What the steps take and end -/

section Histories
variable {π : Type}

def pumped (node : ServiceNode π) : ServiceStep → List (NodeId × List UInt8)
  | .pump =>
      match node.awaitingPermit with
      | some _ => []
      | none => (node.transportIncoming.getD []).take 1
  | _ => []

def surfacedOf (localNodeId : NodeId) (item : NodeId × List UInt8) : Option JacquardIncomingMessage :=
  match decodeApplicationFrame item.2 with
  | none => none
  | some frame =>
      if frame.destinationNodeId = localNodeId then some ⟨frame.fromNodeId, item.1, frame.payload⟩
      else none

def relayedOf (localNodeId : NodeId) (item : NodeId × List UInt8) : Option JacquardRelayDrop :=
  match decodeApplicationFrame item.2 with
  | none => none
  | some frame =>
      if frame.destinationNodeId = localNodeId then none
      else some ⟨frame.fromNodeId, frame.destinationNodeId⟩

/-- The reply to an attempt of a relay. -/
structure AttemptReply where
  task : RelayTask
  result : Except BleClientError JacquardBleSendReceipt

def AttemptReply.forwarded (reply : AttemptReply) : Option JacquardRelayDrop :=
  match reply.result with
  | .ok _ => some reply.task.relay
  | .error _ => none

/-- The attempt has failed, and there is to be no other. -/
def AttemptReply.gaveUp (maxAttempts : Nat) (reply : AttemptReply) : Option JacquardRelayDrop :=
  match reply.result with
  | .ok _ => none
  | .error error =>
      if relayRetryable error && reply.task.attempt + 1 < maxAttempts then none
      else some reply.task.relay

variable [HostTopologyProjector π]

def attemptReplies (host : ClientHost) (node : ServiceNode π) : ServiceStep → List AttemptReply
  | .handleCommand answers =>
      match node.commands with
      | [] => []
      | request :: _ =>
          (request.relay.map fun task =>
            ⟨task, node.client.sendReply host request.toNodeId request.payload answers⟩).toList
  | _ => []

/-- The relays that hold a permit, before an attempt or awaiting the reply to it. -/
def inFlight (node : ServiceNode π) : List JacquardRelayDrop :=
  node.relays.map RelayTask.relay ++
    node.commands.filterMap fun request => request.relay.map RelayTask.relay

def awaiting (node : ServiceNode π) : List JacquardRelayDrop :=
  (node.awaitingPermit.map RelayTask.relay).toList

end Histories

/-! ## One step -/

section Steps
variable {π : Type} {node reached : ServiceNode π} {localNodeId : NodeId} {host : ClientHost}
  {maxAttempts : Nat} {step : ServiceStep}

def attemptsOf (maxAttempts : Nat) (relay : JacquardRelayDrop) (task : RelayTask) : Nat :=
  if task.relay = relay then maxAttempts - task.attempt else 0

/-- The attempts that the relays between the two nodes may still make. -/
def attemptsLeft (maxAttempts : Nat) (relay : JacquardRelayDrop) (node : ServiceNode π) : Nat :=
  node.awaitingPermit.elim 0 (attemptsOf maxAttempts relay) + (node.relays.map (attemptsOf maxAttempts relay)).sum +
    (node.commands.map fun request =>
      request.relay.elim 0 (attemptsOf maxAttempts relay)).sum

theorem length_inFlight (node : ServiceNode π) : (inFlight node).length = node.relayInflight := by
  have counted (commands : List SendRequest) :
      (commands.filterMap fun request => request.relay.map RelayTask.relay).length =
        commands.countP fun request => request.relay.isSome := by
    induction commands with
    | nil => rfl
    | cons request rest ih =>
        cases known : request.relay with
        | none => simp [known, ih]
        | some task => simp [known, ih]
  simp [inFlight, ServiceNode.relayInflight, counted]

structure Permitted (maxAttempts : Nat) (localNodeId : NodeId) (node : ServiceNode π) : Prop where
  localNodeId : node.localNodeId = localNodeId
  permits : (inFlight node).length ≤ relayInflightMax
  waiting : 0 < maxAttempts → ∀ task ∈ node.relays, task.attempt < maxAttempts
  attempts : ∀ request ∈ node.commands, ∀ task, request.relay = some task → task.attempt < maxAttempts
  fresh : ∀ task, node.awaitingPermit = some task → task.attempt = 0

/-- What a step does about relays, given what the pump takes in it and which attempts are replied to. -/
structure RelayMove (maxAttempts : Nat) (localNodeId : NodeId) (items : List (NodeId × List UInt8))
    (replies : List AttemptReply) (node reached : ServiceNode π) : Prop where
  permitted : Permitted maxAttempts localNodeId reached
  incoming : reached.incoming = node.incoming ++ items.filterMap (surfacedOf localNodeId)
  ends : ∀ relay, (awaiting node ++ inFlight node ++ node.relayDrops).count relay +
      (items.filterMap (relayedOf localNodeId)).count relay =
    (awaiting reached ++ inFlight reached ++ reached.relayDrops).count relay +
      (replies.filterMap AttemptReply.forwarded).count relay
  drops : 0 < maxAttempts →
    reached.relayDrops = node.relayDrops ++ replies.filterMap (AttemptReply.gaveUp maxAttempts)
  attempts : ∀ relay, replies.countP (·.task.relay = relay) + attemptsLeft maxAttempts relay reached ≤
    attemptsLeft maxAttempts relay node +
      maxAttempts * (items.filterMap (relayedOf localNodeId)).count relay

theorem RelayMove.of_perm (permitted : Permitted maxAttempts localNodeId reached)
    (incoming : reached.incoming = node.incoming)
    (waits : reached.awaitingPermit = node.awaitingPermit)
    (moved : (inFlight reached ++ reached.relayDrops).Perm (inFlight node ++ node.relayDrops))
    (drops : 0 < maxAttempts → reached.relayDrops = node.relayDrops)
    (left : ∀ relay, attemptsLeft maxAttempts relay reached ≤ attemptsLeft maxAttempts relay node) :
    RelayMove maxAttempts localNodeId [] [] node reached := by
  refine ⟨permitted, by simpa using incoming, fun relay => ?_, by simpa using drops, by simpa using left⟩
  have counted := moved.count_eq relay
  simp only [List.count_append] at counted
  simp only [awaiting, waits, List.count_append, List.filterMap_nil, List.count_nil]
  omega

theorem RelayMove.of_same (permitted : Permitted maxAttempts localNodeId node)
    (known : reached.localNodeId = node.localNodeId) (commands : reached.commands = node.commands)
    (relays : reached.relays = node.relays) (waits : reached.awaitingPermit = node.awaitingPermit)
    (incoming : reached.incoming = node.incoming)
    (relayDrops : reached.relayDrops = node.relayDrops) :
    RelayMove maxAttempts localNodeId [] [] node reached := by
  have same : inFlight reached = inFlight node := by rw [inFlight, inFlight, commands, relays]
  refine .of_perm ⟨known.trans permitted.localNodeId, ?_, ?_, ?_, ?_⟩ incoming waits ?_
    (fun _ => relayDrops) fun relay => ?_
  · exact same ▸ permitted.permits
  · exact relays ▸ permitted.waiting
  · exact commands ▸ permitted.attempts
  · exact waits ▸ permitted.fresh
  · rw [same, relayDrops]
  · simp [attemptsLeft, commands, relays, waits]

theorem inFlight_requested (node : ServiceNode π) (toNodeId : NodeId) (payload : List UInt8) :
    inFlight { node with commands := node.commands ++ [⟨toNodeId, payload, none⟩] } =
      inFlight node := by
  simp [inFlight]

theorem relayMove_send (permitted : Permitted maxAttempts localNodeId node)
    {destinationNodeId : NodeId} {payload : List UInt8}
    (sent : node.send destinationNodeId payload = some reached) :
    RelayMove maxAttempts localNodeId [] [] node reached := by
  obtain rfl := clientSend_eq_some sent
  refine .of_perm ⟨permitted.localNodeId, ?_, permitted.waiting, ?_, permitted.fresh⟩ rfl rfl ?_
    (fun _ => rfl) fun relay => ?_
  · rw [inFlight_requested]
    exact permitted.permits
  · intro request member task relays
    rcases List.mem_append.mp member with earlier | new
    · exact permitted.attempts request earlier task relays
    · obtain rfl := List.mem_singleton.mp new
      cases relays
  · rw [inFlight_requested]
  · simp [attemptsLeft]

/-- The reply to an attempt ends the relay or leaves it waiting for the next one. -/
theorem replied_relay (node : ServiceNode π) {task : RelayTask} (allowed : task.attempt < maxAttempts)
    (result : Except BleClientError JacquardBleSendReceipt) :
    ∃ waiting : List RelayTask,
      node.replied maxAttempts (some task) result =
        { node with
          relays := node.relays ++ waiting
          relayDrops := node.relayDrops ++
            [AttemptReply.mk task result].filterMap (AttemptReply.gaveUp maxAttempts) } ∧
      waiting.map RelayTask.relay ++
          [AttemptReply.mk task result].filterMap (AttemptReply.gaveUp maxAttempts) ++
          [AttemptReply.mk task result].filterMap AttemptReply.forwarded = [task.relay] ∧
      (∀ next ∈ waiting, next.attempt < maxAttempts) ∧
      ∀ relay, (waiting.map (attemptsOf maxAttempts relay)).sum +
          [AttemptReply.mk task result].countP (·.task.relay = relay) ≤
        attemptsOf maxAttempts relay task := by
  cases result with
  | ok receipt =>
      have kept : AttemptReply.gaveUp maxAttempts ⟨task, .ok receipt⟩ = none := rfl
      refine ⟨[], ?_, rfl, nofun, fun relay => ?_⟩
      · simp only [ServiceNode.replied, List.filterMap_cons, kept, List.filterMap_nil, List.append_nil]
      · simp only [List.map_nil, List.sum_nil, List.countP_singleton, attemptsOf, decide_eq_true_eq]
        split <;> omega
  | error error =>
      by_cases retry : (relayRetryable error && task.attempt + 1 < maxAttempts) = true
      · have more : task.attempt + 1 < maxAttempts :=
          of_decide_eq_true (Bool.and_eq_true_iff.mp retry).2
        have kept : AttemptReply.gaveUp maxAttempts ⟨task, .error error⟩ = none := if_pos retry
        refine ⟨[{ task with attempt := task.attempt + 1 }], ?_, ?_, by simpa using more,
          fun relay => ?_⟩
        · simp only [ServiceNode.replied, if_pos retry, List.filterMap_cons, kept, List.filterMap_nil,
            List.append_nil]
        · simp only [List.filterMap_cons, kept, List.filterMap_nil]
          rfl
        · simp only [List.map_cons, List.map_nil, List.sum_cons, List.sum_nil, List.countP_singleton,
            attemptsOf, decide_eq_true_eq]
          split <;> omega
      · have dropped : AttemptReply.gaveUp maxAttempts ⟨task, .error error⟩ = some task.relay :=
          if_neg retry
        refine ⟨[], ?_, ?_, nofun, fun relay => ?_⟩
        · simp only [ServiceNode.replied, if_neg retry, List.filterMap_cons, dropped, List.filterMap_nil,
            List.append_nil]
        · simp only [List.filterMap_cons, dropped, List.filterMap_nil]
          rfl
        · simp only [List.map_nil, List.sum_nil, List.countP_singleton, attemptsOf, decide_eq_true_eq]
          split <;> omega

theorem relayMove_replied (permitted : Permitted maxAttempts localNodeId node) {request : SendRequest}
    {rest : List SendRequest} (commands : node.commands = request :: rest) {client : ClientTask π}
    (known : client.localNodeId = node.client.localNodeId)
    (result : Except BleClientError JacquardBleSendReceipt) :
    RelayMove maxAttempts localNodeId [] ((request.relay.map fun task => ⟨task, result⟩).toList) node
      (({ node with commands := rest }.receive client).replied maxAttempts request.relay result) := by
  obtain ⟨own, permits, waits, attempts, fresh⟩ := permitted
  have others : ∀ other ∈ rest, ∀ task, other.relay = some task → task.attempt < maxAttempts :=
    fun other member => attempts other (by simp [commands, member])
  have now := attempts request (by simp [commands])
  cases relay : request.relay with
  | none =>
      refine ⟨⟨known.trans own, ?_, waits, others, fresh⟩, by simp [ServiceNode.replied, ServiceNode.receive],
        ?_, fun _ => by simp [ServiceNode.replied, ServiceNode.receive], ?_⟩
      · simpa [inFlight, commands, relay, ServiceNode.replied, ServiceNode.receive] using permits
      · simp [awaiting, inFlight, commands, relay, ServiceNode.replied, ServiceNode.receive]
      · simp [attemptsLeft, commands, relay, ServiceNode.replied, ServiceNode.receive]
  | some task =>
      obtain ⟨waiting, equal, ended, more, left⟩ :=
        replied_relay ({ node with commands := rest }.receive client) (now task relay) result
      have single := congrArg List.length ended
      simp only [List.length_append, List.length_map, List.length_singleton] at single
      simp only [inFlight, commands, List.filterMap_cons, relay, Option.map_some, List.length_append,
        List.length_map, List.length_cons] at permits
      rw [equal]
      refine ⟨⟨known.trans own, ?_, fun positive next member => ?_, others, fresh⟩,
        by simp [ServiceNode.receive], fun other => ?_, fun _ => rfl, fun other => ?_⟩
      · simp only [inFlight, ServiceNode.receive, List.map_append, List.length_append, List.length_map]
        omega
      · rcases List.mem_append.mp member with earlier | new
        · exact waits positive next earlier
        · exact more next new
      · have counted := congrArg (List.count other) ended
        simp only [List.count_append] at counted
        simp only [awaiting, inFlight, commands, relay, ServiceNode.receive, List.map_append,
          List.count_append, List.filterMap_cons, Option.map_some, List.count_cons, List.filterMap_nil, List.count_nil,
          Option.toList_some] at counted ⊢
        omega
      · have paid := left other
        simp only [attemptsLeft, commands, relay, ServiceNode.receive, List.map_append, List.sum_append,
          List.map_cons, List.sum_cons, Option.elim_some, Option.map_some, Option.toList_some]
        omega

theorem attemptsOf_new (relay pair : JacquardRelayDrop) (payload : List UInt8) :
    attemptsOf maxAttempts relay ⟨pair, payload, 0⟩ = maxAttempts * [pair].count relay := by
  rw [attemptsOf, List.count_singleton]
  by_cases same : pair = relay
  · simp [same]
  · simp [same]

theorem relayMove_started (permitted : Permitted maxAttempts localNodeId node) {task : RelayTask}
    (held : node.awaitingPermit = some task) (room : node.relayInflight < relayInflightMax) :
    RelayMove maxAttempts localNodeId [] [] node
      { node with awaitingPermit := none, relays := node.relays ++ [task] } := by
  obtain ⟨own, permits, waits, attempts, fresh⟩ := permitted
  rw [← length_inFlight] at room
  refine ⟨⟨own, ?_, fun positive other member => ?_, attempts, nofun⟩, by simp, fun relay => ?_,
    fun _ => by simp, fun relay => ?_⟩
  · simp only [inFlight, List.map_append, List.length_append, List.length_map,
      List.length_singleton] at room ⊢
    omega
  · rcases List.mem_append.mp member with earlier | new
    · exact waits positive other earlier
    · obtain rfl := List.mem_singleton.mp new
      exact fresh _ held ▸ positive
  · simp only [awaiting, held, inFlight, List.map_append, List.count_append, List.map_cons,
      List.map_nil, Option.map_some, Option.map_none, Option.toList_some, Option.toList_none,
      List.count_nil, List.filterMap_nil]
    omega
  · simp only [attemptsLeft, held, List.map_append, List.sum_append, List.map_cons, List.map_nil,
      List.sum_cons, List.sum_nil, Option.elim_some, Option.elim_none, List.countP_nil,
      List.filterMap_nil, List.count_nil]
    omega

theorem relayMove_pump (permitted : Permitted maxAttempts localNodeId node)
    (taken : node.pump = some reached) :
    RelayMove maxAttempts localNodeId (pumped node .pump) [] node reached := by
  unfold ServiceNode.pump at taken
  dsimp only at taken
  split at taken
  · rename_i task held
    have nothing : pumped node .pump = [] := by simp only [pumped, held]
    split_ifs at taken with room
    obtain rfl := Option.some.inj taken
    rw [nothing]
    exact relayMove_started permitted held room
  · rename_i transportFromNodeId payload rest idle subscribed
    obtain ⟨own, permits, waits, attempts, fresh⟩ := permitted
    have items : pumped node .pump = [(transportFromNodeId, payload)] := by
      simp only [pumped, idle, subscribed, Option.getD_some, List.take_succ_cons, List.take_zero]
    rw [items]
    split at taken
    · rename_i unframed
      obtain rfl := Option.some.inj taken
      refine ⟨⟨own, permits, waits, attempts, fresh⟩, ?_, fun relay => ?_, fun _ => by simp, ?_⟩
      · simp [surfacedOf, unframed]
      · simp [relayedOf, unframed, inFlight, awaiting]
      · simp [relayedOf, unframed, attemptsLeft]
    · rename_i frame decoded
      rw [own] at taken
      split_ifs at taken with here
      · obtain rfl := Option.some.inj taken
        refine ⟨⟨own, permits, waits, attempts, fresh⟩, ?_, fun relay => ?_, fun _ => by simp, ?_⟩
        · simp [surfacedOf, decoded, here]
        · simp [relayedOf, decoded, here, inFlight, awaiting]
        · simp [relayedOf, decoded, here, attemptsLeft]
      · obtain rfl := Option.some.inj taken
        refine ⟨⟨own, permits, waits, attempts, ?_⟩, ?_, fun relay => ?_, fun _ => by simp,
          fun relay => ?_⟩
        · rintro task ⟨⟩
          rfl
        · simp [surfacedOf, decoded, here]
        · simp only [relayedOf, decoded, if_neg here, awaiting, idle, inFlight, List.count_append,
            List.filterMap_cons, List.filterMap_nil, Option.map_some, Option.map_none,
            Option.toList_some, Option.toList_none, List.count_nil]
          omega
        · simp only [relayedOf, decoded, if_neg here, attemptsLeft, idle, Option.elim_some,
            Option.elim_none, List.filterMap_cons, List.filterMap_nil, List.countP_nil,
            attemptsOf_new]
          omega
  · cases taken

/-- A relay makes its next attempt or, if the policy allows none at all, is dropped. -/
theorem relayMove_attempt (permitted : Permitted maxAttempts localNodeId node) {position : Nat}
    (taken : node.relayAttempt maxAttempts position = some reached) :
    RelayMove maxAttempts localNodeId [] [] node reached := by
  unfold ServiceNode.relayAttempt at taken
  split at taken
  · cases taken
  · rename_i task found
    have erased : node.relays.Perm (task :: node.relays.eraseIdx position) := by
      obtain ⟨bound, same⟩ := List.getElem?_eq_some_iff.mp found
      exact same ▸ (List.getElem_cons_eraseIdx_perm bound).symm
    have flight : (inFlight node).Perm (task.relay ::
        inFlight { node with relays := node.relays.eraseIdx position }) :=
      (erased.map RelayTask.relay).append_right _
    have left (relay : JacquardRelayDrop) : attemptsLeft maxAttempts relay node =
        attemptsOf maxAttempts relay task +
          attemptsLeft maxAttempts relay { node with relays := node.relays.eraseIdx position } := by
      have summed := (erased.map (attemptsOf maxAttempts relay)).sum_nat
      simp only [List.map_cons, List.sum_cons] at summed
      simp only [attemptsLeft]
      omega
    obtain ⟨own, permits, waits, attempts, fresh⟩ := permitted
    have stillWaits : 0 < maxAttempts → ∀ other ∈ node.relays.eraseIdx position,
        other.attempt < maxAttempts :=
      fun positive other member => waits positive other (List.mem_of_mem_eraseIdx member)
    rw [flight.length_eq, List.length_cons] at permits
    dsimp only at taken
    split_ifs at taken with allowed
    · obtain rfl := clientSend_eq_some taken
      have moved : (inFlight { node with
          relays := node.relays.eraseIdx position
          commands := node.commands ++
            [⟨task.relay.destinationNodeId, encodeClientPayload task.payload, some task⟩] }).Perm
          (inFlight node) := by
        refine List.Perm.trans ?_ flight.symm
        simp only [inFlight, List.filterMap_append]
        rw [← List.append_assoc]
        exact List.perm_append_singleton _ _
      refine .of_perm ⟨own, ?_, stillWaits, ?_, fresh⟩ rfl rfl (moved.append_right _) (fun _ => rfl)
        fun relay => ?_
      · rw [moved.length_eq, flight.length_eq, List.length_cons]
        exact permits
      · intro request member waiting relays
        rcases List.mem_append.mp member with earlier | new
        · exact attempts request earlier waiting relays
        · obtain rfl := List.mem_singleton.mp new
          obtain rfl := Option.some.inj relays
          exact allowed
      · rw [left]
        simp only [attemptsLeft, List.map_append, List.sum_append, List.map_cons, List.map_nil,
          List.sum_cons, List.sum_nil, Option.elim_some]
        omega
    · obtain rfl := Option.some.inj taken
      refine .of_perm ⟨own, ?_, stillWaits, attempts, fresh⟩ rfl rfl ?_ (fun positive => ?_)
        fun relay => ?_
      · exact Nat.le_of_succ_le permits
      · refine List.Perm.trans ?_ (flight.append_right _).symm
        simp only [inFlight]
        rw [← List.append_assoc]
        exact List.perm_append_singleton _ _
      · exact absurd (waits positive task (List.mem_of_getElem? found)) allowed
      · rw [left]
        exact Nat.le_add_left _ _

variable [HostTopologyProjector π]

theorem relayMove_next (permitted : Permitted maxAttempts localNodeId node)
    (taken : node.next host maxAttempts step = some reached) :
    RelayMove maxAttempts localNodeId (pumped node step) (attemptReplies host node step) node
      reached := by
  cases step with
  | send destinationNodeId payload => exact relayMove_send permitted taken
  | handleCommand answers =>
      unfold ServiceNode.next ServiceNode.handleCommand at taken
      dsimp only at taken
      split at taken
      · cases taken
      · rename_i request rest commands
        obtain rfl := Option.some.inj taken
        simp only [pumped, attemptReplies, commands]
        exact relayMove_replied permitted commands (step_settings ..).1 _
  | bridgeRound rounds =>
      obtain rfl := Option.some.inj taken
      exact .of_same permitted (step_settings host node.client (.bridgeRound rounds)).1
        rfl rfl rfl rfl rfl
  | subscribe =>
      unfold ServiceNode.next at taken
      dsimp only at taken
      split at taken
      · cases taken
      · obtain rfl := Option.some.inj taken
        exact .of_same permitted rfl rfl rfl rfl rfl rfl
  | pump => exact relayMove_pump permitted taken
  | relayAttempt position => exact relayMove_attempt permitted taken

theorem silent_of_disabled (disabled : node.next host maxAttempts step = none) :
    pumped node step = [] ∧ attemptReplies host node step = [] := by
  cases step with
  | pump =>
      refine ⟨?_, rfl⟩
      unfold ServiceNode.next ServiceNode.pump at disabled
      dsimp only at disabled
      split at disabled
      · rename_i task held
        simp only [pumped, held]
      · split at disabled
        · cases disabled
        · split at disabled <;> cases disabled
      · rename_i held empty
        cases subscribed : node.transportIncoming with
        | none => simp only [pumped, held, subscribed, Option.getD_none, List.take_nil]
        | some received =>
            cases received with
            | nil => simp only [pumped, held, subscribed, Option.getD_some, List.take_nil]
            | cons item rest => exact absurd subscribed (empty item.1 item.2 rest)
  | handleCommand answers =>
      unfold ServiceNode.next ServiceNode.handleCommand at disabled
      dsimp only at disabled
      split at disabled
      · rename_i commands
        exact ⟨rfl, by simp only [attemptReplies, commands]⟩
      · cases disabled
  | send destinationNodeId payload => exact ⟨rfl, rfl⟩
  | bridgeRound rounds => exact ⟨rfl, rfl⟩
  | subscribe => exact ⟨rfl, rfl⟩
  | relayAttempt position => exact ⟨rfl, rfl⟩

theorem relayMove_step (host : ClientHost) (permitted : Permitted maxAttempts localNodeId node)
    (step : ServiceStep) :
    RelayMove maxAttempts localNodeId (pumped node step) (attemptReplies host node step) node
      (node.step host maxAttempts step) := by
  refine attempt_cases (P := fun after => RelayMove maxAttempts localNodeId (pumped node step)
    (attemptReplies host node step) node after) (fun disabled => ?_)
    fun reached taken => relayMove_next permitted taken
  obtain ⟨noItem, noReply⟩ := silent_of_disabled disabled
  rw [noItem, noReply]
  exact .of_same permitted rfl rfl rfl rfl rfl rfl

theorem proceeds_of_inFlight (host : ClientHost) (maxAttempts : Nat)
    (waiting : 0 < (inFlight node).length) :
    (node.relayAttempt maxAttempts 0).isSome ∨
      ∀ answers, (node.handleCommand host maxAttempts answers).isSome := by
  cases commands : node.commands with
  | cons request rest =>
      refine Or.inr fun answers => ?_
      simp only [ServiceNode.handleCommand, commands, Option.isSome_some]
  | nil =>
      left
      cases relays : node.relays with
      | nil => simp [inFlight, commands, relays] at waiting
      | cons task rest =>
          simp only [ServiceNode.relayAttempt, relays, List.getElem?_cons_zero]
          split
          · simp [ServiceNode.clientSend, commands, defaultClientCommandCapacity]
          · rfl

omit [HostTopologyProjector π] in
theorem proceeds_of_awaiting (waits : awaiting node ≠ [])
    (room : (inFlight node).length < relayInflightMax) : node.pump.isSome := by
  rw [length_inFlight] at room
  cases held : node.awaitingPermit with
  | none => simp [awaiting, held] at waits
  | some task => simp only [ServiceNode.pump, held, if_pos room, Option.isSome_some]

end Steps

/-! ## Runs -/

section Runs
variable {π : Type}

theorem permitted_start (maxAttempts : Nat) (client : ClientTask π) :
    Permitted maxAttempts client.localNodeId (ServiceNode.fromSharedClient client) :=
  ⟨rfl, Nat.zero_le _, nofun, nofun, nofun⟩

variable [HostTopologyProjector π]

end Runs

end JqBle.Proof.Demo
