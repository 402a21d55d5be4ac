import JqBle.Proof.Client.RouteCache

/-!
# What a client publishes, and what panics it

Between its rounds a client holds no observation, so what a round publishes it has drained itself. Its
thread panics only in a round that has drained a payload which is too short to slice.
-/

namespace JqBle.Proof.Client
open Std Host Library Execution JqBle.LinkProfile JqBle.NodeProfile JqBle.Client

variable {π : Type} {host : ClientHost} {task : ClientTask π} {round : ClientRound}
  {rounds : ClientRounds}

/-- The payloads that a round takes from the transport, each with the node it came from. -/
def payloadsOf (round : ClientRound) : List (NodeId × List UInt8) :=
  match round.drainRawIngress with
  | .error _ => []
  | .ok rawEvents => rawEvents.filterMap fun event =>
      match event with
      | .payloadReceived fromNodeId _ payload => some (fromNodeId, payload)
      | .linkObserved .. => none

def Broadcasts (round : ClientRound) (item : NodeId × List UInt8) : Prop :=
  ∃ payload, (item.1, payload) ∈ payloadsOf round ∧ decodeClientPayload payload = .ok (some item.2)

def Sliceable (round : ClientRound) : Prop :=
  ∀ item ∈ payloadsOf round, clientPayloadMagic.length ≤ item.2.length

/-! ## Unframing -/

theorem not_sliceable_of_error {payload : List UInt8} {panic : ClientPanic}
    (panics : decodeClientPayload payload = .error panic) :
    payload.length < clientPayloadMagic.length := by
  unfold decodeClientPayload at panics
  split at panics
  · assumption
  · split at panics <;> cases panics

theorem mem_incomingPayloads {observations : List TransportObservation}
    {item : NodeId × List UInt8} (broadcast : item ∈ (incomingPayloads observations).1) :
    ∃ endpoint payload tick, .payloadReceived item.1 endpoint payload tick ∈ observations ∧
      decodeClientPayload payload = .ok (some item.2) := by
  induction observations using incomingPayloads.induct with
  | case1 => cases broadcast
  | case2 remoteNodeId observation rest ih =>
      obtain ⟨endpoint, payload, tick, member, decodes⟩ := ih broadcast
      exact ⟨endpoint, payload, tick, List.mem_cons_of_mem _ member, decodes⟩
  | case3 fromNodeId endpoint payload tick rest panic decodes =>
      simp [incomingPayloads, decodes] at broadcast
  | case4 fromNodeId endpoint payload tick rest decodes ih =>
      simp only [incomingPayloads, decodes] at broadcast
      obtain ⟨endpoint, payload, tick, member, decodes⟩ := ih broadcast
      exact ⟨endpoint, payload, tick, List.mem_cons_of_mem _ member, decodes⟩
  | case5 fromNodeId endpoint payload tick rest unframed decodes ih =>
      simp only [incomingPayloads, decodes, List.mem_cons] at broadcast
      rcases broadcast with rfl | later
      · exact ⟨endpoint, payload, tick, List.mem_cons_self, decodes⟩
      · obtain ⟨endpoint, payload, tick, member, decodes⟩ := ih later
        exact ⟨endpoint, payload, tick, List.mem_cons_of_mem _ member, decodes⟩

theorem short_of_incomingPayloads {observations : List TransportObservation}
    (panics : (incomingPayloads observations).2 = true) :
    ∃ fromNodeId endpoint payload tick,
      .payloadReceived fromNodeId endpoint payload tick ∈ observations ∧
        payload.length < clientPayloadMagic.length := by
  induction observations using incomingPayloads.induct with
  | case1 => cases panics
  | case2 remoteNodeId observation rest ih =>
      obtain ⟨fromNodeId, endpoint, payload, tick, member, short⟩ := ih panics
      exact ⟨fromNodeId, endpoint, payload, tick, List.mem_cons_of_mem _ member, short⟩
  | case3 fromNodeId endpoint payload tick rest panic decodes =>
      exact ⟨fromNodeId, endpoint, payload, tick, List.mem_cons_self, not_sliceable_of_error decodes⟩
  | case4 _ _ _ _ rest decodes ih | case5 _ _ _ _ rest unframed decodes ih =>
      simp only [incomingPayloads, decodes] at panics
      obtain ⟨fromNodeId, endpoint, payload, tick, member, short⟩ := ih panics
      exact ⟨fromNodeId, endpoint, payload, tick, List.mem_cons_of_mem _ member, short⟩

/-! ## A round -/

theorem payload_of_observed {shape : CastShaping} {localNodeId fromNodeId : NodeId}
    {event : TransportIngressEvent} {endpoint : LinkEndpoint} {payload : List UInt8} {tick : Tick}
    (observed : ObservedOf shape localNodeId event (.payloadReceived fromNodeId endpoint payload tick)) :
    event = .payloadReceived fromNodeId endpoint payload := by
  obtain ⟨observedAt, order, equal⟩ := observed
  cases event with
  | payloadReceived sender receivedAt value =>
      cases equal
      rfl
  | linkObserved remoteNodeId link sourceClass evidenceClass origin =>
      unfold linkObservationFromBleEvent at equal
      dsimp only at equal
      split at equal
      · cases equal
      · cases equal

theorem idle_advanceRound {after : ClientTask π} {result : Except BleBridgeError BleBridgeProgress}
    (idle : Idle task.bridge) (driven : task.advanceRound host round = (after, result)) :
    Idle after.bridge := by
  obtain rfl : _ = after := congrArg Prod.fst driven
  exact idle.advanceRound host.shape _

theorem mem_payloadsOf_of_staged {observations : List StagedObservation} (idle : Idle task.bridge)
    (staged : task.staged host round = .ok observations) {fromNodeId : NodeId}
    {endpoint : LinkEndpoint} {payload : List UInt8} {tick : Tick}
    (member : .payloadReceived fromNodeId endpoint payload tick ∈
      observations.map StagedObservation.observation) :
    (fromNodeId, payload) ∈ payloadsOf round := by
  obtain ⟨rawEvents, drained, observed⟩ := observedOf_reported idle staged
  obtain ⟨reported, ingests, equal⟩ := List.mem_map.mp member
  obtain ⟨event, raw, observes⟩ := observed reported ingests
  rw [equal] at observes
  obtain rfl := payload_of_observed observes
  rw [payloadsOf, drained]
  exact List.mem_filterMap.mpr ⟨_, raw, rfl⟩

variable [HostTopologyProjector π]

theorem published_applyBridgeReport (host : ClientHost) (task : ClientTask π)
    (report : BleBridgeRoundReport) :
    let published := task.publishIncoming
      (report.ingestedTransportObservations.map StagedObservation.observation)
    (task.applyBridgeReport host report).1.incoming = published.incoming ∧
      (task.applyBridgeReport host report).1.panicked = published.panicked := by
  have same (observations : List TransportObservation) (ingesting : ClientTask π × Bool) :
      let ingested := observations.foldl (ClientTask.ingestObservation host) ingesting
      ingested.1.incoming = ingesting.1.incoming ∧ ingested.1.panicked = ingesting.1.panicked := by
    induction observations generalizing ingesting with
    | nil => exact ⟨rfl, rfl⟩
    | cons observation rest ih =>
        obtain ⟨incoming, panicked⟩ := ih (ClientTask.ingestObservation host ingesting observation)
        rw [List.foldl_cons]
        refine ⟨incoming.trans ?_, panicked.trans ?_⟩
        · unfold ClientTask.ingestObservation
          dsimp only
          split <;> rfl
        · unfold ClientTask.ingestObservation
          dsimp only
          split <;> rfl
  obtain ⟨incoming, panicked⟩ := same
    (report.ingestedTransportObservations.map StagedObservation.observation) (task, false)
  unfold ClientTask.applyBridgeReport ClientTask.publishIncoming
  dsimp only
  split
  · rw [incoming, panicked]
    exact ⟨rfl, rfl⟩
  · rw [incoming, panicked]
    exact ⟨rfl, rfl⟩

/-- What a client has published since is from the rounds, and it has panicked only if they have drained
a payload that cannot be sliced. -/
structure PublishedOf (among : ClientRound → Prop) (task reached : ClientTask π) : Prop where
  incoming : ∀ item ∈ reached.incoming,
    item ∈ task.incoming ∨ ∃ round, among round ∧ Broadcasts round item
  panicked : reached.panicked = true →
    task.panicked = true ∨ ∃ round, among round ∧ ¬ Sliceable round

variable {among : ClientRound → Prop}

omit [HostTopologyProjector π] in
theorem PublishedOf.of_same {reached : ClientTask π}
    (incoming : reached.incoming = task.incoming) (panicked : reached.panicked = task.panicked) :
    PublishedOf among task reached where
  incoming _ member := Or.inl (incoming ▸ member)
  panicked panics := Or.inl (panicked ▸ panics)

omit [HostTopologyProjector π] in
theorem PublishedOf.trans {between reached : ClientTask π} (first : PublishedOf among task between) (second : PublishedOf among between reached) :
    PublishedOf among task reached where
  incoming item member := (second.incoming item member).elim (first.incoming item) Or.inr
  panicked panics := (second.panicked panics).elim first.panicked Or.inr

omit [HostTopologyProjector π] in
theorem PublishedOf.mono {reached : ClientTask π} {also : ClientRound → Prop}
    (published : PublishedOf among task reached) (within : ∀ round, among round → also round) :
    PublishedOf also task reached where
  incoming item member := (published.incoming item member).imp_right
    fun ⟨round, own, broadcasts⟩ => ⟨round, within round own, broadcasts⟩
  panicked panics := (published.panicked panics).imp_right
    fun ⟨round, own, short⟩ => ⟨round, within round own, short⟩

theorem publishedOf_applied {after : ClientTask π} {progress : BleBridgeProgress}
    (own : task.panicked = false → among round) (idle : Idle task.bridge)
    (driven : task.advanceRound host round = (after, .ok progress)) :
    PublishedOf among task (after.applyBridgeProgress host progress).1 := by
  cases roundEffect_of driven with
  | waiting bridge state reached empty => exact .of_same rfl rfl
  | advanced bridge report reached carried outcome staged =>
      obtain ⟨incoming, panicked⟩ := published_applyBridgeReport host
        { task with bridge := bridge, outbound := task.outbound.flush round.dispatch } report
      refine ⟨fun _ member => ?_, fun panics => ?_⟩
      · rw [ClientTask.applyBridgeProgress, incoming] at member
        simp only [ClientTask.publishIncoming] at member
        split at member
        · exact Or.inl member
        · rename_i calm
          rcases List.mem_append.mp member with earlier | new
          · exact Or.inl earlier
          · obtain ⟨endpoint, payload, tick, observed, decodes⟩ := mem_incomingPayloads new
            exact Or.inr ⟨round, own (Bool.eq_false_iff.mpr calm), payload,
              mem_payloadsOf_of_staged idle staged observed, decodes⟩
      · rw [ClientTask.applyBridgeProgress, panicked] at panics
        by_cases earlier : task.panicked = true
        · exact Or.inl earlier
        · have now := (Bool.or_eq_true_iff.mp panics).resolve_left earlier
          obtain ⟨fromNodeId, endpoint, payload, tick, observed, short⟩ := short_of_incomingPayloads now
          refine Or.inr ⟨round, own (Bool.eq_false_iff.mpr earlier), fun sliceable => ?_⟩
          have long := sliceable _ (mem_payloadsOf_of_staged idle staged observed)
          exact absurd short (Nat.not_lt.mpr long)

/-! ## A step -/

/-- The rounds that are driven: the first one, and the follow-up that it asks for. -/
inductive Drives (host : ClientHost) (task : ClientTask π) (rounds : ClientRounds) :
    ClientRound → Prop
  | first (calm : task.panicked = false) : Drives host task rounds rounds.first
  | followUp (after : ClientTask π) (progress : BleBridgeProgress)
      (driven : task.advanceRound host rounds.first = (after, .ok progress))
      (follows : ClientTask.runsFollowUp progress = true)
      (calm : (after.applyBridgeProgress host progress).1.panicked = false) :
      Drives host task rounds rounds.followUp

theorem Drives.one_of (drives : Drives host task rounds round) :
    round = rounds.first ∨ round = rounds.followUp := by
  cases drives with
  | first => exact Or.inl rfl
  | followUp => exact Or.inr rfl

def DrivenBy (host : ClientHost) (task : ClientTask π) : ClientInput → ClientRound → Prop
  | .bridgeRound rounds, round => Drives host task rounds round
  | .command command answers, round => ∃ queued changed reply,
      Queues host task answers command queued changed reply ∧ Drives host queued answers.rounds round

theorem idle_driveBridgeRound (idle : Idle task.bridge) (rounds : ClientRounds) :
    Idle (task.driveBridgeRound host rounds).1.bridge := by
  refine driveBridgeRound_induction (P := fun task : ClientTask π => Idle task.bridge) host task
    rounds idle idle_advanceRound ?_ fun before idle => idle
  intro before progress idle
  rw [(kept_applyBridgeProgress host before progress).bridge]
  exact idle

theorem publishedOf_driveBridgeRound (host : ClientHost) (idle : Idle task.bridge)
    (rounds : ClientRounds) :
    PublishedOf (Drives host task rounds) task (task.driveBridgeRound host rounds).1 := by
  have effect := driveEffect host task rounds
  generalize task.driveBridgeRound host rounds = outcome at effect ⊢
  obtain ⟨last, result⟩ := outcome
  simp only at effect ⊢
  have driven {before after : ClientTask π} {round : ClientRound}
      {result : Except BleBridgeError BleBridgeProgress}
      (driven : before.advanceRound host round = (after, result)) :
      PublishedOf (Drives host task rounds) before after := by
    obtain ⟨bridge, outbound, rfl⟩ := (roundEffect_of driven).frame
    exact .of_same rfl rfl
  have published (before : ClientTask π) (changed : Bool) :
      PublishedOf (Drives host task rounds) before
        (if changed then before.publishTopology else before) := by
    cases changed <;> exact .of_same rfl rfl
  cases effect with
  | failed _ error first => exact driven first
  | single after progress first alone =>
      exact (publishedOf_applied .first idle first).trans (published _ _)
  | followUpFailed after _ progress error first follows second =>
      exact (publishedOf_applied .first idle first).trans (driven second)
  | followedUp after last progress next first follows second =>
      have between : Idle (after.applyBridgeProgress host progress).1.bridge := by
        rw [(kept_applyBridgeProgress host after progress).bridge]
        exact idle_advanceRound idle first
      exact ((publishedOf_applied .first idle first).trans
        (publishedOf_applied (.followUp after progress first follows) between second)).trans (published _ _)

theorem publishedOf_handle (host : ClientHost) (idle : Idle task.bridge) (input : ClientInput) :
    Idle (task.handle host input).bridge ∧
      PublishedOf (DrivenBy host task input) task (task.handle host input) := by
  cases input with
  | bridgeRound rounds =>
      exact ⟨idle_driveBridgeRound idle rounds, publishedOf_driveBridgeRound host idle rounds⟩
  | command command answers =>
      -- The command is refused, or the bridge is driven with what it has queued.
      have handles := handled host task answers command
      simp only [ClientTask.handle]
      generalize task.handleCommand host answers command = outcome at handles ⊢
      obtain ⟨reached, result⟩ := outcome
      dsimp only at handles ⊢
      have queue {queued : ClientTask π} {changed : Bool} {reply : ClientReply}
          (queues : Queues host task answers command queued changed reply) :
          Idle (queued.driveBridgeRound host answers.rounds).1.bridge ∧
            PublishedOf (DrivenBy host task (.command command answers)) task
              (queued.driveBridgeRound host answers.rounds).1 := by
        have idleQueued : Idle queued.bridge := queues.bridge ▸ idle
        have same : queued.incoming = task.incoming ∧ queued.panicked = task.panicked := by
          cases queues <;> exact ⟨rfl, rfl⟩
        have driven : PublishedOf (DrivenBy host task (.command command answers)) queued _ :=
          (publishedOf_driveBridgeRound host idleQueued answers.rounds).mono
            fun round drives => ⟨queued, changed, reply, queues, drives⟩
        exact ⟨idle_driveBridgeRound idleQueued _, (PublishedOf.of_same same.1 same.2).trans driven⟩
      cases handles with
      | refused _ error unqueued refused =>
          exact ⟨refused.bridge ▸ idle, .of_same refused.incoming refused.panicked⟩
      | failed queued _ changed reply error queues driven =>
          have drives := queue queues
          rw [driven] at drives
          exact drives
      | replied queued after changed reply progress queues driven =>
          have drives := queue queues
          rw [driven] at drives
          cases changed with
          | false => exact drives
          | true => exact ⟨drives.1, drives.2.trans (.of_same rfl rfl)⟩

/-! ## Panics -/

omit [HostTopologyProjector π] in
theorem settle_of_returned {after : ClientTask π} (returned : after.panicked = false) :
    task.settle after = after := by
  unfold ClientTask.settle
  rw [if_neg (Bool.eq_false_iff.mp returned)]

omit [HostTopologyProjector π] in
theorem panicked_settle {after : ClientTask π} (panics : after.panicked = true) :
    (task.settle after).panicked = true := by
  unfold ClientTask.settle
  rw [if_pos panics]

theorem step_of_calm (calm : task.panicked = false) (input : ClientInput) :
    task.step host input = task.settle (task.handle host input) := by
  unfold ClientTask.step
  rw [if_neg (Bool.eq_false_iff.mp calm)]

theorem publishedOf_step (host : ClientHost) (idle : Idle task.bridge) (input : ClientInput) :
    Idle (task.step host input).bridge ∧
      PublishedOf (DrivenBy host task input) task (task.step host input) := by
  obtain ⟨next, published⟩ := publishedOf_handle host idle input
  unfold ClientTask.step ClientTask.settle
  split
  · exact ⟨idle, .of_same rfl rfl⟩
  · split
    · rename_i panics
      exact ⟨idle, published.incoming, fun _ => published.panicked panics⟩
    · exact ⟨next, published⟩

/-- No round that the step drives has drained a payload that cannot be sliced. -/
def DrainsSliceable (host : ClientHost) (task : ClientTask π) (input : ClientInput) : Prop :=
  ∀ round, DrivenBy host task input round → Sliceable round

theorem calm_of_sliceable (idle : Idle task.bridge) (calm : task.panicked = false)
    {inputs : List ClientInput}
    (sliceable : Meets (ClientTask.step host) (DrainsSliceable host) task inputs) :
    (exec (ClientTask.step host) task inputs).panicked = false := by
  refine (exec_invariant (P := fun task : ClientTask π => Idle task.bridge ∧ task.panicked = false)
    ⟨idle, calm⟩ ?_ sliceable).2
  rintro task input ⟨idle, calm⟩ sliceable
  obtain ⟨next, published⟩ := publishedOf_step host idle input
  refine ⟨next, Bool.eq_false_iff.mpr fun panics => ?_⟩
  rcases published.panicked panics with earlier | ⟨round, driven, short⟩
  · rw [calm] at earlier
    cases earlier
  · exact short (sliceable round driven)

end JqBle.Proof.Client
