import JqBle.Client.ShownLinks
import JqBle.Proof.Client.RouterTopology
import JqBle.Proof.LinkProfile.Fanout
import JqBle.Proof.LinkProfile.Startup

/-!
# A peer that can be reached is shown so

As long as the runtime holds a path to a node, the last link it has announced for the node is active,
whatever else it has announced before, and so is the link that the client shows once it has ingested
that.
-/

namespace JqBle.Proof.Client
open Std Host Library Execution JqBle.LinkProfile JqBle.Client JqBle.Proof.LinkProfile
open JqBle.NodeProfile ProjectedRuntime

/-! ## The paths that the runtime holds -/

section Paths
variable {δ : Type} {start before after task : BleRuntimeTask δ} {turn : Turn}
  {nodeId other : NodeId} {effect : Effect} {effects : List Effect}

def pathsOf (task : BleRuntimeTask δ) (nodeId : NodeId) : List BleSession :=
  (task.sessions[nodeId]?.map PeerSessions.iterSessions).getD []

theorem pathsOf_of_sessions (sessions : after.sessions = before.sessions) (nodeId : NodeId) :
    pathsOf after nodeId = pathsOf before nodeId := by
  unfold pathsOf
  rw [sessions]

theorem known_of_pathsOf_ne_nil (paths : pathsOf task nodeId ≠ []) :
    ∃ sessions, task.sessions[nodeId]? = some sessions ∧ sessions.iterSessions ≠ [] := by
  unfold pathsOf at paths
  cases known : task.sessions[nodeId]? with
  | none => simp [known] at paths
  | some sessions => exact ⟨sessions, rfl, by simpa [known] using paths⟩

theorem linkState_of_quiet (quiet : Quiet effect) : linkState nodeId effect = none := by
  cases effect with
  | emitControl event => cases quiet
  | _ => rfl

theorem linkState_observed (endpoint : LinkEndpoint) (state : LinkRuntimeState) :
    linkState nodeId (.emitControl (rawBleLinkEvent other endpoint state)) =
      if other = nodeId ∧ endpoint ≠ gattNotifyFanoutEndpoint then some state else none := rfl

/-- Nothing but active links is announced for the node, and one is if it had no path before. -/
structure Upholds (before : BleRuntimeTask δ) (nodeId : NodeId) (effects : List Effect) : Prop where
  active : ∀ effect ∈ effects, ∀ state, linkState nodeId effect = some state → state = .active
  announced : pathsOf before nodeId = [] → ∃ effect ∈ effects, linkState nodeId effect ≠ none

theorem Upholds.silent (silent : ∀ effect ∈ effects, linkState nodeId effect = none)
    (paths : pathsOf before nodeId ≠ []) : Upholds before nodeId effects := by
  refine ⟨?_, fun none => absurd none paths⟩
  intro effect member state announced
  rw [silent effect member] at announced
  cases announced

theorem linkState_session (session : BleSession) :
    linkState nodeId (.emitControl (rawBleLinkObservedEvent other session.endpoint)) =
      if other = nodeId then some .active else none := by
  have unicast := session.endpoint_ne_gattNotifyFanoutEndpoint
  simp [rawBleLinkObservedEvent, linkState_observed, unicast]

theorem Upholds.installed (session : BleSession) (quiet : linkState nodeId effect = none)
    (kept : nodeId ≠ other → pathsOf before nodeId ≠ []) :
    Upholds before nodeId
      [effect, .emitControl (rawBleLinkObservedEvent other session.endpoint)] := by
  constructor
  · intro effect member state announced
    rcases List.mem_pair.mp member with rfl | rfl
    · rw [quiet] at announced
      cases announced
    · rw [linkState_session] at announced
      split at announced
      · exact (Option.some.inj announced).symm
      · cases announced
  · intro none
    have same : nodeId = other := Classical.byContradiction fun different => kept different none
    subst same
    refine ⟨.emitControl (rawBleLinkObservedEvent nodeId session.endpoint), by simp, ?_⟩
    simp [linkState_session]

theorem pathsOf_handleL2capChannelClosed (channelId : BleChannelId) (none : pathsOf before nodeId = []) :
    pathsOf (before.handleL2capChannelClosed channelId) nodeId = [] := by
  unfold pathsOf at none ⊢
  rw [sessions_handleL2capChannelClosed]
  split
  · cases known : before.sessions[nodeId]? with
    | none => rfl
    | some sessions =>
        apply List.eq_nil_iff_forall_not_mem.mpr
        intro session member
        have held := mem_iterSessions_downgradeL2cap member
        simp [known] at none
        simp [none] at held
  · exact none

variable [PeerDirectory δ BlePeerKey DiscoveredPeerHint]

/-- A subscriber of the notifications is no path. -/
theorem pathsOf_handleP2cSubscription (before : BleRuntimeTask δ) (deviceId : DeviceId)
    (nodeId : NodeId) :
    pathsOf (before.handleP2cSubscription deviceId) nodeId = pathsOf before nodeId := by
  rcases handleP2cSubscription_cases before deviceId with ⟨-, same⟩ | ⟨holder, -, equal⟩
  · rw [same]
  · rw [equal]
    unfold pathsOf
    rw [EntryMap.getElem?_modifyOrInsert]
    split
    · rename_i same
      subst same
      cases known : before.sessions[nodeId]? with
      | none => rfl
      | some sessions => rfl
    · rfl

theorem pathsOf_handleP2cUnsubscription (before : BleRuntimeTask δ) (deviceId : DeviceId)
    (nodeId : NodeId) :
    pathsOf (before.handleP2cUnsubscription deviceId) nodeId = pathsOf before nodeId := by
  rcases handleP2cUnsubscription_cases before deviceId with
    ⟨-, same⟩ | ⟨holder, sessions, -, known, equal⟩
  · rw [same]
  · rw [equal]
    unfold pathsOf
    rw [EntryMap.getElem?_insert]
    split
    · rename_i same
      subst same
      rw [known]
      rfl
    · rfl

/-- A disconnect faults nothing of a node that does not mention the device. -/
theorem linkState_of_fault {sessions : PeerSessions} {deviceId : DeviceId}
    (known : before.sessions[nodeId]? = some sessions)
    (unreferenced : sessions.referencesDevice deviceId = false)
    (fault : effect ∈ disconnectFaults before deviceId) : linkState nodeId effect = none := by
  unfold disconnectFaults at fault
  split at fault
  · cases fault
  · rename_i holder resolved
    split at fault
    · cases fault
    · rename_i others found
      obtain ⟨endpoint, member, rfl⟩ := List.mem_map.mp fault
      rw [rawBleLinkFaultedEvent, linkState_observed, if_neg]
      rintro ⟨rfl, unicast⟩
      obtain rfl := Option.some.inj (found.symm.trans known)
      rcases mem_endpointsForDevice.mp member with ⟨session, held, same, -⟩ | ⟨fanout, -⟩
      · have references := referencesDevice_iff.mpr (Or.inl ⟨session, held, same⟩)
        rw [unreferenced] at references
        cases references
      · exact unicast fanout

theorem upholds_change (change : Change start turn before after) (paths : pathsOf after nodeId ≠ []) :
    ∃ effects, after.outbox = before.outbox ++ effects ∧ Upholds before nodeId effects := by
  cases change with
  | quiet quiet =>
      obtain ⟨effects, others, outbox⟩ := quiet.outbox
      rw [pathsOf_of_sessions quiet.sessions] at paths
      exact ⟨effects, outbox, .silent (fun effect member => linkState_of_quiet (others effect member))
        paths⟩
  | hint | forget | resolve => exact ⟨[], by simp, .silent (by simp) paths⟩
  | installGatt deviceId otherNode admits resolved =>
      refine ⟨_, List.append_assoc .., ?_⟩
      refine .installed (.gattCentral deviceId) rfl fun different => ?_
      change pathsOf (before.installGattSession otherNode deviceId) nodeId ≠ [] at paths
      unfold pathsOf at paths
      rwa [sessions_installGattSession, if_neg different] at paths
  | installL2cap deviceId otherNode source resolved =>
      refine ⟨_, outbox_installL2capSession, ?_⟩
      refine .installed (.l2cap deviceId ⟨before.nextChannelId⟩) rfl fun different => ?_
      unfold pathsOf at paths
      rwa [sessions_installL2capSession, if_neg different] at paths
  | payload | notify => exact ⟨_, rfl, .silent (by simp [linkState]) paths⟩
  | close channelId closes =>
      refine ⟨_, outbox_handleL2capChannelClosed, ?_, ?_⟩
      · intro effect member state announced
        obtain ⟨holder, session, rfl⟩ := observed_of_mem_closeAnnouncement member
        rw [linkState_session] at announced
        split at announced
        · exact (Option.some.inj announced).symm
        · cases announced
      · exact fun none => absurd (pathsOf_handleL2capChannelClosed channelId none) paths
  | subscribe deviceId event first =>
      rw [pathsOf_handleP2cSubscription] at paths
      rcases handleP2cSubscription_cases before deviceId with ⟨-, same⟩ | ⟨holder, -, equal⟩
      · exact ⟨[], by rw [same, List.append_nil], .silent (by simp) paths⟩
      · rw [equal]
        exact ⟨_, rfl, .silent (by simp [rawBleLinkObservedEvent, linkState_observed]) paths⟩
  | unsubscribe deviceId event first =>
      rw [pathsOf_handleP2cUnsubscription] at paths
      rcases handleP2cUnsubscription_cases before deviceId with
        ⟨-, same⟩ | ⟨holder, sessions, -, -, equal⟩
      · exact ⟨[], by rw [same, List.append_nil], .silent (by simp) paths⟩
      · rw [equal]
        refine ⟨_, rfl, .silent ?_ paths⟩
        intro effect member
        split at member
        · obtain rfl := List.mem_singleton.mp member
          simp [rawBleLinkFaultedEvent, linkState_observed]
        · cases member
  | disconnect deviceId cause event first =>
      have quiet := handleDeviceDisconnected_eq before deviceId cause
      obtain ⟨effects, others, outbox⟩ := quiet.outbox
      refine ⟨disconnectFaults before deviceId ++ effects, by rw [outbox, List.append_assoc], ?_⟩
      obtain ⟨sessions, known, held⟩ := known_of_pathsOf_ne_nil paths
      rw [quiet.sessions, ExtTreeMap.getElem?_filter'] at known
      obtain ⟨known, unreferenced⟩ := Option.filter_eq_some_iff.mp known
      apply Upholds.silent
      · intro effect member
        rcases List.mem_append.mp member with fault | other
        · exact linkState_of_fault known (by simpa using unreferenced) fault
        · exact linkState_of_quiet (others effect other)
      · simpa [pathsOf, known] using held

/-- The last of the states is active, or there is none and the one before them is. -/
def LastActive (before : Option LinkRuntimeState) (states : List LinkRuntimeState) : Prop :=
  states.getLast?.or before = some .active

omit [PeerDirectory δ BlePeerKey DiscoveredPeerHint] in
theorem Upholds.lastActive {states : List LinkRuntimeState} {shown : Option LinkRuntimeState}
    (upholds : Upholds before nodeId effects)
    (last : pathsOf before nodeId ≠ [] → LastActive shown states) :
    LastActive shown (states ++ effects.filterMap (linkState nodeId)) := by
  have active : ∀ state ∈ effects.filterMap (linkState nodeId), state = .active := by
    intro state member
    obtain ⟨effect, performed, announced⟩ := List.mem_filterMap.mp member
    exact upholds.active effect performed state announced
  cases new : (effects.filterMap (linkState nodeId)).getLast? with
  | some state =>
      obtain rfl := active state (List.mem_of_getLast? new)
      simp [LastActive, List.getLast?_append, new]
  | none =>
      rw [List.getLast?_eq_none_iff] at new
      rw [new, List.append_nil]
      apply last
      intro none
      obtain ⟨effect, performed, announced⟩ := upholds.announced none
      obtain ⟨state, announced⟩ := Option.ne_none_iff_exists'.mp announced
      have member := List.mem_filterMap.mpr ⟨effect, performed, announced⟩
      rw [new] at member
      cases member

theorem lastActive_step {shown : Option LinkRuntimeState} {states : List LinkRuntimeState}
    (last : pathsOf task nodeId ≠ [] → LastActive shown states) (turn : Turn)
    (paths : pathsOf (task.step turn) nodeId ≠ []) :
    LastActive shown (states ++ (task.step turn).outbox.filterMap (linkState nodeId)) := by
  revert paths
  apply step_induction (P := fun reached => pathsOf reached nodeId ≠ [] →
    LastActive shown (states ++ reached.outbox.filterMap (linkState nodeId)))
  · intro paths
    simpa using last paths
  · intro before after change earlier paths
    obtain ⟨effects, outbox, upholds⟩ := upholds_change change paths
    rw [outbox, List.filterMap_append, ← List.append_assoc]
    exact upholds.lastActive earlier

/-- What the runtime emits are links of sessions, the fanout and payloads. -/
structure OwnEffect (effect : Effect) : Prop where
  link : ∀ event, effect = .emitControl event → ∃ nodeId endpoint state,
    event = rawBleLinkEvent nodeId endpoint state ∧
      (endpoint = gattNotifyFanoutEndpoint ∨ ∃ session, endpoint = BleSession.endpoint session)
  payload : ∀ event, effect = .emitPayload event → ∃ nodeId endpoint value,
    event = .payloadReceived nodeId endpoint value

omit [PeerDirectory δ BlePeerKey DiscoveredPeerHint] in
theorem OwnEffect.of_link {endpoint : LinkEndpoint} {state : LinkRuntimeState}
    (source : endpoint = gattNotifyFanoutEndpoint ∨ ∃ session, endpoint = BleSession.endpoint session) :
    OwnEffect (.emitControl (rawBleLinkEvent nodeId endpoint state)) := by
  constructor
  · intro event equal
    obtain rfl := Effect.emitControl.inj equal
    exact ⟨nodeId, endpoint, state, rfl, source⟩
  · intro event equal
    cases equal

theorem ownEffect_of_effectOf (source : EffectOf before after turn effect) : OwnEffect effect := by
  cases source with
  | quiet quiet =>
      constructor
      · rintro event rfl
        cases quiet
      · rintro event rfl
        cases quiet
  | gatt deviceId nodeId => exact .of_link (Or.inr ⟨.gattCentral deviceId, rfl⟩)
  | l2cap deviceId nodeId => exact .of_link (Or.inr ⟨.l2cap deviceId ⟨0⟩, rfl⟩)
  | closed channelId announced =>
      obtain ⟨nodeId, session, rfl⟩ := observed_of_mem_closeAnnouncement announced
      exact .of_link (Or.inr ⟨session, rfl⟩)
  | subscribed deviceId nodeId | unsubscribed deviceId nodeId => exact .of_link (Or.inl rfl)
  | faulted deviceId cause event fault =>
      unfold disconnectFaults at fault
      split at fault
      · cases fault
      · split at fault
        · cases fault
        · obtain ⟨endpoint, member, rfl⟩ := List.mem_map.mp fault
          apply OwnEffect.of_link
          rcases mem_endpointsForDevice.mp member with ⟨session, -, -, rfl⟩ | ⟨fanout, -⟩
          · exact Or.inr ⟨session, rfl⟩
          · exact Or.inl fanout
  | payload deviceId nodeId endpoint value =>
      constructor
      · intro event equal
        cases equal
      · intro event equal
        exact ⟨nodeId, endpoint, value, (Effect.emitPayload.inj equal).symm⟩
  | spawn | notify =>
      constructor
      · intro event equal
        cases equal
      · intro event equal
        cases equal

theorem ownEffect_step (task : BleRuntimeTask δ) (turn : Turn) :
    ∀ effect ∈ (task.step turn).outbox, OwnEffect effect := by
  apply step_induction (P := fun reached => ∀ effect ∈ reached.outbox, OwnEffect effect)
  · intro effect member
    cases member
  · intro before after change earlier effect member
    obtain ⟨effects, outbox, sources⟩ := effects_change change
    rw [outbox] at member
    rcases List.mem_append.mp member with old | new
    · exact earlier effect old
    · exact ownEffect_of_effectOf (sources effect new)

end Paths

/-! ## What the client makes of it -/

section Shown
variable {π : Type} [HostTopologyProjector π] {projector : TopologyProjector π}
  {localNodeId nodeId : NodeId} {preset : NodePreset} {shape : CastShaping}

def shownState (projector : TopologyProjector π) (localNodeId nodeId : NodeId) :
    Option LinkRuntimeState :=
  projector.topology.value.links[(localNodeId, nodeId)]?.map Link.state

theorem shownState_ingest (observation : TransportObservation) :
    shownState (projector.ingestTransportObservation preset observation).1
        projector.snapshot.localNodeId nodeId =
      match observation with
      | .payloadReceived .. => shownState projector projector.snapshot.localNodeId nodeId
      | .linkObserved remoteNodeId observation =>
          if remoteNodeId = nodeId then some observation.value.state
          else shownState projector projector.snapshot.localNodeId nodeId := by
  have effect := observeEffect projector preset observation
  have kept : (projector.ingestTransportObservation preset observation).1.topology =
      (projector.observe preset observation).1.topology := by
    rw [TopologyProjector.ingestTransportObservation]
    split
    · rw [refreshSnapshot_fst]
    · rfl
  unfold shownState
  rw [kept]
  generalize (projector.observe preset observation).1 = observed at effect
  cases effect with
  | payload => rfl
  | link remoteNodeId observation later nodes remote kept =>
      simp only [EntryMap.getElem?_insert, Prod.mk.injEq, true_and]
      by_cases same : remoteNodeId = nodeId
      · simp [same]
      · simp [same, Ne.symm same]

theorem link_observed (shape : CastShaping) (localNodeId remoteNodeId : NodeId)
    (endpoint : LinkEndpoint) (state : LinkRuntimeState) (stamp : Tick × OrderStamp) :
    ∃ observation mtuBytes, linkObservationFromBleEvent shape localNodeId
        (rawBleLinkEvent remoteNodeId endpoint state) stamp.1 stamp.2 =
          .linkObserved remoteNodeId observation ∧
      observation.value.state = state ∧
      observation.value.endpoint = { endpoint with mtuBytes := mtuBytes } ∧
      (state ≠ .active → observation.value.endpoint = endpoint) := by
  simp only [rawBleLinkEvent, linkObservationFromBleEvent, linkCarrier]
  split
  · exact ⟨_, endpoint.mtuBytes, rfl, rfl, rfl, fun _ => rfl⟩
  · rename_i active
    have active : state = .active := not_not.mp active
    exact ⟨_, _, rfl, active.symm, rfl, fun other => absurd active other⟩

theorem resized_ne_fanout (session : BleSession) (mtuBytes : Nat) :
    ({ session.endpoint with mtuBytes := mtuBytes } : LinkEndpoint) ≠ gattNotifyFanoutEndpoint := by
  intro fanout
  have located : deviceIdFromEndpoint { session.endpoint with mtuBytes := mtuBytes } =
    some session.deviceId := BleSession.deviceIdFromEndpoint_endpoint session
  rw [fanout, deviceIdFromEndpoint_gattNotifyFanoutEndpoint] at located
  cases located

/-- A link is shown as it was announced. Besides, only a fanout that was shaped to another size is
shown as a link, and an active one. -/
theorem shownState_project (stamp : Tick × OrderStamp) {effect : Effect} (ownEffect : OwnEffect effect)
    {observation : TransportObservation}
    (observed : observationOf shape localNodeId stamp effect = some observation)
    (own : projector.snapshot.localNodeId = localNodeId) :
    shownState (project preset projector observation) localNodeId nodeId =
        (linkState nodeId effect).or (shownState projector localNodeId nodeId) ∨
      linkState nodeId effect = none ∧
        shownState (project preset projector observation) localNodeId nodeId = some .active := by
  subst own
  cases effect with
  | emitPayload event =>
      obtain ⟨nodeId, endpoint, value, rfl⟩ := ownEffect.payload event rfl
      obtain rfl := Option.some.inj observed
      left
      exact shownState_ingest _
  | emitControl event =>
      obtain ⟨remoteNodeId, endpoint, state, rfl, source⟩ := ownEffect.link event rfl
      obtain ⟨link, mtuBytes, equal, rfl, resized, kept⟩ := link_observed shape
        projector.snapshot.localNodeId remoteNodeId endpoint state stamp
      obtain rfl := Option.some.inj observed
      have ingested : ∀ ingests : link.value.endpoint ≠ gattNotifyFanoutEndpoint,
          shownState (project preset projector (.linkObserved remoteNodeId link))
            projector.snapshot.localNodeId nodeId =
          if remoteNodeId = nodeId then some link.value.state
          else shownState projector projector.snapshot.localNodeId nodeId := by
        intro ingests
        rw [project, if_neg (by simpa [isMulticastFanoutObservation] using ingests),
          shownState_ingest]
      rw [equal, linkState_observed]
      rcases source with rfl | ⟨session, rfl⟩
      · by_cases fanout : link.value.endpoint = gattNotifyFanoutEndpoint
        · left
          simp [project, isMulticastFanoutObservation, fanout]
        · have active : link.value.state = .active :=
            Classical.byContradiction fun other => fanout (kept other)
          rw [ingested fanout, active]
          by_cases same : remoteNodeId = nodeId
          · simp [same]
          · simp [same]
      · have unicast := session.endpoint_ne_gattNotifyFanoutEndpoint
        rw [ingested (resized ▸ resized_ne_fanout session mtuBytes)]
        left
        by_cases same : remoteNodeId = nodeId
        · simp [same, unicast]
        · simp [same]
  | _ => cases observed

end Shown

/-! ## Runs -/

section Runs
variable {δ π : Type} [HostTopologyProjector π]
  {runtime : ProjectedRuntime δ π} {localNodeId : NodeId} {shape : CastShaping} {preset : NodePreset}

/-- Together with what is not ingested yet, the links that are shown end with an active one for every
node that the runtime has a path to. -/
structure Upheld (localNodeId : NodeId) (runtime : ProjectedRuntime δ π) : Prop where
  own : runtime.task.localNodeId = localNodeId
  projected : Projected localNodeId runtime.projector
  emitted : ∀ effect ∈ runtime.emitted, OwnEffect effect
  shown : ∀ nodeId, pathsOf runtime.task nodeId ≠ [] →
    LastActive (shownState runtime.projector localNodeId nodeId)
      (runtime.emitted.filterMap (linkState nodeId))

theorem Upheld.reproject {projector : TopologyProjector π} (upheld : Upheld localNodeId runtime)
    (projected : Projected localNodeId projector)
    (same : projector.topology = runtime.projector.topology) :
    Upheld localNodeId { runtime with projector := projector } := by
  refine ⟨upheld.own, projected, upheld.emitted, ?_⟩
  intro nodeId paths
  have shown := upheld.shown nodeId paths
  unfold shownState at shown ⊢
  rwa [same]

theorem LastActive.ingest {effect : Effect} {rest : List Effect} {nodeId : NodeId}
    {shown after : Option LinkRuntimeState}
    (last : LastActive shown ((effect :: rest).filterMap (linkState nodeId)))
    (ingested : after = (linkState nodeId effect).or shown ∨
      linkState nodeId effect = none ∧ after = some .active) :
    LastActive after (rest.filterMap (linkState nodeId)) := by
  unfold LastActive at last ⊢
  rcases ingested with rfl | ⟨unannounced, rfl⟩
  · cases announced : linkState nodeId effect with
    | none => simpa [announced] using last
    | some state =>
        simp only [List.filterMap_cons, announced, List.getLast?_cons, Option.some_or] at last ⊢
        cases remaining : (rest.filterMap (linkState nodeId)).getLast? with
        | none => simpa [remaining] using last
        | some later => simpa [remaining] using last
  · rw [List.filterMap_cons_none unannounced] at last
    cases remaining : (rest.filterMap (linkState nodeId)).getLast? with
    | none => rfl
    | some state => simpa [remaining] using last

theorem Upheld.ingest (upheld : Upheld localNodeId runtime) (stamp : Tick × OrderStamp) :
    Upheld localNodeId (runtime.ingest shape preset stamp) := by
  unfold ProjectedRuntime.ingest
  split
  · exact upheld
  · rename_i effect rest held
    have ownEffects := upheld.emitted
    have shown := upheld.shown
    rw [held] at ownEffects shown
    rw [upheld.own]
    cases observed : observationOf shape localNodeId stamp effect with
    | none =>
        have later : ∀ other ∈ rest, OwnEffect other :=
          fun other later => ownEffects other (by simp [later])
        refine ⟨rfl.trans upheld.own, upheld.projected, later, ?_⟩
        intro nodeId paths
        apply (shown nodeId paths).ingest
        left
        cases effect with
        | emitControl event => cases observed
        | _ => rfl
    | some observation =>
        have own := upheld.projected.snapshot_localNodeId
        have later : ∀ other ∈ rest, OwnEffect other :=
          fun other later => ownEffects other (by simp [later])
        refine ⟨rfl.trans upheld.own, ?_, later, ?_⟩
        · show Projected localNodeId (project preset runtime.projector observation)
          unfold project
          split
          · exact upheld.projected
          · exact upheld.projected.ingestTransportObservation preset observation
        · intro nodeId paths
          apply (shown nodeId paths).ingest
          exact shownState_project stamp (ownEffects effect (by simp)) observed own

variable [PeerDirectory δ BlePeerKey DiscoveredPeerHint]

theorem Upheld.turn (upheld : Upheld localNodeId runtime) (turn : Turn) :
    Upheld localNodeId (runtime.step shape preset (.turn turn)) := by
  refine ⟨(localNodeId_step _ turn).trans upheld.own, upheld.projected, ?_, ?_⟩
  · intro effect member
    rcases List.mem_append.mp member with old | new
    · exact upheld.emitted effect old
    · exact ownEffect_step runtime.task turn effect new
  · intro nodeId paths
    simp only [ProjectedRuntime.step, List.filterMap_append]
    exact lastActive_step (upheld.shown nodeId) turn paths

theorem Upheld.step (upheld : Upheld localNodeId runtime) (input : ProjectedStep) :
    Upheld localNodeId (runtime.step shape preset input) := by
  cases input with
  | turn turn => exact upheld.turn turn
  | ingest stamp => exact upheld.ingest stamp
  | materializedRoute route =>
      apply upheld.reproject
      · exact upheld.projected.rerouted (HostTopologyProjector.kept_ingestMaterializedRoute ..)
      · simp [TopologyProjector.ingestMaterializedRoute, refreshSnapshot_fst]
  | roundOutcome outcome =>
      apply upheld.reproject
      · exact upheld.projected.rerouted (HostTopologyProjector.kept_ingestRoundOutcome ..)
      · simp [TopologyProjector.ingestRoundOutcome, refreshSnapshot_fst]
  | engineCapabilities capabilities =>
      apply upheld.reproject
      · exact upheld.projected.rerouted (HostTopologyProjector.kept_ingestEngineCapabilities ..)
      · simp [TopologyProjector.ingestEngineCapabilities, refreshSnapshot_fst]

theorem upheld_run (targetOs : TargetOs) (config : BleConfig) (restoredState : BleRestoredState)
    (topology : Observation Configuration) (steps : List ProjectedStep) :
    Upheld localNodeId (exec (ProjectedRuntime.step shape preset)
      (launch targetOs config restoredState localNodeId topology : ProjectedRuntime δ π) steps) := by
  apply exec_always
  · refine ⟨rfl, projected_new localNodeId topology, ?_, ?_⟩
    · intro effect member
      cases member
    · intro nodeId paths
      simp [launch, pathsOf, BleRuntimeTask.launch] at paths
  · intro runtime input upheld
    exact upheld.step input

/-- Whatever devices come and go and however far the client lags behind: once no link to a node is left
to be ingested, the client shows its link to the node as active if the runtime has a path to it. -/
theorem usable_peers_shown_active (shape : CastShaping) (preset : NodePreset) (targetOs : TargetOs)
    (config : BleConfig) (restoredState : BleRestoredState) (localNodeId : NodeId)
    (topology : Observation Configuration) (steps : List ProjectedStep) (nodeId : NodeId) :
    let runtime := exec (ProjectedRuntime.step shape preset)
      (launch targetOs config restoredState localNodeId topology : ProjectedRuntime δ π) steps
    (∃ sessions, runtime.task.sessions[nodeId]? = some sessions ∧ sessions.iterSessions ≠ []) →
    (∀ effect ∈ runtime.emitted, linkState nodeId effect = none) →
    ∃ edge, runtime.projector.snapshot.edge localNodeId nodeId = some edge ∧
      edge.observation.value.state = .active := by
  intro runtime ⟨sessions, known, held⟩ ingested
  have upheld : Upheld localNodeId runtime := upheld_run ..
  have paths : pathsOf runtime.task nodeId ≠ [] := by simpa [pathsOf, known] using held
  have last := upheld.shown nodeId paths
  rw [List.filterMap_eq_nil_iff.mpr ingested] at last
  have active : shownState runtime.projector localNodeId nodeId = some .active := last
  unfold shownState at active
  rw [← upheld.projected.snapshot_link] at active
  obtain ⟨link, linked, active⟩ := Option.map_eq_some_iff.mp active
  obtain ⟨edge, shown, rfl⟩ := Option.map_eq_some_iff.mp linked
  exact ⟨edge, shown, active⟩

end Runs

/-- The node is met through a second device while the client is still to hear of the first. -/
def Scenario.laggingClient : List ProjectedStep :=
  LinkProfile.Scenario.addressRotation.map .turn ++ List.replicate 14 (.ingest (2, 3))

def Scenario.lagged (steps : List ProjectedStep) : ProjectedRuntime PeerMap CopyingProjector :=
  exec (ProjectedRuntime.step LinkProfile.Scenario.shaping plainPreset)
    (launch .other {} {} (LinkProfile.Scenario.node 1) firstTopology) steps

theorem rotated_peer_shown_active :
    ∃ edge, (Scenario.lagged Scenario.laggingClient).projector.snapshot.edge
        (LinkProfile.Scenario.node 1) (LinkProfile.Scenario.node 2) = some edge ∧
      edge.observation.value.state = .active := by
  apply usable_peers_shown_active
  · have held : (Scenario.lagged Scenario.laggingClient).task.sessions[
        LinkProfile.Scenario.node 2]?.any (·.iterSessions ≠ []) = true := by decide +kernel
    obtain ⟨sessions, known, held⟩ := Option.any_eq_true _ _ |>.mp held
    exact ⟨sessions, known, of_decide_eq_true held⟩
  · decide +kernel

end JqBle.Proof.Client
