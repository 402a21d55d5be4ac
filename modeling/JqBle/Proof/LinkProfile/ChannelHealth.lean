import JqBle.Proof.LinkProfile.ChannelPreference

/-!
# A healthy channel stays the preferred one

While the transport of a channel works and every payload queued for it fits a frame, its tasks report
no closure, and the node whose session prefers the channel goes on preferring it until the link or a
newer channel says otherwise. A payload that does not fit is refused by the writer's codec, which the
runtime takes for a broken channel.
-/

namespace JqBle.Proof.LinkProfile
open Std Host Library Execution JqBle.LinkProfile

variable {δ : Type} {task before after : BleRuntimeTask δ} {nodeId : NodeId} {deviceId : DeviceId}
  {channelId : BleChannelId} {payload : List UInt8}

/-! ## The tasks of a healthy channel -/

/-- Neither task of the channel has met an end, and the writer will meet none. -/
structure Undisturbed (channel : ChannelTasks) : Prop where
  reading : channel.reader = .reading
  writing : channel.lane.writer ≠ .closing
  fits : ∀ payload ∈ channel.lane.writerQueue, payload.length ≤ l2capFrameMaxBytes

theorem undisturbed_spawn (channelId : BleChannelId) : Undisturbed (.spawn channelId) :=
  ⟨rfl, nofun, nofun⟩

/-- Nothing of the channel has been reported closed and nothing will be. -/
structure Intact (channelId : BleChannelId) (runtime : ChannelRuntime δ) : Prop where
  tasks : ∀ channel ∈ runtime.channels, channel.channelId = channelId → Undisturbed channel
  unreported : L2capRuntimeEvent.channelClosed channelId ∉ runtime.l2capEvents.items
  opened : (runtime.task.l2capChannels[channelId]?).isSome = true →
    receiverOpen runtime.channels channelId = true

variable {runtime reached : ChannelRuntime δ} {position : Nat}

theorem Intact.updateChannel {update : ChannelTasks → Option ChannelTasks}
    (intact : Intact channelId runtime)
    (updated : runtime.updateChannel position update = some reached)
    (kept : ∀ old new, runtime.channels[position]? = some old → update old = some new →
      new.channelId = old.channelId ∧ (old.channelId = channelId → Undisturbed old →
        Undisturbed new ∧ (old.lane.accepts = true →
          new.lane.accepts = true ∨ runtime.channelOpen position old = false))) :
    Intact channelId reached := by
  obtain ⟨new, moved, rfl⟩ := Option.map_eq_some_iff.mp updated
  obtain ⟨old, here, update⟩ := Option.bind_eq_some_iff.mp moved
  obtain ⟨same, undisturbed⟩ := kept old new here update
  constructor
  · intro channel member id
    rcases List.mem_or_eq_of_mem_set member with old | rfl
    · exact intact.tasks channel old id
    · have oldId : old.channelId = channelId := same.symm.trans id
      exact (undisturbed oldId (intact.tasks old (List.mem_of_getElem? here) oldId)).1
  · exact intact.unreported
  · intro registered
    refine receiverOpen_set here same ?_ (intact.opened registered)
    intro oldId accepted
    rcases (undisturbed oldId (intact.tasks old (List.mem_of_getElem? here) oldId)).2 accepted with
      accepts | superseded
    · exact Or.inl accepts
    · -- The table has the channel, so newer tasks hold the sender.
      refine Or.inr ?_
      subst oldId
      have contained : runtime.task.l2capChannels.contains old.channelId = true := by
        rw [ExtTreeMap.contains_eq_isSome_getElem?]
        exact registered
      simpa [ChannelRuntime.channelOpen, contained, ← Option.isSome_iff_ne_none] using superseded

theorem Intact.report {event : L2capRuntimeEvent} (intact : Intact channelId runtime)
    (reported : runtime.report event = some reached) (other : event ≠ .channelClosed channelId) :
    Intact channelId reached := by
  obtain ⟨events, pushed, rfl⟩ := Option.map_eq_some_iff.mp reported
  refine ⟨intact.tasks, ?_, intact.opened⟩
  show _ ∉ events.items
  rw [BoundedQueue.items_of_push pushed]
  intro member
  rcases List.mem_append.mp member with old | new
  · exact intact.unreported old
  · exact other (List.mem_singleton.mp new).symm

theorem Intact.reportAndUpdate {closed : BleChannelId}
    {update : ChannelTasks → Option ChannelTasks} (intact : Intact channelId runtime)
    (moved : ((runtime.report (.channelClosed closed)).bind fun runtime =>
      runtime.updateChannel position update) = some reached)
    (other : closed ≠ channelId)
    (here : ∀ old new, runtime.channels[position]? = some old → update old = some new →
      old.channelId = closed ∧ new.channelId = closed) : Intact channelId reached := by
  obtain ⟨reporting, reported, updated⟩ := Option.bind_eq_some_iff.mp moved
  have intactReporting := intact.report reported (by simpa using other)
  have channels : reporting.channels = runtime.channels := by
    obtain ⟨events, -, rfl⟩ := Option.map_eq_some_iff.mp reported
    rfl
  refine intactReporting.updateChannel updated ?_
  intro old new found update
  rw [channels] at found
  obtain ⟨oldId, newId⟩ := here old new found update
  exact ⟨newId.trans oldId.symm, fun id => absurd (oldId.symm.trans id) other⟩

/-! ## Steps of a healthy channel -/

theorem registered_channelClosed {closed : BleChannelId}
    (registered : ((task.handleL2capChannelClosed closed).l2capChannels[channelId]?).isSome = true) :
    channelId ≠ closed ∧ (task.l2capChannels[channelId]?).isSome = true := by
  rw [l2capChannels_handleL2capChannelClosed] at registered
  split at registered
  · cases registered
  · rename_i other
    exact ⟨other, registered⟩

theorem registered_dispatchUnicastOver {isOpen : BleChannelId → Bool} {target : DeviceId}
    {fuel : Nat} {downgradedL2cap : Option BleChannelId}
    (registered : ((task.dispatchUnicastOver isOpen target payload fuel
      downgradedL2cap).1.l2capChannels[channelId]?).isSome = true) :
    (task.l2capChannels[channelId]?).isSome = true := by
  refine dispatchUnicastOver_induction
    (P := fun reached : BleRuntimeTask δ => (reached.l2capChannels[channelId]?).isSome = true →
      (task.l2capChannels[channelId]?).isSome = true)
    ?_ ?_ fuel downgradedL2cap (fun registered => registered) registered
  · intro reached accepted session earlier registered
    rw [(sendViaSession_quiet reached accepted session payload).l2capChannels] at registered
    exact earlier registered
  · intro reached closed turnsAway earlier registered
    exact earlier (registered_channelClosed registered).2

theorem multicast_tables (task : BleRuntimeTask δ) (endpoint : LinkEndpoint)
    (receivers : List NodeId) (payload : List UInt8) :
    (task.dispatchMulticastCommand endpoint receivers payload).sessions = task.sessions ∧
      (task.dispatchMulticastCommand endpoint receivers payload).l2capChannels =
        task.l2capChannels := by
  have notified (targets : List DeviceId) (task : BleRuntimeTask δ) :
      let notified := targets.foldl (fun task deviceId => task.perform
        (.notifyCharacteristic deviceId jacquardP2cCharUuid payload receivers)) task
      notified.sessions = task.sessions ∧ notified.l2capChannels = task.l2capChannels := by
    induction targets generalizing task with
    | nil => exact ⟨rfl, rfl⟩
    | cons first rest ih => exact ih _
  unfold BleRuntimeTask.dispatchMulticastCommand
  split
  · exact ⟨rfl, rfl⟩
  · split
    · exact ⟨rfl, rfl⟩
    · split
      · exact ⟨rfl, rfl⟩
      · exact notified _ task

/-- The pipe of the channel takes what the writer writes and the peer keeps its end open. -/
def TransportHealthy (channelId : BleChannelId) (runtime : ChannelRuntime δ) : ChannelStep → Prop
  | .writeFails position | .readerCloses position => ∀ channel,
      runtime.channels[position]? = some channel → channel.channelId ≠ channelId
  | _ => True

/-- A unicast command that is sent to a device while some session prefers the channel with that
device has a payload that fits a frame. -/
def PayloadFits (channelId : BleChannelId) (runtime : ChannelRuntime δ) : ChannelStep → Prop
  | .sendNext => ∀ command rest endpoint deviceId nodeId, runtime.batch = command :: rest →
      command.intent = .unicast endpoint → deviceIdFromEndpoint endpoint = some deviceId →
        PrefersL2cap runtime.task nodeId deviceId channelId →
          command.payload.length ≤ l2capFrameMaxBytes
  | _ => True

theorem payloadFits_of_batch {input : ChannelStep}
    (fits : ∀ command ∈ runtime.batch, command.payload.length ≤ l2capFrameMaxBytes) :
    PayloadFits channelId runtime input := by
  cases input with
  | sendNext =>
      intro command rest endpoint deviceId nodeId waiting intent located prefers
      exact fits command (by simp [waiting])
  | _ => trivial

theorem Intact.sendUnicast {endpoint : LinkEndpoint} (formed : WellFormedSessions runtime.task)
    (intact : Intact channelId runtime)
    (fits : ∀ deviceId nodeId, deviceIdFromEndpoint endpoint = some deviceId →
      PrefersL2cap runtime.task nodeId deviceId channelId → payload.length ≤ l2capFrameMaxBytes)
    (sent : runtime.sendUnicast endpoint payload = some reached) : Intact channelId reached := by
  unfold ChannelRuntime.sendUnicast at sent
  cases located : deviceIdFromEndpoint endpoint with
  | none =>
      rw [located] at sent
      cases sent
      exact intact
  | some deviceId =>
      rw [located] at sent
      dsimp only at sent
      split at sent
      · cases sent
        refine ⟨intact.tasks, intact.unreported, ?_⟩
        intro registered
        have earlier := registered_dispatchUnicastOver registered
        exact intact.opened earlier
      · rename_i taker taken
        obtain ⟨channels, pushed, rfl⟩ := Option.map_eq_some_iff.mp sent
        obtain ⟨position, old, here, oldId, rfl⟩ := pushOutbound_eq_set pushed
        have formedCleared : WellFormedSessions { runtime.task with outbox := [] } := formed
        constructor
        · intro channel member id
          rcases List.mem_or_eq_of_mem_set member with other | rfl
          · exact intact.tasks channel other id
          · have undisturbed := intact.tasks old (List.mem_of_getElem? here) id
            refine ⟨undisturbed.reading, undisturbed.writing, ?_⟩
            intro queued member
            rcases List.mem_append.mp member with earlier | last
            · exact undisturbed.fits queued earlier
            · -- A payload is queued for the channel that some session prefers.
              have sameId : taker = channelId := oldId.symm.trans id
              subst sameId
              obtain ⟨nodeId, prefers⟩ := prefersL2cap_of_taken formedCleared taken
              rw [List.mem_singleton.mp last]
              exact fits deviceId nodeId located prefers
        · exact intact.unreported
        · intro registered
          have earlier := registered_dispatchUnicastOver registered
          exact receiverOpen_set here rfl (fun _ accepts => Or.inl accepts) (intact.opened earlier)

/-- A writer whose queue fits goes on, and ends only without a sender. -/
theorem Undisturbed.receive {old : ChannelTasks} {channelOpen : Bool} {lane : Lane}
    (undisturbed : Undisturbed old) (received : old.lane.receive channelOpen = some lane) :
    Undisturbed { old with lane := lane } ∧ (lane.accepts = true ∨ channelOpen = false) := by
  obtain ⟨reading, writing, fits⟩ := undisturbed
  unfold Lane.receive at received
  split at received
  · rename_i payload rest receiving queue
    have head : payload.length ≤ l2capFrameMaxBytes := fits payload (by simp [queue])
    rw [if_pos head] at received
    cases received
    refine ⟨⟨reading, nofun, ?_⟩, Or.inl rfl⟩
    intro queued member
    exact fits queued (by simp [queue, show queued ∈ rest from member])
  · split_ifs at received with senderLeft
    cases received
    exact ⟨⟨reading, nofun, fits⟩, Or.inr (by simpa using senderLeft)⟩
  · cases received

theorem Undisturbed.write {old : ChannelTasks} {pipeCapacity count : Nat} {lane : Lane}
    (undisturbed : Undisturbed old) (written : old.lane.write pipeCapacity count = some lane) :
    Undisturbed { old with lane := lane } ∧ lane.accepts = true := by
  obtain ⟨reading, writing, fits⟩ := undisturbed
  unfold Lane.write at written
  split at written
  · split_ifs at written with room done
    · cases written
      exact ⟨⟨reading, nofun, fits⟩, rfl⟩
    · cases written
      exact ⟨⟨reading, nofun, fits⟩, rfl⟩
  · cases written

theorem Intact.takeEvent (intact : Intact channelId runtime)
    (taken : runtime.takeEvent = some reached) : Intact channelId reached := by
  unfold ChannelRuntime.takeEvent at taken
  split at taken
  · rename_i event rest idle waiting
    cases taken
    constructor
    · exact intact.tasks
    · intro member
      exact intact.unreported (List.mem_of_mem_drop member)
    · intro registered
      refine intact.opened ?_
      cases event with
      | frameReceived received payload =>
          simp only [BleRuntimeTask.handleL2capRuntimeEvent] at registered
          split at registered
          · exact registered
          · exact registered
      | channelClosed closed =>
          have earlier := registered_channelClosed registered
          exact earlier.2
  · cases taken

theorem Intact.sendNext (formed : WellFormedSessions runtime.task)
    (intact : Intact channelId runtime) (fits : PayloadFits channelId runtime .sendNext)
    (taken : runtime.sendNext = some reached) : Intact channelId reached := by
  unfold ChannelRuntime.sendNext at taken
  split at taken
  · cases taken
  · rename_i command rest waiting
    dsimp only at taken
    split at taken
    · rename_i endpoint intent
      have formedRest : WellFormedSessions { runtime with batch := rest }.task := formed
      have intactRest : Intact channelId { runtime with batch := rest } :=
        ⟨intact.tasks, intact.unreported, intact.opened⟩
      refine intactRest.sendUnicast formedRest ?_ taken
      intro deviceId nodeId located prefers
      exact fits command rest endpoint deviceId nodeId waiting intent located prefers
    · rename_i endpoint group receivers intent
      cases taken
      refine ⟨intact.tasks, intact.unreported, ?_⟩
      intro registered
      apply intact.opened
      have tables := multicast_tables { runtime.task with outbox := [] } endpoint receivers
        command.payload
      rwa [tables.2] at registered
    · cases taken
      exact ⟨intact.tasks, intact.unreported, intact.opened⟩

section
variable [PeerDirectory δ BlePeerKey DiscoveredPeerHint]
variable {input : ChannelStep} {pipeCapacity : Nat}

theorem Intact.turn {turn : Turn} (intact : Intact channelId runtime)
    (taken : runtime.turn turn = some reached) : Intact channelId reached := by
  unfold ChannelRuntime.turn at taken
  split at taken
  · cases taken
  · cases taken
  · cases taken
    constructor
    · intro channel member id
      rcases List.mem_append.mp member with spawned | old
      · rw [spawnedChannels_mem (List.mem_reverse.mp spawned)]
        exact undisturbed_spawn _
      · exact intact.tasks channel old id
    · exact intact.unreported
    · intro registered
      apply receiverOpen_spawned
      rcases registered_step registered with spawned | earlier
      · exact Or.inl spawned
      · exact Or.inr (intact.opened earlier)
  · cases taken

/-- One step of a healthy channel. -/
theorem Intact.next (formed : WellFormedSessions runtime.task) (intact : Intact channelId runtime)
    (healthy : TransportHealthy channelId runtime input)
    (fits : PayloadFits channelId runtime input)
    (taken : runtime.next pipeCapacity input = some reached) : Intact channelId reached := by
  cases input with
  | turn turn => exact intact.turn taken
  | dispatch batch =>
      simp only [ChannelRuntime.next, ChannelRuntime.dispatch] at taken
      split_ifs at taken
      cases taken
      exact ⟨intact.tasks, intact.unreported, intact.opened⟩
  | sendNext => exact intact.sendNext formed fits taken
  | takeEvent => exact intact.takeEvent taken
  | writerReceives position =>
      refine intact.updateChannel taken ?_
      intro old new here update
      obtain ⟨lane, received, rfl⟩ := Option.map_eq_some_iff.mp update
      refine ⟨rfl, fun id undisturbed => ?_⟩
      obtain ⟨kept, either⟩ := undisturbed.receive received
      exact ⟨kept, fun _ => either⟩
  | writerWrites position count =>
      refine intact.updateChannel taken ?_
      intro old new here update
      obtain ⟨lane, written, rfl⟩ := Option.map_eq_some_iff.mp update
      refine ⟨rfl, fun id undisturbed => ?_⟩
      obtain ⟨kept, accepts⟩ := undisturbed.write written
      exact ⟨kept, fun _ => Or.inl accepts⟩
  | peerReads position count =>
      refine intact.updateChannel taken ?_
      intro old new here update
      cases update
      refine ⟨rfl, fun id undisturbed => ⟨?_, fun accepts => Or.inl accepts⟩⟩
      exact ⟨undisturbed.reading, undisturbed.writing, undisturbed.fits⟩
  | writeFails position =>
      refine intact.updateChannel taken ?_
      intro old new here update
      split at update
      · cases update
        exact ⟨rfl, fun id => absurd id (healthy old here)⟩
      · cases update
  | writerReports position =>
      simp only [ChannelRuntime.next] at taken
      split at taken
      · rename_i channel here
        split_ifs at taken with closing
        refine intact.reportAndUpdate taken ?_ ?_
        · intro id
          exact (intact.tasks channel (List.mem_of_getElem? here) id).writing closing
        · intro old new found update
          rw [here] at found
          cases found
          cases update
          exact ⟨rfl, rfl⟩
      · cases taken
  | frameArrives position payload =>
      simp only [ChannelRuntime.next] at taken
      split at taken
      · split_ifs at taken
        refine intact.report taken ?_
        intro same
        cases same
      · cases taken
  | readerCloses position =>
      refine intact.updateChannel taken ?_
      intro old new here update
      split_ifs at update
      cases update
      exact ⟨rfl, fun id => absurd id (healthy old here)⟩
  | readerReports position =>
      simp only [ChannelRuntime.next] at taken
      split at taken
      · rename_i channel here
        split_ifs at taken with closing
        refine intact.reportAndUpdate taken ?_ ?_
        · intro id
          have reading := (intact.tasks channel (List.mem_of_getElem? here) id).reading
          rw [closing] at reading
          cases reading
        · intro old new found update
          rw [here] at found
          cases found
          cases update
          exact ⟨rfl, rfl⟩
      · cases taken

/-! ## Runs -/

/-- The steps that leave the node connected over the channel. -/
def LeavesConnected (nodeId : NodeId) (channelId : BleChannelId) (runtime : ChannelRuntime δ) :
    ChannelStep → Prop
  | .turn turn => LeavesChannel nodeId channelId runtime.task turn
  | _ => True

theorem HoldsChannel.move {moved : BleRuntimeTask δ} (formed : WellFormedSessions runtime.task)
    (intact : Intact channelId runtime)
    (holds : HoldsChannel runtime.task nodeId deviceId channelId)
    (leaves : LeavesConnected nodeId channelId runtime input)
    (move : TaskMove runtime input moved) : HoldsChannel moved nodeId deviceId channelId := by
  have cleared : HoldsChannel { runtime.task with outbox := [] } nodeId deviceId channelId :=
    holds.congr rfl rfl
  have opened := intact.opened holds.registered
  cases move with
  | kept => exact holds
  | turned turn taken dispatches closes =>
      subst taken
      exact holds.step formed leaves dispatches closes
  | unicast command endpoint target intent located => exact cleared.dispatchUnicastOver opened
  | multicast command endpoint groupId receivers intent =>
      have tables := multicast_tables { runtime.task with outbox := [] } endpoint receivers
        command.payload
      exact cleared.congr tables.1 tables.2
  | event event waiting =>
      cases event with
      | frameReceived received payload =>
          simp only [BleRuntimeTask.handleL2capRuntimeEvent]
          split
          · exact cleared
          · exact cleared.congr rfl rfl
      | channelClosed closed =>
          refine cleared.channelClosed ?_
          rintro rfl
          exact intact.unreported waiting

variable {targetOs : TargetOs} {localNodeId : NodeId} {config : BleConfig}
  {restoredState : BleRestoredState} {initial : BleRuntimeTask δ}

theorem wellFormedSessions_exec
    (created : BleRuntimeTask.new targetOs localNodeId config restoredState = .ok initial)
    (inputs : List ChannelStep) : WellFormedSessions
      (exec (ChannelRuntime.step pipeCapacity)
        (.launch targetOs localNodeId config restoredState : ChannelRuntime δ) inputs).task := by
  obtain ⟨turns, reached⟩ := channelTask_exec
    (.launch targetOs localNodeId config restoredState : ChannelRuntime δ) pipeCapacity inputs
  rw [reached]
  have ids := channelIds_run created turns
  rw [eq_launch_of_new created] at ids
  exact ids.formed

theorem intact_launch (channelId : BleChannelId) :
    Intact channelId (.launch targetOs localNodeId config restoredState : ChannelRuntime δ) := by
  refine ⟨nofun, nofun, ?_⟩
  intro registered
  simp [ChannelRuntime.launch, BleRuntimeTask.launch] at registered

theorem intact_run
    (created : BleRuntimeTask.new targetOs localNodeId config restoredState = .ok initial)
    {inputs : List ChannelStep}
    (meets : Meets (ChannelRuntime.step pipeCapacity)
      (fun runtime input => TransportHealthy channelId runtime input ∧
        PayloadFits channelId runtime input)
      (.launch targetOs localNodeId config restoredState : ChannelRuntime δ) inputs) :
    Intact channelId (exec (ChannelRuntime.step pipeCapacity)
      (.launch targetOs localNodeId config restoredState : ChannelRuntime δ) inputs) := by
  refine meets_induction (P := fun inputs => Intact channelId
    (exec (ChannelRuntime.step pipeCapacity) (.launch targetOs localNodeId config restoredState :
      ChannelRuntime δ) inputs)) (intact_launch channelId) ?_ meets
  rintro before input intact ⟨healthy, fits⟩
  rw [exec_snoc]
  apply attempt_cases (P := Intact channelId)
  · intro disabled
    exact intact
  · intro reached taken
    exact intact.next (wellFormedSessions_exec created before) healthy fits taken

/-- While the transport of a channel works and every payload sent over it fits a frame, no command
tears it down: once the node prefers it and it is registered, it stays so over every further step that
leaves the node connected. -/
theorem fitting_payloads_keep_channel
    (created : BleRuntimeTask.new targetOs localNodeId config restoredState = .ok initial)
    (earlier later : List ChannelStep)
    (healthy : Meets (ChannelRuntime.step pipeCapacity) (TransportHealthy channelId)
      (.launch targetOs localNodeId config restoredState : ChannelRuntime δ) (earlier ++ later))
    (fits : Meets (ChannelRuntime.step pipeCapacity) (PayloadFits channelId)
      (.launch targetOs localNodeId config restoredState : ChannelRuntime δ) (earlier ++ later))
    (holds : HoldsChannel (exec (ChannelRuntime.step pipeCapacity)
      (.launch targetOs localNodeId config restoredState : ChannelRuntime δ) earlier).task
      nodeId deviceId channelId)
    (leaves : Meets (ChannelRuntime.step pipeCapacity) (LeavesConnected nodeId channelId)
      (exec (ChannelRuntime.step pipeCapacity)
        (.launch targetOs localNodeId config restoredState : ChannelRuntime δ) earlier) later) :
    HoldsChannel (exec (ChannelRuntime.step pipeCapacity)
      (.launch targetOs localNodeId config restoredState : ChannelRuntime δ)
      (earlier ++ later)).task nodeId deviceId channelId := by
  have both := healthy.and fits
  induction later using List.reverseRecOn with
  | nil =>
      rw [List.append_nil]
      exact holds
  | append_singleton before input ih =>
      rw [← List.append_assoc] at healthy fits both ⊢
      obtain ⟨leavesBefore, leavesLast⟩ := meets_snoc.mp leaves
      have intact := intact_run created (meets_snoc.mp both).1
      have earlierHolds := ih (meets_snoc.mp healthy).1 (meets_snoc.mp fits).1 leavesBefore
        (meets_snoc.mp both).1
      rw [exec_snoc]
      apply attempt_cases (P := fun runtime : ChannelRuntime δ =>
        HoldsChannel runtime.task nodeId deviceId channelId)
      · intro disabled
        exact earlierHolds
      · intro reached taken
        rw [← exec_append] at leavesLast
        exact earlierHolds.move (wellFormedSessions_exec created (earlier ++ before)) intact
          leavesLast (taskMove_next taken)

end

section
open Scenario

def launchedRuntime : ChannelRuntime PeerMap := .launch .other (node 1) {} {}

def connected : List ChannelStep := addressRotation.map .turn

def channelRun (inputs : List ChannelStep) : ChannelRuntime PeerMap :=
  exec (ChannelRuntime.step 4096) launchedRuntime inputs

def dispatchTo (deviceId : DeviceId) (payload : List UInt8) : ChannelStep :=
  .dispatch [⟨.unicast (l2capEndpoint deviceId), payload⟩]

theorem holdsChannel_connected :
    HoldsChannel (channelRun connected).task (node 2) ⟨"new"⟩ ⟨1⟩ := by
  have session : (channelRun connected).task.sessions[node 2]? =
      some (.l2capPreferred (.l2cap ⟨"new"⟩ ⟨1⟩) (some (.gattCentral ⟨"new"⟩))) := by
    decide +kernel
  exact ⟨⟨_, session, rfl⟩, by decide +kernel⟩

theorem fitting_payloads_keep_channel_rotation :
    HoldsChannel (channelRun (connected ++ [dispatchTo ⟨"new"⟩ (List.replicate 1472 0), .sendNext,
      .writerReceives 0, .writerWrites 0 1474])).task (node 2) ⟨"new"⟩ ⟨1⟩ := by
  refine fitting_payloads_keep_channel (new_launched .other) connected _ ?_ ?_
    holdsChannel_connected ?_
  · exact ⟨trivial, trivial, trivial, trivial, trivial, trivial, trivial, trivial, trivial⟩
  · have fits : Meets (ChannelRuntime.step 4096)
        (fun runtime _ => ∀ command ∈ runtime.batch, command.payload.length ≤ l2capFrameMaxBytes)
        launchedRuntime (connected ++ [dispatchTo ⟨"new"⟩ (List.replicate 1472 0), .sendNext,
          .writerReceives 0, .writerWrites 0 1474]) := by
      decide +kernel
    exact fits.imp fun runtime input fits => payloadFits_of_batch fits
  · exact ⟨trivial, trivial, trivial, trivial, trivial⟩

/-- A payload of one byte more than a frame takes ends the writer, whose report unregisters the
channel. -/
theorem oversized_payload_closes_channel :
    HoldsChannel (channelRun connected).task (node 2) ⟨"new"⟩ ⟨1⟩ ∧
      ¬ ∀ (payload : List UInt8) (later : List ChannelStep),
        Meets (ChannelRuntime.step 4096) (TransportHealthy ⟨1⟩) launchedRuntime
          (connected ++ dispatchTo ⟨"new"⟩ payload :: later) →
        Meets (ChannelRuntime.step 4096) (LeavesConnected (node 2) ⟨1⟩) (channelRun connected)
          (dispatchTo ⟨"new"⟩ payload :: later) →
        HoldsChannel (channelRun (connected ++ dispatchTo ⟨"new"⟩ payload :: later)).task (node 2)
          ⟨"new"⟩ ⟨1⟩ := by
  refine ⟨holdsChannel_connected, ?_⟩
  intro keeps
  have kept := keeps (List.replicate 1473 0)
    [.sendNext, .writerReceives 0, .writerReports 0, .takeEvent]
    ⟨trivial, trivial, trivial, trivial, trivial, trivial, trivial, trivial, trivial, trivial⟩
    ⟨trivial, trivial, trivial, trivial, trivial, trivial⟩
  have unregistered : ((channelRun (connected ++ dispatchTo ⟨"new"⟩ (List.replicate 1473 0) ::
      [.sendNext, .writerReceives 0, .writerReports 0,
        .takeEvent])).task.l2capChannels[BleChannelId.mk 1]?).isSome = false := by
    decide +kernel
  rw [kept.registered] at unregistered
  cases unregistered

end

end JqBle.Proof.LinkProfile
