import JqBle.Demo.HostState

/-!
# Concurrent calls of the host

However the calls of a host interleave, one service at most is ever started, and it stays. Every peer
that is introduced to it is announced once, whoever introduces it and how often.
-/

namespace JqBle.Proof.Demo
open Std Host Library Execution JqBle.Client JqBle.Demo

variable {hex : HexCrate} {state reached : JacquardBleHostState} {localNodeId nodeId : NodeId}

/-! ## What a call knows -/

def Fresh : HostCall → Prop
  | .start _ .called => True
  | .introduce (.called _) => True
  | _ => False

def StartKnows (state : JacquardBleHostState) (localNodeId : NodeId) : StartStage → Prop
  | .called | .creating => True
  | .created service => service.localNodeId = localNodeId
  | .returned (.ok service) => state.service = some service ∧ service.localNodeId = localNodeId
  | .returned (.error (.alreadyStarted other)) =>
      ∃ service, state.service = some service ∧ service.localNodeId = other
  | .returned (.error (.client _)) => True
  | .returned (.error _) => False

def IntroduceKnows (state : JacquardBleHostState) : IntroduceStage → Prop
  | .called _ => True
  | .resolved service _ => state.service = some service
  | .recorded service nodeId _ => state.service = some service ∧
      nodeId ∈ (state.peers service.number).introducedPeers
  | .returned (.ok nodeId) => ∃ service, state.service = some service ∧
      nodeId ∈ (state.peers service.number).introducedPeers
  | .returned (.error _) => True

def Knows (state : JacquardBleHostState) : HostCall → Prop
  | .start localNodeId stage => StartKnows state localNodeId stage
  | .introduce stage => IntroduceKnows state stage

/-- A service that is started stays, and so does a peer that is introduced. -/
structure Later (state later : JacquardBleHostState) : Prop where
  service : ∀ service, state.service = some service → later.service = some service
  peers : ∀ number nodeId, nodeId ∈ (state.peers number).introducedPeers →
    nodeId ∈ (later.peers number).introducedPeers

theorem Later.refl (state : JacquardBleHostState) : Later state state :=
  ⟨fun _ started => started, fun _ _ known => known⟩

theorem knows_later {call : HostCall} (later : Later state reached) (knows : Knows state call) :
    Knows reached call := by
  cases call with
  | start localNodeId stage =>
      cases stage with
      | called | creating => trivial
      | created service => exact knows
      | returned result =>
          cases result with
          | ok service => exact ⟨later.service service knows.1, knows.2⟩
          | error error =>
              cases error with
              | alreadyStarted other =>
                  obtain ⟨service, started, same⟩ := knows
                  exact ⟨service, later.service service started, same⟩
              | _ => exact knows
  | introduce stage =>
      cases stage with
      | called peer => trivial
      | resolved service peer => exact later.service service knows
      | recorded service nodeId inserted =>
          exact ⟨later.service service knows.1, later.peers _ nodeId knows.2⟩
      | returned result =>
          cases result with
          | error error => trivial
          | ok nodeId =>
              obtain ⟨service, started, introduced⟩ := knows
              exact ⟨service, later.service service started, later.peers _ nodeId introduced⟩

theorem peers_updatePeers (number other : Nat) (update : IntroducedPeers → IntroducedPeers) :
    (state.updatePeers number update).peers other =
      if other = number then update (state.peers number) else state.peers other := rfl

theorem knows_start {created : Except BleClientError Unit} {stage : StartStage}
    {moved : JacquardBleHostState × StartStage}
    (knows : StartKnows state localNodeId stage)
    (moves : state.start localNodeId created stage = some moved) :
    StartKnows moved.1 localNodeId moved.2 ∧ Later state moved.1 := by
  cases stage with
  | called =>
      simp only [JacquardBleHostState.start] at moves
      split at moves
      · rename_i service started
        obtain rfl := Option.some.inj moves
        exact ⟨⟨service, started, rfl⟩, .refl state⟩
      · obtain rfl := Option.some.inj moves
        exact ⟨trivial, .refl state⟩
  | creating =>
      simp only [JacquardBleHostState.start] at moves
      split at moves
      · obtain rfl := Option.some.inj moves
        exact ⟨trivial, .refl state⟩
      · obtain rfl := Option.some.inj moves
        exact ⟨rfl, fun _ started => started, fun _ _ known => known⟩
  | created service =>
      simp only [JacquardBleHostState.start] at moves
      split at moves
      · rename_i existing started
        obtain rfl := Option.some.inj moves
        exact ⟨⟨existing, started, rfl⟩, .refl state⟩
      · rename_i unstarted
        obtain rfl := Option.some.inj moves
        refine ⟨⟨rfl, knows⟩, ?_, fun _ _ known => known⟩
        intro other started
        rw [unstarted] at started
        cases started
  | returned result => cases moves

def record (state : JacquardBleHostState) (service : JacquardBleService) (nodeId : NodeId) :
    JacquardBleHostState :=
  state.updatePeers service.number fun peers =>
    { peers with introducedPeers := peers.introducedPeers.insert nodeId }

def announce (state : JacquardBleHostState) (service : JacquardBleService) (nodeId : NodeId)
    (inserted : Bool) : JacquardBleHostState :=
  if inserted then
    state.updatePeers service.number fun peers =>
      { peers with introducedPeerUpdates := peers.introducedPeerUpdates ++ [nodeId] }
  else state

inductive IntroduceMove (state : JacquardBleHostState) :
    IntroduceStage → JacquardBleHostState × IntroduceStage → Prop
  | fail (stage : IntroduceStage) (error : JacquardBleServiceError)
      (unrecorded : ∀ service nodeId inserted, stage ≠ .recorded service nodeId inserted) :
      IntroduceMove state stage (state, .returned (.error error))
  | resolve (peer : PeerArgument) (service : JacquardBleService)
      (running : state.service = some service) :
      IntroduceMove state (.called peer) (state, .resolved service peer)
  | record (service : JacquardBleService) (peer : PeerArgument) (nodeId : NodeId) :
      IntroduceMove state (.resolved service peer) (record state service nodeId,
        .recorded service nodeId (!(state.peers service.number).introducedPeers.contains nodeId))
  | announce (service : JacquardBleService) (nodeId : NodeId) (inserted : Bool) :
      IntroduceMove state (.recorded service nodeId inserted)
        (announce state service nodeId inserted, .returned (.ok nodeId))

theorem introduceMove {stage : IntroduceStage} {moved : JacquardBleHostState × IntroduceStage}
    (moves : state.introducePeer hex stage = some moved) : IntroduceMove state stage moved := by
  cases stage with
  | called peer =>
      simp only [JacquardBleHostState.introducePeer] at moves
      split at moves
      · obtain rfl := Option.some.inj moves
        exact .fail _ _ (by simp)
      · rename_i service running
        obtain rfl := Option.some.inj moves
        exact .resolve peer service running
  | resolved service peer =>
      simp only [JacquardBleHostState.introducePeer] at moves
      split at moves
      · obtain rfl := Option.some.inj moves
        exact .fail _ _ (by simp)
      · obtain rfl := Option.some.inj moves
        exact .record service peer _
  | recorded service nodeId inserted =>
      obtain rfl := Option.some.inj moves
      exact .announce service nodeId inserted
  | returned result => cases moves

theorem introducedPeers_record (service : JacquardBleService) (number : Nat) (other : NodeId) :
    other ∈ ((record state service nodeId).peers number).introducedPeers ↔
      (number = service.number ∧ other = nodeId) ∨ other ∈ (state.peers number).introducedPeers := by
  unfold record
  rw [peers_updatePeers]
  split
  · rename_i same
    subst same
    rw [ExtTreeSet.mem_insert, Std.compare_eq_iff_eq, eq_comm]
    simp
  · rename_i differs
    simp [differs]

theorem introducedPeers_announce (service : JacquardBleService) (inserted : Bool) (number : Nat) :
    ((announce state service nodeId inserted).peers number).introducedPeers =
      (state.peers number).introducedPeers := by
  unfold announce
  split
  · rw [peers_updatePeers]
    split
    · rename_i same
      rw [same]
    · rfl
  · rfl

theorem service_announce (service : JacquardBleService) (inserted : Bool) :
    (announce state service nodeId inserted).service = state.service := by
  unfold announce
  split
  · rfl
  · rfl

theorem knows_introducePeer {stage : IntroduceStage} {moved : JacquardBleHostState × IntroduceStage}
    (knows : IntroduceKnows state stage) (moves : IntroduceMove state stage moved) :
    IntroduceKnows moved.1 moved.2 ∧ Later state moved.1 := by
  cases moves with
  | fail stage error => exact ⟨trivial, .refl state⟩
  | resolve peer service running => exact ⟨running, .refl state⟩
  | record service peer nodeId =>
      refine ⟨⟨knows, ?_⟩, fun _ running => running, ?_⟩
      · exact (introducedPeers_record ..).mpr (Or.inl ⟨rfl, rfl⟩)
      · intro number other known
        exact (introducedPeers_record ..).mpr (Or.inr known)
  | announce service nodeId inserted =>
      have kept : Later state (announce state service nodeId inserted) := by
        constructor
        · intro other running
          rwa [service_announce]
        · intro number other known
          rwa [introducedPeers_announce]
      exact ⟨⟨service, kept.service service knows.1, kept.peers _ nodeId knows.2⟩, kept⟩

theorem spawns_fresh (steps : List HostStep) :
    Threads.Spawns Fresh (steps.map HostStep.threadStep) := by
  intro call member
  obtain ⟨step, -, spawned⟩ := List.mem_map.mp member
  cases step with
  | start localNodeId =>
      cases spawned
      trivial
  | introducePeer peer =>
      cases spawned
      trivial
  | proceed position created => cases spawned

theorem knows_of_fresh {call : HostCall} (fresh : Fresh call) : Knows state call := by
  cases call with
  | start localNodeId stage =>
      cases stage with
      | called => trivial
      | _ => cases fresh
  | introduce stage =>
      cases stage with
      | called peer => trivial
      | _ => cases fresh

theorem knows_call {call : HostCall} {created : Except BleClientError Unit}
    {moved : JacquardBleHostState × HostCall} (knows : Knows state call)
    (moves : state.call hex call created = some moved) :
    Knows moved.1 moved.2 ∧ Later state moved.1 := by
  cases call with
  | start localNodeId stage =>
      obtain ⟨moving, made, rfl⟩ := Option.map_eq_some_iff.mp moves
      exact knows_start knows made
  | introduce stage =>
      obtain ⟨moving, made, rfl⟩ := Option.map_eq_some_iff.mp moves
      exact knows_introducePeer knows (introduceMove made)

theorem hostProtocol (hex : HexCrate) :
    Threads.RelyGuarantee (JacquardBleHostState.call hex) Fresh (fun _ => True) Knows Later where
  spawned _ _ _ fresh := knows_of_fresh fresh
  guarantees _ _ _ _ _ knows moves := ⟨trivial, knows_call knows moves⟩
  stable _ _ _ later knows := knows_later later knows
  refl := .refl
  trans _ _ _ first second :=
    ⟨fun service running => second.service service (first.service service running),
      fun number nodeId known => second.peers number nodeId (first.peers number nodeId known)⟩

theorem knows_run (steps : List HostStep) :
    ∀ call ∈ (hostAfter hex steps).threads, Knows (hostAfter hex steps).shared call :=
  ((hostProtocol hex).asserted trivial (spawns_fresh steps)).2

theorem later_run (steps more : List HostStep) :
    Later (hostAfter hex steps).shared (hostAfter hex (steps ++ more)).shared := by
  have held : Threads.Asserted (fun _ => True) Knows (hostAfter hex steps) :=
    (hostProtocol hex).asserted trivial (spawns_fresh steps)
  unfold hostAfter
  rw [List.map_append, exec_append]
  exact ((hostProtocol hex).asserted_and_relied held (spawns_fresh more)).2

/-! ## The started service -/

def started : HostCall → Bool
  | .start _ (.returned (.ok _)) => true
  | _ => false

theorem started_call {call : HostCall} {created : Except BleClientError Unit}
    {moved : JacquardBleHostState × HostCall} (moves : state.call hex call created = some moved) :
    (started moved.2).toNat + state.service.isSome.toNat =
      (started call).toNat + moved.1.service.isSome.toNat := by
  cases call with
  | start localNodeId stage =>
      obtain ⟨moving, made, rfl⟩ := Option.map_eq_some_iff.mp moves
      cases stage with
      | called =>
          simp only [JacquardBleHostState.start] at made
          split at made
          · obtain rfl := Option.some.inj made
            rfl
          · obtain rfl := Option.some.inj made
            rfl
      | creating =>
          simp only [JacquardBleHostState.start] at made
          split at made
          · obtain rfl := Option.some.inj made
            rfl
          · obtain rfl := Option.some.inj made
            rfl
      | created service =>
          simp only [JacquardBleHostState.start] at made
          split at made
          · obtain rfl := Option.some.inj made
            rfl
          · rename_i unstarted
            obtain rfl := Option.some.inj made
            simp [started, unstarted]
      | returned result => cases made
  | introduce stage =>
      obtain ⟨moving, made, rfl⟩ := Option.map_eq_some_iff.mp moves
      have same : moving.1.service = state.service := by
        cases introduceMove made with
        | announce service nodeId inserted => exact service_announce service inserted
        | _ => rfl
      simp [started, same]

theorem started_run (steps : List HostStep) :
    (hostAfter hex steps).threads.countP started =
      (hostAfter hex steps).shared.service.isSome.toNat := by
  rw [← Nat.zero_add (List.countP ..)]
  apply (hostProtocol hex).gained_add_held started (fun _ => 0) fun state => state.service.isSome.toNat
  · trivial
  · rfl
  · intro call fresh
    cases call with
    | start localNodeId stage =>
        cases stage with
        | called => rfl
        | _ => cases fresh
    | introduce stage => rfl
  · intro state call created moved _ moves
    have change := started_call moves
    omega
  · exact spawns_fresh steps

/-- At most one call of `start` ever succeeds. Its service is the one that the host runs from then on,
and all others fail on their own or because of it. -/
theorem one_service_started (hex : HexCrate) (steps : List HostStep) :
    let host := hostAfter hex steps
    host.threads.countP started = host.shared.service.isSome.toNat ∧
    (∀ localNodeId result, .start localNodeId (.returned result) ∈ host.threads →
      match result with
      | .ok service => host.shared.service = some service ∧ service.localNodeId = localNodeId
      | .error (.alreadyStarted other) =>
          ∃ service, host.shared.service = some service ∧ service.localNodeId = other
      | .error (.client _) => True
      | .error _ => False) ∧
    ∀ more service, host.shared.service = some service →
      (hostAfter hex (steps ++ more)).shared.service = some service := by
  refine ⟨started_run steps, ?_, fun more => (later_run steps more).service⟩
  intro localNodeId result member
  have knows := knows_run steps _ member
  cases result with
  | ok service => exact knows
  | error error =>
      cases error with
      | client source => trivial
      | _ => exact knows

/-! ## Introduced peers -/

/-- The call has recorded the peer first and has still to announce it. -/
def announcing (number : Nat) (nodeId : NodeId) : HostCall → Bool
  | .introduce (.recorded service other inserted) =>
      inserted && service.number = number && other = nodeId
  | _ => false

def timesAnnounced (number : Nat) (nodeId : NodeId) (state : JacquardBleHostState) : Nat :=
  (state.peers number).introducedPeerUpdates.count nodeId

def introducedTo (number : Nat) (nodeId : NodeId) (state : JacquardBleHostState) : Bool :=
  (state.peers number).introducedPeers.contains nodeId

theorem peers_start {created : Except BleClientError Unit} {stage : StartStage}
    {moved : JacquardBleHostState × StartStage}
    (moves : state.start localNodeId created stage = some moved) : moved.1.peers = state.peers := by
  cases stage with
  | called | creating | created service =>
      simp only [JacquardBleHostState.start] at moves
      split at moves
      · obtain rfl := Option.some.inj moves
        rfl
      · obtain rfl := Option.some.inj moves
        rfl
  | returned result => cases moves

theorem introducedTo_record (service : JacquardBleService) (other : NodeId) (number : Nat) :
    introducedTo number nodeId (record state service other) =
      ((service.number = number && other = nodeId) || introducedTo number nodeId state) := by
  rw [Bool.eq_iff_iff]
  unfold introducedTo
  rw [← ExtTreeSet.mem_iff_contains, introducedPeers_record, ExtTreeSet.mem_iff_contains,
    eq_comm (a := number), eq_comm (a := nodeId)]
  simp

theorem timesAnnounced_announce (service : JacquardBleService) (other : NodeId) (inserted : Bool)
    (number : Nat) :
    timesAnnounced number nodeId (announce state service other inserted) =
      timesAnnounced number nodeId state +
        (inserted && service.number = number && other = nodeId).toNat := by
  unfold timesAnnounced announce
  cases inserted with
  | false => rfl
  | true =>
      simp only [if_true, peers_updatePeers, Bool.true_and]
      by_cases same : number = service.number
      · subst same
        by_cases own : other = nodeId
        · simp [own]
        · simp [own]
      · simp [same, Ne.symm same]

theorem announced_call {call : HostCall} {created : Except BleClientError Unit}
    {moved : JacquardBleHostState × HostCall} (moves : state.call hex call created = some moved)
    (number : Nat) :
    timesAnnounced number nodeId moved.1 + (announcing number nodeId moved.2).toNat +
        (introducedTo number nodeId state).toNat =
      timesAnnounced number nodeId state + (announcing number nodeId call).toNat +
        (introducedTo number nodeId moved.1).toNat := by
  cases call with
  | start localNodeId stage =>
      obtain ⟨moving, made, rfl⟩ := Option.map_eq_some_iff.mp moves
      unfold timesAnnounced introducedTo
      rw [peers_start made]
      rfl
  | introduce stage =>
      obtain ⟨moving, made, rfl⟩ := Option.map_eq_some_iff.mp moves
      cases introduceMove made with
      | fail stage error unrecorded =>
          cases stage with
          | recorded service nodeId inserted => exact absurd rfl (unrecorded service nodeId inserted)
          | _ => rfl
      | resolve peer service running => rfl
      | record service peer other =>
          have updates : timesAnnounced number nodeId (record state service other) =
              timesAnnounced number nodeId state := by
            unfold timesAnnounced record
            rw [peers_updatePeers]
            split
            · rename_i same
              rw [same]
            · rfl
          rw [updates, introducedTo_record]
          simp only [announcing]
          by_cases own : service.number = number ∧ other = nodeId
          · obtain ⟨rfl, rfl⟩ := own
            unfold introducedTo
            cases (state.peers service.number).introducedPeers.contains other <;> simp
          · rcases not_and_or.mp own with differs | differs
            · simp [differs]
            · simp [differs]
      | announce service other inserted =>
          have kept : introducedTo number nodeId (announce state service other inserted) =
              introducedTo number nodeId state := by
            unfold introducedTo
            rw [introducedPeers_announce]
          rw [kept, timesAnnounced_announce]
          rfl

theorem announced_run (steps : List HostStep) (number : Nat) (nodeId : NodeId) :
    timesAnnounced number nodeId (hostAfter hex steps).shared +
        (hostAfter hex steps).threads.countP (announcing number nodeId) =
      (introducedTo number nodeId (hostAfter hex steps).shared).toNat := by
  apply (hostProtocol hex).gained_add_held (announcing number nodeId) (timesAnnounced number nodeId)
    fun state => (introducedTo number nodeId state).toNat
  · trivial
  · simp [timesAnnounced, introducedTo, JacquardBleHostState.new]
  · intro call fresh
    cases call with
    | start localNodeId stage => rfl
    | introduce stage =>
        cases stage with
        | called peer => rfl
        | _ => cases fresh
  · intro state call created moved _ moves
    exact announced_call moves number
  · exact spawns_fresh steps

/-- The introduction of a peer that has returned is there to stay, and unless a call is just about to
announce it, every introduced peer has been announced exactly once, and nothing else has. -/
theorem peers_announced_once (hex : HexCrate) (steps : List HostStep) :
    let host := hostAfter hex steps
    (∀ nodeId, .introduce (.returned (.ok nodeId)) ∈ host.threads →
      ∃ service, host.shared.service = some service ∧
        ∀ more, introducedTo service.number nodeId (hostAfter hex (steps ++ more)).shared = true) ∧
    ∀ number nodeId,
      timesAnnounced number nodeId host.shared + host.threads.countP (announcing number nodeId) =
        (introducedTo number nodeId host.shared).toNat := by
  refine ⟨?_, announced_run steps⟩
  intro nodeId member
  obtain ⟨service, running, known⟩ := knows_run steps _ member
  refine ⟨service, running, fun more => ?_⟩
  exact ExtTreeSet.mem_iff_contains.mp ((later_run steps more).peers service.number nodeId known)

end JqBle.Proof.Demo
