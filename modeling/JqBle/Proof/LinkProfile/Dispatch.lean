import JqBle.Proof.LinkProfile.Attribution
import JqBle.Proof.LinkProfile.Channels

/-!
# Unicast dispatch

The loop of `dispatch_unicast_command` looks the session up again after every failed send. What
bounds it is the number of entries that closing a channel can still turn away from L2CAP; what it
sends on belongs to the device it looked up.
-/

namespace JqBle.Proof.LinkProfile
open Std Host Library Execution JqBle.LinkProfile

variable {δ : Type} {task : BleRuntimeTask δ} {deviceId : DeviceId} {payload : List UInt8}
  {accepts : Nat → Bool} {channelId : BleChannelId} {downgradedL2cap : Option BleChannelId}

/-! ## One iteration -/

theorem sendViaSession_rejected {accepted : Bool} {session : BleSession}
    (rejected : (task.sendViaSession accepted session payload).2 = some channelId) :
    (task.sendViaSession accepted session payload).1 = task := by
  unfold BleRuntimeTask.sendViaSession at rejected ⊢
  cases session with
  | gattCentral held => cases rejected
  | l2cap held current =>
      dsimp only at rejected ⊢
      split at rejected
      · cases rejected
      · rename_i failed
        rw [if_neg failed]

theorem deviceId_of_egressSession {session : BleSession}
    (search : task.egressSessionForDevice deviceId = some session) : session.deviceId = deviceId := by
  obtain ⟨-, -, -, -, same⟩ := preferred_of_egressSession search
  exact same

theorem handleL2capChannelClosed_sessions (task : BleRuntimeTask δ) (channelId : BleChannelId) :
    (task.handleL2capChannelClosed channelId).sessions = task.sessions ∨
      ∃ channel sessions held fallback, task.l2capChannels[channelId]? = some channel ∧
        task.sessions[channel.nodeId]? = some sessions ∧
        sessions.state = .l2capPreferred (.l2cap held channelId) fallback ∧
        (task.handleL2capChannelClosed channelId).sessions = task.sessions.insert channel.nodeId
          { sessions with
            state := fallback.elim .disconnected fun session => .gattOnly session session } := by
  rcases handleL2capChannelClosed_cases task channelId with
    ⟨-, same⟩ | ⟨channel, registered, -, closed, -⟩
  · exact Or.inl (by rw [same])
  · rw [closed]
    cases known : task.sessions[channel.nodeId]? with
    | none => exact Or.inl rfl
    | some sessions =>
        rcases downgradeL2cap_cases sessions channelId with ⟨held, fallback, state, equal⟩ | ⟨-, kept⟩
        · refine Or.inr ⟨channel, sessions, held, fallback, registered, known, state, ?_⟩
          simp only [equal]
        · left
          simp only [kept]
          exact EntryMap.insert_of_getElem? known

/-! ## Counting iterations -/

/-- The loop of `dispatch_unicast_command` with the number of iterations it took, or nothing if it has
not returned after `fuel` of them. -/
def dispatchIterations (accepts : Nat → Bool) (deviceId : DeviceId) (payload : List UInt8) :
    (fuel attempt : Nat) → Option BleChannelId → BleRuntimeTask δ → Option (BleRuntimeTask δ × Nat)
  | 0, _, _, _ => none
  | fuel + 1, attempt, downgradedL2cap, task =>
      match task.egressSessionForDevice deviceId with
      | none => some (task, attempt + 1)
      | some session =>
          let sent := task.sendViaSession (accepts attempt) session payload
          match sent.2 with
          | none => some (sent.1, attempt + 1)
          | some channelId =>
              if downgradedL2cap = some channelId then some (sent.1, attempt + 1)
              else dispatchIterations accepts deviceId payload fuel (attempt + 1) (some channelId)
                (sent.1.handleL2capChannelClosed channelId)

theorem dispatchIterations_more {fuel attempt : Nat} {result : BleRuntimeTask δ × Nat}
    (returned : dispatchIterations accepts deviceId payload fuel attempt downgradedL2cap task =
      some result) (more : Nat) :
    dispatchIterations accepts deviceId payload (fuel + more) attempt downgradedL2cap task =
      some result := by
  induction fuel generalizing attempt downgradedL2cap task with
  | zero => cases returned
  | succ fuel ih =>
      rw [Nat.succ_add]
      unfold dispatchIterations at returned ⊢
      cases search : task.egressSessionForDevice deviceId with
      | none =>
          rw [search] at returned
          exact returned
      | some session =>
          simp only [search] at returned ⊢
          cases sent : (task.sendViaSession (accepts attempt) session payload).2 with
          | none =>
              simp only [sent] at returned ⊢
              exact returned
          | some channelId =>
              simp only [sent] at returned ⊢
              split_ifs at returned ⊢
              · exact returned
              · exact ih returned

theorem dispatchUnicastLoop_of_iterations {fuel attempt : Nat} {result : BleRuntimeTask δ × Nat}
    (returned : dispatchIterations accepts deviceId payload fuel attempt downgradedL2cap task =
      some result) :
    BleRuntimeTask.dispatchUnicastLoop accepts deviceId payload fuel attempt downgradedL2cap task =
        result.1 ∧ result.2 ≤ attempt + fuel := by
  induction fuel generalizing attempt downgradedL2cap task with
  | zero => cases returned
  | succ fuel ih =>
      unfold dispatchIterations at returned
      unfold BleRuntimeTask.dispatchUnicastLoop
      have last (final : BleRuntimeTask δ) (ended : some (final, attempt + 1) = some result) :
          final = result.1 ∧ result.2 ≤ attempt + (fuel + 1) := by
        cases ended
        exact ⟨rfl, by dsimp only; omega⟩
      cases search : task.egressSessionForDevice deviceId with
      | none =>
          rw [search] at returned
          exact last _ returned
      | some session =>
          simp only [search] at returned ⊢
          cases sent : (task.sendViaSession (accepts attempt) session payload).2 with
          | none =>
              simp only [sent] at returned ⊢
              exact last _ returned
          | some channelId =>
              simp only [sent] at returned ⊢
              split_ifs at returned ⊢
              · exact last _ returned
              · obtain ⟨same, bounded⟩ := ih returned
                exact ⟨same, by omega⟩

/-- The next iteration returns: the lookup finds no L2CAP session but the one just downgraded. -/
def LastIteration (deviceId : DeviceId) (downgradedL2cap : Option BleChannelId)
    (task : BleRuntimeTask δ) : Prop :=
  ∀ held channelId, task.egressSessionForDevice deviceId = some (.l2cap held channelId) →
    downgradedL2cap = some channelId

/-- A measure that every close lowers, unless it makes the next iteration the last, bounds the
loop. -/
theorem dispatchIterations_bounded (measure : BleRuntimeTask δ → Nat)
    {P : BleRuntimeTask δ → Prop}
    (closes : ∀ task held channelId, P task →
      task.egressSessionForDevice deviceId = some (.l2cap held channelId) →
        P (task.handleL2capChannelClosed channelId) ∧
          (measure (task.handleL2capChannelClosed channelId) + 1 = measure task ∨
            LastIteration deviceId (some channelId) (task.handleL2capChannelClosed channelId)))
    {fuel attempt : Nat} (holds : P task)
    (enough : measure task + 2 ≤ fuel ∨ 1 ≤ fuel ∧ LastIteration deviceId downgradedL2cap task) :
    (dispatchIterations accepts deviceId payload fuel attempt downgradedL2cap task).isSome := by
  induction fuel generalizing attempt downgradedL2cap task with
  | zero => omega
  | succ fuel ih =>
      unfold dispatchIterations
      split
      · rfl
      · rename_i session search
        dsimp only
        split
        · rfl
        · rename_i channelId rejected
          split
          · rfl
          · rename_i unguarded
            obtain ⟨held, rfl⟩ := l2cap_of_rejected rejected
            rw [sendViaSession_rejected rejected]
            rcases enough with enough | ⟨-, last⟩
            · obtain ⟨kept, lower | last⟩ := closes task held channelId holds search
              · exact ih kept (Or.inl (by omega))
              · exact ih kept (Or.inr ⟨by omega, last⟩)
            · exact absurd (last held channelId search) unguarded

/-! ## The two measures -/

def inL2capState (sessions : PeerSessions) : Bool :=
  match sessions.state with
  | .l2capPreferred _ _ => true
  | _ => false

def prefersL2capOn (deviceId : DeviceId) (sessions : PeerSessions) : Bool :=
  match sessions.preferredEgress with
  | some (.l2cap held _) => held = deviceId
  | _ => false

def entriesInL2capState (task : BleRuntimeTask δ) : Nat :=
  task.sessions.toList.countP fun entry => inL2capState entry.2

def entriesOnL2cap (deviceId : DeviceId) (task : BleRuntimeTask δ) : Nat :=
  task.sessions.toList.countP fun entry => prefersL2capOn deviceId entry.2

def GattFallbacks (task : BleRuntimeTask δ) : Prop :=
  ∀ (nodeId : NodeId) (sessions : PeerSessions) (session fallback : BleSession),
    task.sessions[nodeId]? = some sessions →
      sessions.state = .l2capPreferred session (some fallback) → fallback.isL2cap = false

theorem lastIteration_of_sessions {closed : BleRuntimeTask δ} {held : DeviceId}
    (same : closed.sessions = task.sessions)
    (search : task.egressSessionForDevice deviceId = some (.l2cap held channelId)) :
    LastIteration deviceId (some channelId) closed := by
  intro other current found
  unfold BleRuntimeTask.egressSessionForDevice at found search
  rw [same, search] at found
  cases found
  rfl

theorem closed_inL2capState {held : DeviceId}
    (search : task.egressSessionForDevice deviceId = some (.l2cap held channelId)) :
    entriesInL2capState (task.handleL2capChannelClosed channelId) + 1 = entriesInL2capState task ∨
      LastIteration deviceId (some channelId) (task.handleL2capChannelClosed channelId) := by
  rcases handleL2capChannelClosed_sessions task channelId with
    same | ⟨channel, sessions, other, fallback, -, known, state, replaced⟩
  · exact Or.inr (lastIteration_of_sessions same search)
  · left
    unfold entriesInL2capState
    rw [replaced]
    apply EntryMap.countP_insert_add_one inL2capState known
    · simp [inL2capState, state]
    · cases fallback <;> rfl

theorem GattFallbacks.closed (fallbacks : GattFallbacks task) (channelId : BleChannelId) :
    GattFallbacks (task.handleL2capChannelClosed channelId) := by
  intro nodeId updated session fallback known state
  rcases handleL2capChannelClosed_sessions task channelId with
    same | ⟨channel, sessions, held, replacement, -, -, -, replaced⟩
  · rw [same] at known
    exact fallbacks nodeId updated session fallback known state
  · rw [replaced, EntryMap.getElem?_insert] at known
    split at known
    · cases known
      cases replacement <;> cases state
    · exact fallbacks nodeId updated session fallback known state

theorem closed_onL2cap (fallbacks : GattFallbacks task) {held : DeviceId}
    (search : task.egressSessionForDevice deviceId = some (.l2cap held channelId)) :
    entriesOnL2cap deviceId (task.handleL2capChannelClosed channelId) + 1 =
        entriesOnL2cap deviceId task ∨
      LastIteration deviceId (some channelId) (task.handleL2capChannelClosed channelId) := by
  rcases handleL2capChannelClosed_sessions task channelId with
    same | ⟨channel, sessions, other, fallback, -, known, state, replaced⟩
  · exact Or.inr (lastIteration_of_sessions same search)
  · -- The entry of the closed channel prefers a GATT session now, or nothing.
    have preferred : sessions.preferredEgress = some (.l2cap other channelId) := by
      simp [PeerSessions.preferredEgress, state]
    have fallen (session : BleSession) (now : PeerSessions.preferredEgress { sessions with
        state := fallback.elim .disconnected fun session => .gattOnly session session } =
          some session) : session.isL2cap = false := by
      cases fallback with
      | none => cases now
      | some fallback =>
          cases now
          exact fallbacks channel.nodeId sessions _ _ known state
    by_cases own : other = deviceId
    · left
      unfold entriesOnL2cap
      rw [replaced]
      apply EntryMap.countP_insert_add_one (prefersL2capOn deviceId) known
      · simp [prefersL2capOn, preferred, own]
      · unfold prefersL2capOn
        split
        · rename_i current now
          cases fallen _ now
        · rfl
    · -- The entry of another device was closed: it may be found now, but not on L2CAP.
      right
      have missed : sessions.egressForDevice deviceId = none := by
        simp [PeerSessions.egressForDevice, preferred, BleSession.deviceId, own]
      intro again current found
      unfold BleRuntimeTask.egressSessionForDevice at found search
      rw [replaced] at found
      rcases EntryMap.findValue_insert_of_none
        (fun sessions => sessions.egressForDevice deviceId) known missed _ with unchanged | ⟨-, now⟩
      · rw [unchanged, search] at found
        cases found
        rfl
      · rw [now] at found
        cases fallen _ (Option.filter_eq_some_iff.mp found).1

theorem countP_toList_le_size (counted : NodeId × PeerSessions → Bool) :
    task.sessions.toList.countP counted ≤ task.sessions.size := by
  rw [← ExtTreeMap.length_toList]
  exact List.countP_le_length

/-- The loop returns after two iterations more than there are entries in the L2CAP state, for every
content of the tables. -/
theorem dispatchIterations_isSome (accepts : Nat → Bool) (deviceId : DeviceId)
    (payload : List UInt8) (task : BleRuntimeTask δ) :
    (dispatchIterations accepts deviceId payload (entriesInL2capState task + 2) 0 none task).isSome :=
  dispatchIterations_bounded entriesInL2capState (P := fun _ => True)
    (fun _ _ _ _ search => ⟨trivial, closed_inL2capState search⟩) trivial (Or.inl (Nat.le_refl _))

theorem dispatchIterations_of_gattFallbacks (accepts : Nat → Bool) (deviceId : DeviceId)
    (payload : List UInt8) (fallbacks : GattFallbacks task) :
    (dispatchIterations accepts deviceId payload (entriesOnL2cap deviceId task + 2) 0 none
      task).isSome :=
  dispatchIterations_bounded (entriesOnL2cap deviceId) (P := GattFallbacks)
    (fun _ _ channelId fallbacks search =>
      ⟨fallbacks.closed channelId, closed_onL2cap fallbacks search⟩) fallbacks (Or.inl (Nat.le_refl _))

theorem dispatchUnicastCommand_of_iterations {endpoint : LinkEndpoint}
    (located : deviceIdFromEndpoint endpoint = some deviceId) {fuel : Nat}
    (returns : (dispatchIterations accepts deviceId payload fuel 0 none task).isSome) :
    ∃ iterations ≤ fuel, dispatchIterations accepts deviceId payload fuel 0 none task =
      some (task.dispatchUnicastCommand accepts endpoint payload, iterations) := by
  obtain ⟨⟨result, iterations⟩, returned⟩ := Option.isSome_iff_exists.mp returns
  obtain ⟨-, bounded⟩ := dispatchUnicastLoop_of_iterations returned
  refine ⟨iterations, by simpa using bounded, ?_⟩
  obtain ⟨⟨other, others⟩, also⟩ :=
    Option.isSome_iff_exists.mp (dispatchIterations_isSome accepts deviceId payload task)
  have size : entriesInL2capState task ≤ task.sessions.size := countP_toList_le_size _
  obtain ⟨spare, enough⟩ := Nat.exists_eq_add_of_le size
  have modelled := dispatchIterations_more also spare
  have same : other = result ∧ others = iterations := by
    have first := dispatchIterations_more returned (entriesInL2capState task + 2)
    have second := dispatchIterations_more also fuel
    rw [Nat.add_comm] at first
    cases first.symm.trans second
    exact ⟨rfl, rfl⟩
  obtain ⟨rfl, rfl⟩ := same
  rw [returned]
  unfold BleRuntimeTask.dispatchUnicastCommand
  rw [located]
  have fuels : task.sessions.size + 2 = entriesInL2capState task + 2 + spare := by omega
  simp only [fuels]
  rw [(dispatchUnicastLoop_of_iterations modelled).1]

/-! ## What the loop hands to the radio -/

def isRadioPath : Effect → Bool
  | .writeCharacteristic .. | .sendL2cap .. => true
  | _ => false

def isNotification : Effect → Bool
  | .notifyCharacteristic .. => true
  | _ => false

/-- The effect sends the payload on the session that the lookup finds in this state. -/
def SentFrom (task : BleRuntimeTask δ) (deviceId : DeviceId) (payload : List UInt8)
    (effect : Effect) : Prop :=
  effect = .writeCharacteristic deviceId jacquardC2pCharUuid payload ∨
    ∃ channelId channel,
      task.egressSessionForDevice deviceId = some (.l2cap deviceId channelId) ∧
      task.l2capChannels[channelId]? = some channel ∧ effect = .sendL2cap channelId payload

theorem sendViaSession_sent {accepted : Bool} {session : BleSession}
    (search : task.egressSessionForDevice deviceId = some session)
    (sent : (task.sendViaSession accepted session payload).2 = none) :
    ∃ effect, (task.sendViaSession accepted session payload).1 = task.perform effect ∧
      SentFrom task deviceId payload effect := by
  have own := deviceId_of_egressSession search
  unfold BleRuntimeTask.sendViaSession at sent ⊢
  cases session with
  | gattCentral held =>
      obtain rfl : held = deviceId := own
      exact ⟨_, rfl, Or.inl rfl⟩
  | l2cap held channelId =>
      obtain rfl : held = deviceId := own
      dsimp only at sent ⊢
      split at sent
      · rename_i accepted
        rw [if_pos accepted]
        have registered : channelId ∈ task.l2capChannels := by
          simpa using (Bool.and_eq_true_iff.mp accepted).1
        exact ⟨_, rfl, Or.inr ⟨channelId, task.l2capChannels[channelId], search,
          ExtTreeMap.getElem?_eq_some_getElem registered, rfl⟩⟩
      · cases sent

/-- What a dispatch does: it announces what it closes and then sends at most once, on a session found
in a state with `P`. -/
def DispatchEffects (P : BleRuntimeTask δ → Prop) (deviceId : DeviceId) (payload : List UInt8)
    (effects : List Effect) : Prop :=
  ∃ (announced : List Effect) (path : Option Effect), effects = announced ++ path.toList ∧
    (∀ effect ∈ announced, ∃ event, effect = .emitControl event) ∧
    ∀ effect ∈ path, ∃ reached, P reached ∧ SentFrom reached deviceId payload effect

theorem dispatchEffects_nil {P : BleRuntimeTask δ → Prop} :
    DispatchEffects P deviceId payload [] :=
  ⟨[], none, rfl, by simp, by simp⟩

theorem dispatchUnicastLoop_effects {P : BleRuntimeTask δ → Prop}
    (closed : ∀ task channelId, P task → P (task.handleL2capChannelClosed channelId))
    (accepts : Nat → Bool) (deviceId : DeviceId) (payload : List UInt8) (fuel attempt : Nat)
    (downgradedL2cap : Option BleChannelId) (holds : P task) :
    ∃ effects, (BleRuntimeTask.dispatchUnicastLoop accepts deviceId payload fuel attempt
        downgradedL2cap task).outbox = task.outbox ++ effects ∧
      DispatchEffects P deviceId payload effects := by
  induction fuel generalizing attempt downgradedL2cap task with
  | zero => exact ⟨[], by simp [BleRuntimeTask.dispatchUnicastLoop], dispatchEffects_nil⟩
  | succ fuel ih =>
      unfold BleRuntimeTask.dispatchUnicastLoop
      cases search : task.egressSessionForDevice deviceId with
      | none => exact ⟨[], by simp, dispatchEffects_nil⟩
      | some session =>
          cases sent : (task.sendViaSession (accepts attempt) session payload).2 with
          | none =>
              simp only [sent]
              obtain ⟨effect, performed, source⟩ := sendViaSession_sent search sent
              rw [performed]
              exact ⟨[effect], rfl, [], some effect, rfl, by simp, by simpa using ⟨task, holds, source⟩⟩
          | some channelId =>
              simp only [sent]
              rw [sendViaSession_rejected sent]
              split
              · exact ⟨[], by simp, dispatchEffects_nil⟩
              · obtain ⟨effects, outbox, announced, path, split, controls, sources⟩ :=
                  ih (attempt + 1) (some channelId) (closed task channelId holds)
                rw [outbox]
                rcases handleL2capChannelClosed_cases task channelId with
                  ⟨-, same⟩ | ⟨channel, -, -, -, -, -, -, announces⟩
                · rw [same]
                  exact ⟨effects, rfl, announced, path, split, controls, sources⟩
                · refine ⟨closeAnnouncement task channelId ++ effects, by simp [announces],
                    closeAnnouncement task channelId ++ announced, path, by simp [split], ?_, sources⟩
                  intro effect member
                  rcases List.mem_append.mp member with now | later
                  · obtain ⟨nodeId, session, rfl⟩ := observed_of_mem_closeAnnouncement now
                    exact ⟨_, rfl⟩
                  · exact controls effect later

theorem dispatchUnicastCommand_effects {P : BleRuntimeTask δ → Prop}
    (closed : ∀ task channelId, P task → P (task.handleL2capChannelClosed channelId))
    {endpoint : LinkEndpoint} (located : deviceIdFromEndpoint endpoint = some deviceId)
    (accepts : Nat → Bool) (payload : List UInt8) (holds : P task) :
    ∃ effects, (task.dispatchUnicastCommand accepts endpoint payload).outbox =
        task.outbox ++ effects ∧ DispatchEffects P deviceId payload effects := by
  unfold BleRuntimeTask.dispatchUnicastCommand
  rw [located]
  exact dispatchUnicastLoop_effects closed accepts deviceId payload _ 0 none holds

theorem DispatchEffects.counts {P : BleRuntimeTask δ → Prop} {effects : List Effect}
    (dispatched : DispatchEffects P deviceId payload effects) :
    effects.countP isRadioPath ≤ 1 ∧ ∀ effect ∈ effects, isNotification effect = false := by
  obtain ⟨announced, path, rfl, controls, sources⟩ := dispatched
  constructor
  · have quiet : announced.countP isRadioPath = 0 := by
      rw [List.countP_eq_zero]
      intro effect member
      obtain ⟨event, rfl⟩ := controls effect member
      simp [isRadioPath]
    rw [List.countP_append, quiet, Nat.zero_add]
    exact Nat.le_trans List.countP_le_length (by cases path <;> simp)
  · intro effect member
    rcases List.mem_append.mp member with control | sent
    · obtain ⟨event, rfl⟩ := controls effect control
      rfl
    · obtain ⟨reached, -, rfl | ⟨channelId, channel, -, -, rfl⟩⟩ :=
        sources effect (Option.mem_toList.mp sent)
      · rfl
      · rfl

/-! ## The channel of a session is its own -/

/-- A registered channel that a session prefers is the session's own, unless the ids have run out. -/
def OwnChannels (task : BleRuntimeTask δ) : Prop :=
  ∀ (nodeId : NodeId) (deviceId : DeviceId) (channelId : BleChannelId)
    (channel : ActiveL2capChannel), PrefersL2cap task nodeId deviceId channelId →
      task.l2capChannels[channelId]? = some channel →
        channel = ⟨nodeId, deviceId⟩ ∨ channelId.value = u64Max

theorem gattFallbacks_of_wellFormed (formed : WellFormedSessions task) : GattFallbacks task := by
  intro nodeId sessions session fallback known state
  have wellFormed := formed nodeId sessions known
  unfold WellFormed at wellFormed
  rw [state] at wellFormed
  exact wellFormed.2 fallback rfl

/-- The effect sends the payload on a path of the device: a write to it, or its own channel. A channel
with the last id may be anybody's. -/
def OnPathOf (task : BleRuntimeTask δ) (deviceId : DeviceId) (payload : List UInt8)
    (effect : Effect) : Prop :=
  effect = .writeCharacteristic deviceId jacquardC2pCharUuid payload ∨
    ∃ channelId, effect = .sendL2cap channelId payload ∧
      ((∃ nodeId, task.l2capChannels[channelId]? = some ⟨nodeId, deviceId⟩) ∨
        channelId.value = u64Max)

/-- What holds of the states inside a dispatch from `task`. -/
structure Dispatching (task reached : BleRuntimeTask δ) : Prop where
  ids : ChannelIds reached
  own : OwnChannels reached
  channels : ∀ (channelId : BleChannelId) (channel : ActiveL2capChannel),
    reached.l2capChannels[channelId]? = some channel →
      task.l2capChannels[channelId]? = some channel

theorem DispatchEffects.onPathOf {effects : List Effect}
    (dispatched : DispatchEffects (Dispatching task) deviceId payload effects) {effect : Effect}
    (member : effect ∈ effects) (path : isRadioPath effect = true) :
    OnPathOf task deviceId payload effect := by
  obtain ⟨announced, sent, rfl, controls, sources⟩ := dispatched
  rcases List.mem_append.mp member with control | sent
  · obtain ⟨event, rfl⟩ := controls effect control
    cases path
  · obtain ⟨reached, dispatching, write | ⟨channelId, channel, search, registered, rfl⟩⟩ :=
      sources effect (Option.mem_toList.mp sent)
    · exact Or.inl write
    · obtain ⟨nodeId, sessions, known, preferred, -⟩ := preferred_of_egressSession search
      refine Or.inr ⟨channelId, rfl, ?_⟩
      rcases dispatching.own nodeId deviceId channelId channel ⟨sessions, known, preferred⟩
        registered with rfl | last
      · exact Or.inl ⟨nodeId, dispatching.channels channelId _ registered⟩
      · exact Or.inr last

section
variable [PeerDirectory δ BlePeerKey DiscoveredPeerHint]
  {start before after : BleRuntimeTask δ} {turn : Turn}

theorem OwnChannels.change (own : OwnChannels before) (ids : ChannelIds before)
    (change : Change start turn before after) : OwnChannels after := by
  intro nodeId deviceId channelId channel prefers registered
  rcases prefersL2cap_change ids.formed change prefers with old | ⟨rfl, rfl⟩
  · rcases l2capChannels_change change registered with kept | ⟨rfl, -, -⟩
    · exact own nodeId deviceId channelId channel old kept
    · -- The id of a new channel was given out before only if there is no further one.
      have assigned := ids.preferred nodeId deviceId _ old
      unfold Assigned at assigned
      dsimp only at assigned ⊢
      omega
  · rw [l2capChannels_installL2capSession, if_pos rfl, Option.some.injEq] at registered
    exact Or.inl registered.symm

theorem Dispatching.closed {reached : BleRuntimeTask δ} (dispatching : Dispatching task reached)
    (channelId : BleChannelId) :
    Dispatching task (reached.handleL2capChannelClosed channelId) := by
  have change : Change reached ⟨.l2cap (.channelClosed channelId), Scenario.silent⟩ reached
    (reached.handleL2capChannelClosed channelId) := .close channelId (Or.inl rfl)
  refine ⟨dispatching.ids.change change, dispatching.own.change dispatching.ids change, ?_⟩
  intro other channel registered
  rw [l2capChannels_handleL2capChannelClosed] at registered
  split at registered
  · cases registered
  · exact dispatching.channels other channel registered

theorem dispatching_run {targetOs : TargetOs} {localNodeId : NodeId} {config : BleConfig}
    {restoredState : BleRestoredState} {initial : BleRuntimeTask δ}
    (created : BleRuntimeTask.new targetOs localNodeId config restoredState = .ok initial)
    (turns : List Turn) :
    Dispatching (exec BleRuntimeTask.step initial turns) (exec BleRuntimeTask.step initial turns) := by
  have holds : ChannelIds (exec BleRuntimeTask.step initial turns) ∧
      OwnChannels (exec BleRuntimeTask.step initial turns) := by
    refine exec_always (P := fun task => ChannelIds task ∧ OwnChannels task) ?_ ?_ turns
    · refine ⟨channelIds_new created, ?_⟩
      obtain rfl := eq_launch_of_new created
      intro nodeId deviceId channelId channel _ registered
      simp [BleRuntimeTask.launch] at registered
    · rintro task turn ⟨ids, own⟩
      refine step_induction (P := fun task => ChannelIds task ∧ OwnChannels task) task turn
        ⟨ids.of_outbox, own⟩ ?_
      rintro before after change ⟨ids, own⟩
      exact ⟨ids.change change, own.change ids change⟩
  exact ⟨holds.1, holds.2, fun _ _ registered => registered⟩

/-- A unicast dispatch returns after at most two iterations more than there are entries in the L2CAP
state, hands the payload to at most one path and notifies nobody; where no entry falls back to L2CAP
the entries that prefer L2CAP on the device count, and in every state of a run that is so and the path
is the device's. -/
theorem dispatch_unicast_bounded {endpoint : LinkEndpoint}
    (located : deviceIdFromEndpoint endpoint = some deviceId) (accepts : Nat → Bool)
    (payload : List UInt8) :
    (∀ task : BleRuntimeTask δ,
      (∃ iterations ≤ entriesInL2capState task + 2,
        dispatchIterations accepts deviceId payload (entriesInL2capState task + 2) 0 none task =
          some (task.dispatchUnicastCommand accepts endpoint payload, iterations)) ∧
      (GattFallbacks task → ∃ iterations ≤ entriesOnL2cap deviceId task + 2,
        dispatchIterations accepts deviceId payload (entriesOnL2cap deviceId task + 2) 0 none task =
          some (task.dispatchUnicastCommand accepts endpoint payload, iterations)) ∧
      ∃ effects, (task.dispatchUnicastCommand accepts endpoint payload).outbox =
          task.outbox ++ effects ∧ effects.countP isRadioPath ≤ 1 ∧
        ∀ effect ∈ effects, isNotification effect = false) ∧
    ∀ (targetOs : TargetOs) (localNodeId : NodeId) (config : BleConfig)
      (restoredState : BleRestoredState) (initial : BleRuntimeTask δ) (turns : List Turn),
      BleRuntimeTask.new targetOs localNodeId config restoredState = .ok initial →
      RunOf restoredState.centralDevices turns →
      GattFallbacks (exec BleRuntimeTask.step initial turns) ∧
      ∃ effects, ((exec BleRuntimeTask.step initial turns).dispatchUnicastCommand accepts endpoint
          payload).outbox = (exec BleRuntimeTask.step initial turns).outbox ++ effects ∧
        ∀ effect ∈ effects, isRadioPath effect = true →
          OnPathOf (exec BleRuntimeTask.step initial turns) deviceId payload effect := by
  constructor
  · intro task
    have anywhere : (fun _ : BleRuntimeTask δ => True) task := trivial
    obtain ⟨effects, outbox, dispatched⟩ := dispatchUnicastCommand_effects
      (P := fun _ => True) (fun _ _ _ => trivial) located accepts payload anywhere
    refine ⟨dispatchUnicastCommand_of_iterations located
      (dispatchIterations_isSome accepts deviceId payload task), ?_, effects, outbox,
      dispatched.counts⟩
    intro fallbacks
    exact dispatchUnicastCommand_of_iterations located
      (dispatchIterations_of_gattFallbacks accepts deviceId payload fallbacks)
  · intro targetOs localNodeId config restoredState initial turns created run
    have dispatching := dispatching_run created turns
    obtain ⟨effects, outbox, dispatched⟩ := dispatchUnicastCommand_effects
      (P := Dispatching (exec BleRuntimeTask.step initial turns))
      (fun _ channelId dispatching => dispatching.closed channelId) located accepts payload dispatching
    exact ⟨gattFallbacks_of_wellFormed dispatching.ids.formed, effects, outbox,
      fun effect member path => dispatched.onPathOf member path⟩

end

/-! ## Tables no run reaches, and ids that have run out -/

namespace Scenario

/-- Entries that fall back from L2CAP to L2CAP, each on the channel the one before it prefers. -/
def chained : BleRuntimeTask PeerMap :=
  { launched .other with
    sessions := ((∅ : ExtTreeMap NodeId PeerSessions).insert (node 4)
      (.l2capPreferred (.l2cap ⟨"d"⟩ ⟨1⟩) none)).insert (node 3)
      (.l2capPreferred (.l2cap ⟨"x"⟩ ⟨1⟩) (some (.l2cap ⟨"d"⟩ ⟨2⟩))) |>.insert (node 2)
      (.l2capPreferred (.l2cap ⟨"x"⟩ ⟨2⟩) (some (.l2cap ⟨"d"⟩ ⟨3⟩)))
    l2capChannels := ((∅ : ExtTreeMap BleChannelId ActiveL2capChannel).insert ⟨1⟩
      ⟨node 3, ⟨"x"⟩⟩).insert ⟨2⟩ ⟨node 2, ⟨"x"⟩⟩ }

def openChannel (deviceId : DeviceId) (nodeId : NodeId) : Turn :=
  ⟨.l2capAccept (.ok deviceId), { silent with readL2capIdentity := some nodeId }⟩

def bothPeers : List Turn := meet ⟨"a"⟩ (node 2) none ++ meet ⟨"b"⟩ (node 3) none

def reopened (count : Nat) : List Turn :=
  bothPeers ++ (List.replicate count (openChannel ⟨"a"⟩ (node 2)) ++
    [openChannel ⟨"a"⟩ (node 2), openChannel ⟨"b"⟩ (node 3)])

theorem runOf_reopened (count : Nat) : RunOf [] (reopened count) := by
  apply runOf_looped
  simp only [reopened, bothPeers, List.all_append, List.all_replicate]
  cases count <;> rfl

end Scenario

open Scenario

section
variable [PeerDirectory δ BlePeerKey DiscoveredPeerHint] {nodeId : NodeId}

theorem step_accept (resolved : task.resolvedNodeIdForDevice deviceId = some nodeId) :
    task.step (openChannel deviceId nodeId) =
      BleRuntimeTask.installL2capSession { task with outbox := [] } nodeId deviceId := by
  have known : BleRuntimeTask.resolvedNodeIdForDevice { task with outbox := [] } deviceId =
    some nodeId := resolved
  simp [BleRuntimeTask.step, BleRuntimeTask.handle, openChannel, BleRuntimeTask.handleL2capAccept, known]

theorem exec_accepts (resolved : task.resolvedNodeIdForDevice deviceId = some nodeId)
    (bounded : task.nextChannelId ≤ u64Max) (count : Nat) :
    (∀ other, (exec BleRuntimeTask.step task
        (List.replicate count (openChannel deviceId nodeId))).resolvedNodeIdForDevice other =
      task.resolvedNodeIdForDevice other) ∧
    (exec BleRuntimeTask.step task (List.replicate count (openChannel deviceId nodeId))).nextChannelId =
      min (task.nextChannelId + count) u64Max := by
  induction count with
  | zero => exact ⟨fun _ => rfl, (Nat.min_eq_left bounded).symm⟩
  | succ count ih =>
      obtain ⟨kept, next⟩ := ih
      rw [List.replicate_succ', exec_snoc, step_accept ((kept deviceId).trans resolved)]
      refine ⟨kept, ?_⟩
      change saturatingAdd u64Max (exec BleRuntimeTask.step task
        (List.replicate count (openChannel deviceId nodeId))).nextChannelId 1 = _
      rw [next, saturatingAdd]
      omega

end

theorem admitsAlone_reopened (count : Nat) :
    Meets BleRuntimeTask.step AdmitsAlone (launched .other) (reopened count) := by
  refine meets_append.mpr ⟨⟨admitsAlone_of_empty rfl, admitsAlone_of_empty rfl, ?_, ?_, trivial⟩, ?_⟩
  · rintro deviceId nodeId ⟨-, ⟨⟨⟩, -⟩ | ⟨device, ⟨⟩, -⟩⟩
  · rintro deviceId nodeId ⟨-, ⟨⟨⟩, -⟩ | ⟨device, ⟨⟩, -⟩⟩ other referenced
    -- Of the turns before, only the connection of the first device admits one.
    have held : Referenced (exec BleRuntimeTask.step (launched .other)
        (meet ⟨"a"⟩ (node 2) none ++ [discover ⟨"b"⟩ (node 3)])) other ⟨"b"⟩ := referenced
    refine absurd (admitted_of_held (new_launched .other) (Or.inr held)) (not_since_of_forall ?_)
    rintro earlier member previous ⟨⟨-, admitted⟩, -⟩
    simp only [meet, List.cons_append, List.nil_append, List.mem_cons, List.not_mem_nil,
      or_false] at member
    rcases member with rfl | rfl | rfl
    all_goals rcases admitted with ⟨event, -⟩ | ⟨device, ⟨⟩, -⟩
    · cases event
    · simp [connect] at event
    · cases event
  · apply meets_of_forall
    intro turn member task
    have accepts : turn = openChannel ⟨"a"⟩ (node 2) ∨ turn = openChannel ⟨"b"⟩ (node 3) := by
      rcases List.mem_append.mp member with repeated | last
      · exact Or.inl (List.eq_of_mem_replicate repeated)
      · simpa using last
    rcases accepts with rfl | rfl
    all_goals rintro deviceId nodeId ⟨-, ⟨⟨⟩, -⟩ | ⟨device, ⟨⟩, -⟩⟩

theorem reopened_channels {count : Nat} (exhausted : count + 1 = u64Max) :
    (reached .other (reopened count)).l2capChannels[(⟨u64Max⟩ : BleChannelId)]? =
        some ⟨node 3, ⟨"b"⟩⟩ ∧
      (reached .other (reopened count)).egressSessionForDevice ⟨"a"⟩ =
        some (.l2cap ⟨"a"⟩ ⟨u64Max⟩) := by
  have owned : OwnedDevices (reached .other (reopened count)) :=
    ownedDevices_run (new_launched .other) (admitsAlone_reopened count)
  have first : (reached .other bothPeers).resolvedNodeIdForDevice ⟨"a"⟩ = some (node 2) := by
    decide +kernel
  have second : (reached .other bothPeers).resolvedNodeIdForDevice ⟨"b"⟩ = some (node 3) := by
    decide +kernel
  have started : (reached .other bothPeers).nextChannelId = 1 := by decide +kernel
  obtain ⟨kept, next⟩ := exec_accepts first (by rw [started]; decide) count
  have run : reached .other (reopened count) =
      ((exec BleRuntimeTask.step (reached .other bothPeers)
        (List.replicate count (openChannel ⟨"a"⟩ (node 2)))).step (openChannel ⟨"a"⟩ (node 2))).step
        (openChannel ⟨"b"⟩ (node 3)) := by
    unfold reached reopened
    rw [exec_append, exec_append]
    rfl
  generalize exec BleRuntimeTask.step (reached .other bothPeers)
    (List.replicate count (openChannel ⟨"a"⟩ (node 2))) = repeated at kept next run
  have last : repeated.nextChannelId = u64Max := by
    rw [next, started]
    omega
  have opened := step_accept ((kept ⟨"a"⟩).trans first)
  have resolved : (repeated.step (openChannel ⟨"a"⟩ (node 2))).resolvedNodeIdForDevice ⟨"b"⟩ =
      some (node 3) := by
    rw [opened]
    exact (kept ⟨"b"⟩).trans second
  have again : (repeated.step (openChannel ⟨"a"⟩ (node 2))).nextChannelId = u64Max := by
    rw [opened]
    change saturatingAdd u64Max repeated.nextChannelId 1 = u64Max
    rw [last, saturatingAdd]
    omega
  rw [step_accept resolved] at run
  constructor
  · rw [run, l2capChannels_installL2capSession]
    exact if_pos (congrArg BleChannelId.mk again.symm)
  · have known : ∃ sessions, (reached .other (reopened count)).sessions[node 2]? = some sessions ∧
        sessions.preferredEgress = some (.l2cap ⟨"a"⟩ ⟨u64Max⟩) := by
      rw [run, sessions_installL2capSession, if_neg (by decide)]
      change ∃ sessions, (repeated.step (openChannel ⟨"a"⟩ (node 2))).sessions[node 2]? = some sessions ∧ _
      rw [opened, sessions_installL2capSession, if_pos rfl, ← last]
      refine ⟨_, rfl, ?_⟩
      cases ({ repeated with outbox := [] } : BleRuntimeTask PeerMap).sessions[node 2]? <;> rfl
    obtain ⟨sessions, known, preferred⟩ := known
    exact owned.uniqueEgress.egressSession known preferred

theorem dispatch_misrouted {count : Nat} (exhausted : count + 1 = u64Max) :
    ((reached .other (reopened count)).dispatchUnicastCommand (fun _ => true)
        (l2capEndpoint ⟨"a"⟩) [7]).outbox =
      (reached .other (reopened count)).outbox ++ [.sendL2cap ⟨u64Max⟩ [7]] := by
  obtain ⟨registered, search⟩ := reopened_channels exhausted
  generalize reached .other (reopened count) = task at registered search
  have contained : task.l2capChannels.contains ⟨u64Max⟩ = true := by
    rw [← ExtTreeMap.isSome_getElem?_eq_contains, registered]
    rfl
  simp only [BleRuntimeTask.dispatchUnicastCommand, deviceIdFromEndpoint_l2capEndpoint,
    BleRuntimeTask.dispatchUnicastLoop, search, BleRuntimeTask.sendViaSession, contained,
    Bool.and_self, if_true]
  rfl

/-- With fallbacks on L2CAP one entry on the device is worth more than three iterations, and once the
channel ids have run out the payload for one device goes to another. -/
theorem dispatch_unicast_unbounded :
    (entriesOnL2cap ⟨"d"⟩ chained = 1 ∧
      (dispatchIterations (fun _ => false) ⟨"d"⟩ [7] (1 + 2) 0 none chained).isSome = false) ∧
    ∃ count, count + 1 = u64Max ∧ RunOf [] (reopened count) ∧
      (reached .other (reopened count)).l2capChannels[(⟨u64Max⟩ : BleChannelId)]? =
        some ⟨node 3, ⟨"b"⟩⟩ ∧
      ((reached .other (reopened count)).dispatchUnicastCommand (fun _ => true)
          (l2capEndpoint ⟨"a"⟩) [7]).outbox =
        (reached .other (reopened count)).outbox ++ [.sendL2cap ⟨u64Max⟩ [7]] := by
  refine ⟨⟨by decide +kernel, by decide +kernel⟩, ?_⟩
  obtain ⟨count, exhausted⟩ : ∃ count, count + 1 = u64Max := ⟨u64Max - 1, by decide⟩
  exact ⟨count, exhausted, runOf_reopened count, (reopened_channels exhausted).1,
    dispatch_misrouted exhausted⟩

theorem dispatch_unicast_bounded_chained :
    (∃ iterations ≤ entriesInL2capState chained + 2,
      dispatchIterations (fun _ => false) ⟨"d"⟩ [7] (entriesInL2capState chained + 2) 0 none chained =
        some (chained.dispatchUnicastCommand (fun _ => false) (l2capEndpoint ⟨"d"⟩) [7],
          iterations)) ∧
    GattFallbacks (reached .other addressRotation) := by
  obtain ⟨every, runs⟩ := dispatch_unicast_bounded (δ := PeerMap)
    (deviceIdFromEndpoint_l2capEndpoint ⟨"d"⟩) (fun _ => false) [7]
  exact ⟨(every chained).1, (runs _ _ _ _ _ _ (new_launched .other)
    (runOf_looped addressRotation rfl)).1⟩

end JqBle.Proof.LinkProfile
