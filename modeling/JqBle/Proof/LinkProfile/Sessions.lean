import JqBle.LinkProfile.Transport

/-!
# The sessions of one peer

What each operation on `PeerSessions` does to the sessions it holds, to the preferred egress and to
the subscribers. Proofs about the runtime use these and not the definitions.
-/

namespace JqBle.Proof.LinkProfile
open Host JqBle.LinkProfile PeerSessions

variable {sessions : PeerSessions} {session other : BleSession} {deviceId : DeviceId}
  {channelId : BleChannelId} {subscriber : BleNotifySubscriber}

/-- A GATT state has one central session, and an L2CAP state a channel and at most a central session
to fall back on. -/
def WellFormed (sessions : PeerSessions) : Prop :=
  match sessions.state with
  | .disconnected => True
  | .gattOnly ingress egress => ingress = egress ∧ egress.isL2cap = false
  | .l2capPreferred session fallback =>
      session.isL2cap = true ∧ ∀ held ∈ fallback, held.isL2cap = false

/-! ## Preferred egress -/

theorem preferredEgress_mem_iterSessions (preferred : sessions.preferredEgress = some session) :
    session ∈ sessions.iterSessions := by
  unfold preferredEgress at preferred
  unfold iterSessions
  cases state : sessions.state <;> simp_all

theorem preferredEgress_installGattCentral (sessions : PeerSessions) (session : BleSession) :
    (sessions.installGattCentral session).preferredEgress = some session ∨
      ∃ held fallback, sessions.state = .l2capPreferred held fallback ∧
        (sessions.installGattCentral session).preferredEgress = some held := by
  unfold installGattCentral preferredEgress
  cases state : sessions.state <;> simp

/-- A downgrade turns the state of the closed channel into its fallback, and leaves every other
state alone. -/
theorem downgradeL2cap_cases (sessions : PeerSessions) (channelId : BleChannelId) :
    (∃ deviceId fallback, sessions.state = .l2capPreferred (.l2cap deviceId channelId) fallback ∧
      (sessions.downgradeL2cap channelId).1 =
        { sessions with
          state := fallback.elim .disconnected fun session => .gattOnly session session }) ∨
    ((∀ deviceId fallback, sessions.state ≠ .l2capPreferred (.l2cap deviceId channelId) fallback) ∧
      (sessions.downgradeL2cap channelId).1 = sessions) := by
  unfold downgradeL2cap
  split
  · rename_i held current fallback state
    split
    · rename_i same
      subst same
      refine Or.inl ⟨held, fallback, state, ?_⟩
      cases fallback <;> rfl
    · rename_i different
      refine Or.inr ⟨?_, rfl⟩
      rw [state]
      rintro deviceId fallback' equal
      cases equal
      exact different rfl
  · rename_i otherwise
    exact Or.inr ⟨fun deviceId fallback => otherwise deviceId channelId fallback, rfl⟩

theorem downgradeL2cap_of_ne {closed : BleChannelId}
    (other : ∀ deviceId channelId, sessions.preferredEgress = some (.l2cap deviceId channelId) →
      channelId ≠ closed) : (sessions.downgradeL2cap closed).1 = sessions := by
  rcases downgradeL2cap_cases sessions closed with ⟨deviceId, fallback, state, -⟩ | ⟨-, kept⟩
  · exact absurd rfl (other deviceId closed (by simp [preferredEgress, state]))
  · exact kept

theorem downgradeL2cap_snd (sessions : PeerSessions) (channelId : BleChannelId) :
    (sessions.downgradeL2cap channelId).2 = (sessions.downgradeL2cap channelId).1.preferredEgress := by
  unfold downgradeL2cap
  split
  · split
    · split <;> rfl
    · rfl
  · rfl

theorem preferredEgress_eq_some_l2cap (wellFormed : WellFormed sessions)
    (preferred : sessions.preferredEgress = some (.l2cap deviceId channelId)) :
    ∃ fallback, sessions.state = .l2capPreferred (.l2cap deviceId channelId) fallback := by
  unfold preferredEgress at preferred
  unfold WellFormed at wellFormed
  cases state : sessions.state with
  | disconnected => simp [state] at preferred
  | gattOnly ingress egress =>
      rw [state] at preferred wellFormed
      obtain rfl : egress = .l2cap deviceId channelId := by simpa using preferred
      simp [BleSession.isL2cap] at wellFormed
  | l2capPreferred held fallback =>
      rw [state] at preferred
      obtain rfl : held = .l2cap deviceId channelId := by simpa using preferred
      exact ⟨fallback, rfl⟩

theorem preferredEgress_downgradeL2cap {closed : BleChannelId} (wellFormed : WellFormed sessions)
    (preferred : (sessions.downgradeL2cap closed).1.preferredEgress =
      some (.l2cap deviceId channelId)) :
    channelId ≠ closed ∧ sessions.preferredEgress = some (.l2cap deviceId channelId) := by
  rcases downgradeL2cap_cases sessions closed with ⟨held, fallback, state, equal⟩ | ⟨kept, equal⟩
  · rw [equal] at preferred
    unfold WellFormed at wellFormed
    rw [state] at wellFormed
    cases fallback with
    | none => simp [preferredEgress] at preferred
    | some session =>
        obtain rfl : session = .l2cap deviceId channelId := by
          simpa [preferredEgress] using preferred
        simp [BleSession.isL2cap] at wellFormed
  · rw [equal] at preferred
    refine ⟨?_, preferred⟩
    rintro rfl
    obtain ⟨fallback, state⟩ := preferredEgress_eq_some_l2cap wellFormed preferred
    exact kept deviceId fallback state

/-! ## Well-formedness -/

theorem wellFormed_gattWithFallback : WellFormed (gattWithFallback (.gattCentral deviceId)) :=
  ⟨rfl, rfl⟩

theorem wellFormed_gattNotifyFanout : WellFormed (gattNotifyFanout subscriber) := trivial

theorem wellFormed_l2capPreferred : WellFormed (l2capPreferred (.l2cap deviceId channelId) none) :=
  ⟨rfl, by simp⟩

theorem WellFormed.installGattCentral (wellFormed : WellFormed sessions) :
    WellFormed (sessions.installGattCentral (.gattCentral deviceId)) := by
  unfold WellFormed at wellFormed ⊢
  unfold PeerSessions.installGattCentral
  cases state : sessions.state with
  | disconnected => exact ⟨rfl, rfl⟩
  | gattOnly ingress egress => exact ⟨rfl, rfl⟩
  | l2capPreferred held fallback =>
      rw [state] at wellFormed
      refine ⟨wellFormed.1, ?_⟩
      cases fallback with
      | none => simp [BleSession.isL2cap]
      | some fallback => simpa using wellFormed.2

theorem firstGattFallback_not_l2cap (found : sessions.firstGattFallback = some session) :
    session.isL2cap = false := by
  simpa using List.find?_some found

theorem WellFormed.promoteL2cap :
    WellFormed (sessions.promoteL2cap (.l2cap deviceId channelId)) :=
  ⟨rfl, fun _ found => firstGattFallback_not_l2cap found⟩

theorem WellFormed.downgradeL2cap (wellFormed : WellFormed sessions) :
    WellFormed (sessions.downgradeL2cap channelId).1 := by
  rcases downgradeL2cap_cases sessions channelId with ⟨deviceId, fallback, state, equal⟩ | ⟨-, equal⟩
  · rw [equal]
    unfold WellFormed at wellFormed
    rw [state] at wellFormed
    cases fallback with
    | none => trivial
    | some fallback => exact ⟨rfl, wellFormed.2 fallback rfl⟩
  · rwa [equal]

theorem WellFormed.installGattSubscription (wellFormed : WellFormed sessions) :
    WellFormed (sessions.installGattSubscription subscriber) := wellFormed

theorem WellFormed.removeGattSubscription (wellFormed : WellFormed sessions) :
    WellFormed (sessions.removeGattSubscription deviceId).1 := wellFormed

/-! ## Devices a peer is reached through -/

theorem referencesDevice_iff : sessions.referencesDevice deviceId = true ↔
    (∃ held ∈ sessions.iterSessions, held.deviceId = deviceId) ∨
      ∃ held ∈ sessions.notifySubscribers, held.deviceId = deviceId := by
  simp [referencesDevice]

theorem mem_iterSessions_installGattCentral
    (member : other ∈ (sessions.installGattCentral session).iterSessions) :
    other = session ∨ other ∈ sessions.iterSessions := by
  unfold installGattCentral at member
  unfold iterSessions at member ⊢
  cases state : sessions.state with
  | disconnected => simp_all
  | gattOnly ingress egress => simp_all
  | l2capPreferred held fallback =>
      rw [state] at member
      cases fallback with
      | none => simp_all [or_comm]
      | some fallback => simp_all

theorem mem_iterSessions_promoteL2cap
    (member : other ∈ (sessions.promoteL2cap session).iterSessions) :
    other = session ∨ other ∈ sessions.iterSessions := by
  rcases List.mem_cons.mp member with same | held
  · exact Or.inl same
  · exact Or.inr (List.mem_of_find?_eq_some (Option.mem_toList.mp held))

theorem mem_iterSessions_downgradeL2cap
    (member : other ∈ (sessions.downgradeL2cap channelId).1.iterSessions) :
    other ∈ sessions.iterSessions := by
  rcases downgradeL2cap_cases sessions channelId with ⟨deviceId, fallback, state, equal⟩ | ⟨-, equal⟩
  · rw [equal] at member
    unfold iterSessions at member ⊢
    rw [state]
    cases fallback with
    | none => simp at member
    | some fallback =>
        obtain rfl : other = fallback := by simpa using member
        simp
  · rwa [equal] at member

/-! ## Subscribers -/

@[simp] theorem notifySubscribers_installGattCentral :
    (sessions.installGattCentral session).notifySubscribers = sessions.notifySubscribers := by
  unfold installGattCentral
  split <;> rfl

@[simp] theorem notifySubscribers_promoteL2cap :
    (sessions.promoteL2cap session).notifySubscribers = sessions.notifySubscribers := rfl

@[simp] theorem notifySubscribers_downgradeL2cap :
    (sessions.downgradeL2cap channelId).1.notifySubscribers = sessions.notifySubscribers := by
  rcases downgradeL2cap_cases sessions channelId with ⟨deviceId, fallback, state, equal⟩ | ⟨-, equal⟩
  · rw [equal]
  · rw [equal]

theorem mem_installSubscriber {subscribers : List BleNotifySubscriber} {held : BleNotifySubscriber} :
    held ∈ installSubscriber subscriber subscribers ↔ held = subscriber ∨ held ∈ subscribers := by
  induction subscribers with
  | nil => simp [installSubscriber]
  | cons existing rest ih =>
      unfold installSubscriber
      split
      · rename_i same
        -- The replaced subscriber is the same value: a subscriber is its device.
        obtain rfl : existing = subscriber := by
          cases existing
          cases subscriber
          simpa using same
        simp
      · rw [List.mem_cons, ih, List.mem_cons, or_left_comm]

theorem installSubscriber_ne_nil (subscribers : List BleNotifySubscriber) :
    installSubscriber subscriber subscribers ≠ [] := by
  intro empty
  have member : subscriber ∈ installSubscriber subscriber subscribers :=
    mem_installSubscriber.mpr (Or.inl rfl)
  simp [empty] at member

theorem mem_removeGattSubscription {held : BleNotifySubscriber} :
    held ∈ (sessions.removeGattSubscription deviceId).1.notifySubscribers ↔
      held ∈ sessions.notifySubscribers ∧ held.deviceId ≠ deviceId := by
  simp [removeGattSubscription]

theorem removeGattSubscription_snd : (sessions.removeGattSubscription deviceId).2 = true ↔
    ∃ held ∈ sessions.notifySubscribers, held.deviceId = deviceId := by
  simp only [removeGattSubscription, decide_eq_true_eq, ne_eq,
    eq_comm (a := sessions.notifySubscribers.length), List.length_filter_eq_length_iff,
    not_forall, not_not, exists_prop]

theorem notifySubscriberDeviceId_isSome :
    sessions.notifySubscriberDeviceId.isSome ↔ sessions.notifySubscribers ≠ [] := by
  unfold notifySubscriberDeviceId
  cases sessions.notifySubscribers <;> simp

/-! An operation mentions the devices that were mentioned before and at most the one it installs. -/

theorem referencesDevice_gattWithFallback :
    (gattWithFallback session).referencesDevice deviceId = true ↔ session.deviceId = deviceId := by
  simp [referencesDevice, gattWithFallback, gattOnly, iterSessions]

theorem referencesDevice_l2capPreferred :
    (l2capPreferred session none).referencesDevice deviceId = true ↔
      session.deviceId = deviceId := by
  simp [referencesDevice, l2capPreferred, iterSessions]

theorem referencesDevice_gattNotifyFanout :
    (gattNotifyFanout subscriber).referencesDevice deviceId = true ↔
      subscriber.deviceId = deviceId := by
  simp [referencesDevice, gattNotifyFanout, iterSessions]

theorem references_installGattCentral
    (references : (sessions.installGattCentral session).referencesDevice deviceId = true) :
    session.deviceId = deviceId ∨ sessions.referencesDevice deviceId = true := by
  rw [referencesDevice_iff, notifySubscribers_installGattCentral] at references
  rw [referencesDevice_iff]
  rcases references with ⟨held, member, same⟩ | subscribed
  · rcases mem_iterSessions_installGattCentral member with rfl | old
    · exact Or.inl same
    · exact Or.inr (Or.inl ⟨held, old, same⟩)
  · exact Or.inr (Or.inr subscribed)

theorem references_promoteL2cap
    (references : (sessions.promoteL2cap session).referencesDevice deviceId = true) :
    session.deviceId = deviceId ∨ sessions.referencesDevice deviceId = true := by
  rw [referencesDevice_iff, notifySubscribers_promoteL2cap] at references
  rw [referencesDevice_iff]
  rcases references with ⟨held, member, same⟩ | subscribed
  · rcases mem_iterSessions_promoteL2cap member with rfl | old
    · exact Or.inl same
    · exact Or.inr (Or.inl ⟨held, old, same⟩)
  · exact Or.inr (Or.inr subscribed)

theorem references_downgradeL2cap
    (references : (sessions.downgradeL2cap channelId).1.referencesDevice deviceId = true) :
    sessions.referencesDevice deviceId = true := by
  rw [referencesDevice_iff, notifySubscribers_downgradeL2cap] at references
  rw [referencesDevice_iff]
  rcases references with ⟨held, member, same⟩ | subscribed
  · exact Or.inl ⟨held, mem_iterSessions_downgradeL2cap member, same⟩
  · exact Or.inr subscribed

theorem references_installGattSubscription
    (references : (sessions.installGattSubscription subscriber).referencesDevice deviceId = true) :
    subscriber.deviceId = deviceId ∨ sessions.referencesDevice deviceId = true := by
  rw [referencesDevice_iff] at references ⊢
  rcases references with held | ⟨held, member, same⟩
  · exact Or.inr (Or.inl held)
  · rcases mem_installSubscriber.mp member with rfl | old
    · exact Or.inl same
    · exact Or.inr (Or.inr ⟨held, old, same⟩)

theorem references_removeGattSubscription {other : DeviceId}
    (references : (sessions.removeGattSubscription other).1.referencesDevice deviceId = true) :
    sessions.referencesDevice deviceId = true := by
  rw [referencesDevice_iff] at references ⊢
  rcases references with held | ⟨held, member, same⟩
  · exact Or.inl held
  · exact Or.inr ⟨held, (mem_removeGattSubscription.mp member).1, same⟩

/-! ## Endpoints -/

theorem mem_foldl_pushUniqueEndpoint {α : Type} (items : List α) (endpoint : α → LinkEndpoint)
    (known : List LinkEndpoint) (found : LinkEndpoint) :
    found ∈ items.foldl (fun endpoints item => pushUniqueEndpoint endpoints (endpoint item)) known ↔
      found ∈ known ∨ ∃ item ∈ items, endpoint item = found := by
  induction items generalizing known with
  | nil => simp
  | cons item rest ih =>
      have pushed : found ∈ pushUniqueEndpoint known (endpoint item) ↔
          found ∈ known ∨ endpoint item = found := by
        unfold pushUniqueEndpoint
        split
        · rename_i member
          constructor
          · exact Or.inl
          · rintro (held | rfl)
            · exact held
            · exact member
        · simp [eq_comm]
      rw [List.foldl_cons, ih, pushed]
      simp [or_assoc]

theorem mem_endpointsForDevice {endpoint : LinkEndpoint} :
    endpoint ∈ sessions.endpointsForDevice deviceId ↔
      (∃ held ∈ sessions.iterSessions, held.deviceId = deviceId ∧ held.endpoint = endpoint) ∨
        (endpoint = gattNotifyFanoutEndpoint ∧
          ∃ held ∈ sessions.notifySubscribers, held.deviceId = deviceId) := by
  unfold endpointsForDevice
  rw [mem_foldl_pushUniqueEndpoint _ (fun _ => gattNotifyFanoutEndpoint),
    mem_foldl_pushUniqueEndpoint _ BleSession.endpoint]
  simp only [List.not_mem_nil, List.mem_filter, decide_eq_true_eq, false_or, and_assoc]
  constructor
  · rintro (unicast | ⟨held, member, same, rfl⟩)
    · exact Or.inl unicast
    · exact Or.inr ⟨rfl, held, member, same⟩
  · rintro (unicast | ⟨rfl, held, member, same⟩)
    · exact Or.inl unicast
    · exact Or.inr ⟨held, member, same, rfl⟩

end JqBle.Proof.LinkProfile
