import JqBle.Client.Stream
import JqBle.Proof.Client.Sends

/-!
# What the topology stream yields

The stored snapshot is read before the subscription. A publication between the two is neither read nor
received, and if it is the last one the caller is left with the topology before it.
-/

namespace JqBle.Proof.Client
open Library Execution JqBle.NodeProfile JqBle.Client

variable {feed : TopologyFeed} {first : MeshTopology} {earlier : List MeshTopology}

theorem publishTopology_refines {π : Type} (task : ClientTask π) :
    exec TopologyPublisher.step ⟨task.topology, none, task.topologyUpdates⟩
        [.store task.projector.snapshot, .broadcast] =
      ⟨task.publishTopology.topology, none, task.publishTopology.topologyUpdates⟩ := rfl

/-! ## After the subscription -/

/-- The stream has what was read and, of what was broadcast since the subscription, the last. -/
structure Follows (first : MeshTopology) (earlier : List MeshTopology) (feed : TopologyFeed) :
    Prop where
  initial : ∀ snapshot, feed.stream.initial = some snapshot → snapshot = first
  yields : feed.stream.initial = some first ∨ first ∈ feed.stream.yielded
  sent : ∃ later, feed.publisher.published = earlier ++ later ∧
    (later = [] → feed.stream.received = [] ∧ ∀ snapshot ∈ feed.stream.yielded, snapshot = first) ∧
    ∀ last, later.getLast? = some last → last ∈ feed.stream.yielded ++ feed.stream.received

theorem mem_receive (stream : TopologyStream) (snapshot : MeshTopology) :
    snapshot ∈ (stream.receive snapshot).received := by
  have kept : stream.received.length + 1 - topologyUpdatesCapacity ≤ stream.received.length := by
    simp only [topologyUpdatesCapacity]
    omega
  simp only [TopologyStream.receive, List.length_append, List.length_singleton]
  rw [List.drop_append_of_le_length kept]
  exact List.mem_append_right _ (List.mem_singleton_self _)

theorem Follows.publish (follows : Follows first earlier feed) (next : PublishStep) :
    Follows first earlier (feed.step (.publish next)) := by
  obtain ⟨initial, yields, later, published, nothing, last⟩ := follows
  cases next with
  | store snapshot =>
      have same : (feed.publisher.step (.store snapshot)).published = feed.publisher.published := by
        simp only [TopologyPublisher.step]
        split <;> rfl
      exact ⟨initial, yields, later, same.trans published, nothing, last⟩
  | broadcast =>
      cases publishing : feed.publisher.publishing with
      | none =>
          have same : feed.step (.publish .broadcast) = feed := by
            simp [TopologyFeed.step, TopologyPublisher.step, publishing]
          rw [same]
          exact ⟨initial, yields, later, published, nothing, last⟩
      | some snapshot =>
          simp only [TopologyFeed.step, TopologyPublisher.step, publishing]
          refine ⟨initial, yields, later ++ [snapshot], ?_, ?_, ?_⟩
          · simp only [published, List.append_assoc]
          · intro empty
            simp at empty
          · intro newest isLast
            obtain rfl : snapshot = newest := by simpa using isLast
            exact List.mem_append_right _ (mem_receive feed.stream snapshot)

theorem Follows.poll (follows : Follows first earlier feed) :
    Follows first earlier (feed.step .poll) := by
  obtain ⟨initial, yields, later, published, nothing, last⟩ := follows
  simp only [TopologyFeed.step, TopologyStream.poll]
  split
  · rename_i snapshot unread
    obtain rfl := initial snapshot unread
    refine ⟨(fun _ none => nomatch none), Or.inr (by simp), later, published, ?_, ?_⟩
    · intro empty
      refine ⟨(nothing empty).1, fun other member => ?_⟩
      rcases List.mem_append.mp member with old | new
      · exact (nothing empty).2 other old
      · exact List.mem_singleton.mp new
    · intro newest isLast
      have known := last newest isLast
      simp only [List.mem_append] at known ⊢
      exact known.imp_left Or.inl
  · rename_i snapshot rest unread received
    rw [unread] at yields
    rw [received] at nothing last
    refine ⟨fun _ none => by simp [unread] at none, ?_, later, published, ?_, ?_⟩
    · exact Or.inr (List.mem_append_left _ (yields.resolve_left (by simp)))
    · intro empty
      exact absurd (nothing empty).1 (List.cons_ne_nil _ _)
    · intro newest isLast
      have known := last newest isLast
      simp only [List.mem_append, List.mem_cons] at known ⊢
      tauto
  · exact ⟨initial, yields, later, published, nothing, last⟩

theorem follows_topologyStream (initial : MeshTopology) (before between : List PublishStep)
    (after : List FeedStep) :
    Follows (exec TopologyPublisher.step (.start initial) before).topology
      (TopologyFeed.topologyStream initial before between).publisher.published
      (exec TopologyFeed.step (TopologyFeed.topologyStream initial before between) after) := by
  refine exec_always ?_ ?_ after
  · refine ⟨?_, Or.inl rfl, [], (List.append_nil _).symm, fun _ => ⟨rfl, ?_⟩, ?_⟩
    · rintro snapshot ⟨⟩
      rfl
    · intro snapshot member
      cases member
    · intro last isLast
      cases isLast
  · intro feed next follows
    cases next with
    | publish step => exact follows.publish step
    | poll => exact follows.poll

/-- A caller that has drained the stream has the last published topology exactly when that was broadcast
after the subscription or is the one that was stored when the call read it. -/
theorem stream_yields_last_iff (initial : MeshTopology) (before between : List PublishStep)
    (after : List FeedStep) (last : MeshTopology) :
    let atRead := exec TopologyPublisher.step (.start initial) before
    let subscribed := TopologyFeed.topologyStream initial before between
    let feed := exec TopologyFeed.step subscribed after
    feed.publisher.published.getLast? = some last → feed.stream.drained = true →
      (last ∈ feed.stream.yielded ↔
        subscribed.publisher.published.length < feed.publisher.published.length ∨
          atRead.topology = last) := by
  intro atRead subscribed feed isLast drained
  obtain ⟨-, yields, later, published, nothing, newest⟩ :=
    follows_topologyStream initial before between after
  simp only [TopologyStream.drained, Bool.and_eq_true, Option.isNone_iff_eq_none,
    List.isEmpty_iff] at drained
  change feed.stream.initial = _ ∨ _ ∈ feed.stream.yielded at yields
  rw [drained.1] at yields
  have firstYielded : atRead.topology ∈ feed.stream.yielded := yields.resolve_left (by simp)
  cases later using List.reverseRecOn with
  | nil =>
      have same : subscribed.publisher.published.length = feed.publisher.published.length := by
        rw [show feed.publisher.published = _ from published, List.append_nil]
      simp only [same, Nat.lt_irrefl, false_or]
      constructor
      · intro member
        exact ((nothing rfl).2 last member).symm
      · rintro rfl
        exact firstYielded
  | append_singleton later sent =>
      have grown : subscribed.publisher.published.length < feed.publisher.published.length := by
        rw [show feed.publisher.published = _ from published]
        simp [subscribed]
      have newestYielded : last ∈ feed.stream.yielded := by
        have known := newest last (by
          rw [← isLast, show feed.publisher.published = _ from published]
          simp)
        change last ∈ feed.stream.yielded ++ feed.stream.received at known
        rw [drained.2, List.append_nil] at known
        exact known
      simp [grown, newestYielded]

/-! The client publishes the topology with its first link while the stream is asked for. -/

theorem update_after_subscription_yielded :
    Scenario.linked.topology ∈ (exec TopologyFeed.step
      (TopologyFeed.topologyStream Scenario.spawned.topology [] [.store Scenario.linked.topology])
      [.publish .broadcast, .poll, .poll]).stream.yielded :=
  (stream_yields_last_iff Scenario.spawned.topology [] [.store Scenario.linked.topology]
    [.publish .broadcast, .poll, .poll] Scenario.linked.topology rfl rfl).mpr (Or.inl Nat.one_pos)

theorem update_before_subscription_missed :
    let feed := exec TopologyFeed.step (TopologyFeed.topologyStream Scenario.spawned.topology []
      [.store Scenario.linked.topology, .broadcast]) [.poll]
    feed.publisher.published.getLast? = some Scenario.linked.topology ∧
      feed.stream.drained = true ∧ Scenario.linked.topology ∉ feed.stream.yielded := by
  intro feed
  have differs : Scenario.linked.topology ≠ Scenario.spawned.topology := by decide +kernel
  refine ⟨rfl, rfl, ?_⟩
  intro member
  have only : Scenario.linked.topology ∈ [Scenario.spawned.topology] := member
  exact differs (List.mem_singleton.mp only)

end JqBle.Proof.Client
