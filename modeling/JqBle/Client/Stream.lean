import JqBle.Client.Client
import JqBle.Library.Execution

/-!
# The topology stream (`publish_topology` and `topology_stream` of `client.rs`)

The client task stores a snapshot behind a lock and then broadcasts it. A caller of `topology_stream`
reads the stored snapshot, then subscribes, and later polls the stream that starts with what it has
read. `published` holds what was broadcast; it is history.
-/

namespace JqBle.Client
open NodeProfile Library

def topologyUpdatesCapacity : Nat := 64

/-! ## The client task -/

inductive PublishStep
  | store (snapshot : MeshTopology)
  | broadcast

structure TopologyPublisher where
  topology : MeshTopology
  publishing : Option MeshTopology
  published : List MeshTopology

namespace TopologyPublisher

def start (topology : MeshTopology) : TopologyPublisher := ⟨topology, none, []⟩

-- The task publishes the next snapshot when it is done with the last one.
def step (publisher : TopologyPublisher) : PublishStep → TopologyPublisher
  | .store snapshot =>
      match publisher.publishing with
      | some _ => publisher
      | none => { publisher with topology := snapshot, publishing := some snapshot }
  | .broadcast =>
      match publisher.publishing with
      | none => publisher
      | some snapshot =>
          { publisher with publishing := none, published := publisher.published ++ [snapshot] }

end TopologyPublisher

/-! ## The caller -/

/-- The chained stream: the first snapshot until it is polled, and the messages in the receiver. -/
structure TopologyStream where
  initial : Option MeshTopology
  received : List MeshTopology
  yielded : List MeshTopology

namespace TopologyStream

def receive (stream : TopologyStream) (snapshot : MeshTopology) : TopologyStream :=
  let received := stream.received ++ [snapshot]
  { stream with received := received.drop (received.length - topologyUpdatesCapacity) }

def poll (stream : TopologyStream) : TopologyStream :=
  match stream.initial, stream.received with
  | some snapshot, _ =>
      { stream with initial := none, yielded := stream.yielded ++ [snapshot] }
  | none, snapshot :: rest =>
      { stream with received := rest, yielded := stream.yielded ++ [snapshot] }
  | none, [] => stream

def drained (stream : TopologyStream) : Bool := stream.initial.isNone && stream.received.isEmpty

end TopologyStream

structure TopologyFeed where
  publisher : TopologyPublisher
  stream : TopologyStream

inductive FeedStep
  | publish (step : PublishStep)
  | poll

namespace TopologyFeed

/-- The call of `topology_stream`, with the steps of the client task before it reads the stored
snapshot and before it subscribes. -/
def topologyStream (initial : MeshTopology) (before between : List PublishStep) : TopologyFeed :=
  let atRead := Execution.exec TopologyPublisher.step (.start initial) before
  { publisher := Execution.exec TopologyPublisher.step atRead between
    stream := ⟨some atRead.topology, [], []⟩ }

def step (feed : TopologyFeed) : FeedStep → TopologyFeed
  | .publish next =>
      { publisher := feed.publisher.step next
        stream :=
          match next, feed.publisher.publishing with
          | .broadcast, some snapshot => feed.stream.receive snapshot
          | _, _ => feed.stream }
  | .poll => { feed with stream := feed.stream.poll }

end TopologyFeed

end JqBle.Client
