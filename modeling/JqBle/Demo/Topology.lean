import JqBle.NodeProfile.Topology

/-!
# The topology the service shows (`demo/src/lib.rs`)
-/

namespace JqBle.Demo
open Std Host Library JqBle.NodeProfile

-- The set that the closure over the edges fills while it filters them.
def visibleNodeIds (snapshot : MeshTopology) : ExtTreeSet NodeId :=
  snapshot.edges.foldl (fun visible key _ =>
    if key.1 = snapshot.localNodeId then visible.insert key.2 else visible)
    ((∅ : ExtTreeSet NodeId).insert snapshot.localNodeId)

def sanitizeTopology (snapshot : MeshTopology) : MeshTopology where
  localNodeId := snapshot.localNodeId
  observedAtTick := snapshot.observedAtTick
  nodes := snapshot.nodes.filter fun nodeId _ => (visibleNodeIds snapshot).contains nodeId
  edges := snapshot.edges.filter fun key _ => key.1 = snapshot.localNodeId
  activeRoutes := snapshot.activeRoutes.filter fun _ route =>
    (visibleNodeIds snapshot).contains route.ownerNodeId &&
      (visibleNodeIds snapshot).contains route.terminalNodeId

end JqBle.Demo
