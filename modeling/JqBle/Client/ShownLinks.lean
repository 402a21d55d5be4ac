import JqBle.Client.Multicast
import JqBle.Client.Projector

/-!
# The links that the client shows (`apply_bridge_report` of `client.rs`)

The runtime task together with the topology projector of a client that ingests what the runtime emits,
one after the other and whenever it comes to it. In between the projector is told of routes, rounds and
engines.
-/

namespace JqBle.Client
open Std Host JqBle.LinkProfile NodeProfile

/-- What the bridge makes of an effect for the router and the projector, if it is for them at all. -/
def observationOf (shape : CastShaping) (localNodeId : NodeId) (stamp : Tick × OrderStamp) :
    Effect → Option TransportObservation
  | .emitControl event => some (linkObservationFromBleEvent shape localNodeId event stamp.1 stamp.2)
  | .emitPayload event => some (event.observeAt stamp.1)
  | _ => none

structure ProjectedRuntime (δ π : Type) where
  task : BleRuntimeTask δ
  -- What was emitted and is not ingested yet, the oldest first.
  emitted : List Effect
  projector : TopologyProjector π

inductive ProjectedStep
  | turn (turn : Turn)
  | ingest (stamp : Tick × OrderStamp)
  | materializedRoute (route : MaterializedRoute)
  | roundOutcome (outcome : RouterRoundOutcome)
  | engineCapabilities (capabilities : Nat)

namespace ProjectedRuntime
variable {δ π : Type} [PeerDirectory δ BlePeerKey DiscoveredPeerHint] [HostTopologyProjector π]

def launch (targetOs : TargetOs) (config : BleConfig) (restoredState : BleRestoredState)
    (localNodeId : NodeId) (topology : Observation Configuration) : ProjectedRuntime δ π where
  task := .launch targetOs localNodeId config restoredState
  emitted := []
  projector := .new localNodeId topology

-- The fanout is the business of the multicast admission and no link.
def project (preset : NodePreset) (projector : TopologyProjector π)
    (observation : TransportObservation) : TopologyProjector π :=
  if isMulticastFanoutObservation observation then projector
  else (projector.ingestTransportObservation preset observation).1

def ingest (shape : CastShaping) (preset : NodePreset) (runtime : ProjectedRuntime δ π)
    (stamp : Tick × OrderStamp) : ProjectedRuntime δ π :=
  match runtime.emitted with
  | [] => runtime
  | effect :: rest =>
      { runtime with
        emitted := rest
        projector :=
          match observationOf shape runtime.task.localNodeId stamp effect with
          | some observation => project preset runtime.projector observation
          | none => runtime.projector }

def step (shape : CastShaping) (preset : NodePreset) (runtime : ProjectedRuntime δ π) :
    ProjectedStep → ProjectedRuntime δ π
  | .turn turn =>
      let task := runtime.task.step turn
      { runtime with task := task, emitted := runtime.emitted ++ task.outbox }
  | .ingest stamp => runtime.ingest shape preset stamp
  | .materializedRoute route =>
      { runtime with projector := (runtime.projector.ingestMaterializedRoute route).1 }
  | .roundOutcome outcome =>
      { runtime with projector := (runtime.projector.ingestRoundOutcome outcome).1 }
  | .engineCapabilities capabilities =>
      { runtime with projector := (runtime.projector.ingestEngineCapabilities capabilities).1 }

/-- The state of the link to the node that the effect announces. -/
def linkState (nodeId : NodeId) : Effect → Option LinkRuntimeState
  | .emitControl (.linkObserved remoteNodeId link _ _ _) =>
      if remoteNodeId = nodeId ∧ link.endpoint ≠ gattNotifyFanoutEndpoint then some link.state
      else none
  | _ => none

end ProjectedRuntime

end JqBle.Client
