import JqBle.Client.Client
import JqBle.Library.Execution

/-!
# Relaying a framed payload (`demo/src/lib.rs`)
-/

namespace JqBle.Demo
open Host JqBle.Client Library

def transportRetryable : TransportError → Bool
  | .unavailable | .timedOut => true
  | .other _ => false

def relayRetryable : BleClientError → Bool
  | .route (.selection .noCandidate) => true
  | .route (.transport source) => transportRetryable source
  | .transport source => transportRetryable source
  | .bridge (.route (.transport source)) => transportRetryable source
  | .bridge (.transport source) => transportRetryable source
  | _ => false

/-- One attempt: what the client loop does before it takes the command, and what it then answers. -/
structure RelayAttempt where
  before : List ClientInput
  answers : SendAnswers

-- One entry for each of the `max_attempts`.
def relayFramedPayload {π : Type} [HostTopologyProjector π] (host : ClientHost)
    (destinationNodeId : NodeId) (payload : List UInt8) :
    ClientTask π → List RelayAttempt → ClientTask π × Bool
  | task, [] => (task, false)
  | task, attempt :: rest =>
      let task := Execution.exec (ClientTask.step host) task attempt.before
      let framed := encodeClientPayload payload
      let sent := task.step host (.command (.send destinationNodeId framed) attempt.answers)
      match task.sendReply host destinationNodeId framed attempt.answers with
      | .ok _ => (sent, true)
      | .error error =>
          if relayRetryable error && !rest.isEmpty then
            relayFramedPayload host destinationNodeId payload sent rest
          else (sent, false)

end JqBle.Demo
