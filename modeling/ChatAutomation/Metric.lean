/-!
# Metrics

What a run counts. Every sample adds one to the counter of its name and labels.
-/
namespace ChatAutomation

/-- How the execution of a node ended. -/
inductive Outcome where
  | success
  | error
  | skipped
  deriving DecidableEq, Repr

def Outcome.name : Outcome → String
  | success => "success"
  | error => "error"
  | skipped => "skipped"

/-- How a run ended. -/
inductive RunStatus where
  | noEntry
  | partly
  | success
  deriving DecidableEq, Repr

def RunStatus.name : RunStatus → String
  | noEntry => "no_entry"
  | partly => "partial"
  | success => "success"

inductive Sample where
  | triggerMatch (type : String)
  | run (status : RunStatus)
  | runDuration
  | node (type : String) (outcome : Outcome)
  | reply (model : String) (succeeded : Bool)
  | delivery (type : String) (sent : Bool)
  deriving DecidableEq, Repr

namespace Sample

def name : Sample → String
  | triggerMatch _ => "flow_trigger_matches_total"
  | run _ => "flow_runs_total"
  | runDuration => "flow_run_duration_seconds_count"
  | node .. => "flow_node_executions_total"
  | reply .. => "ai_requests_total"
  | delivery .. => "whatsapp_messages_total"

/-- The labels, in the order of their names. -/
def labels : Sample → List (String × String)
  | triggerMatch type => [("match_type", type)]
  | run status => [("status", status.name)]
  | runDuration => []
  | node type outcome => [("node_type", type), ("status", outcome.name)]
  | reply model succeeded =>
    [("model", model), ("status", if succeeded then "success" else "error")]
  | delivery type sent => [("message_type", type), ("status", if sent then "sent" else "failed")]

end Sample
end ChatAutomation
