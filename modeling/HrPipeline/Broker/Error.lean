/-!
# Errors of the broker

What goes wrong while talking to the message broker, with the topic and position it concerns.
-/

namespace HrPipeline

/-- Why an operation of the broker failed. -/
inductive BrokerError where
  | publish (topic cause : String)
  | fetch (topic cause : String)
  | commit (topic : String) (partition offset : Int) (cause : String)
  | seek (topic : String) (partition offset : Int) (cause : String)
  | client (cause : String)
deriving DecidableEq

/-- A place in a partition as messages show it. -/
private def partitionText (topic : String) (partition : Int) : String :=
  topic ++ "[" ++ toString partition ++ "]"

/-- The wording of a broker error. -/
def BrokerError.message : BrokerError → String
  | .publish topic cause => "failed to publish to topic " ++ topic ++ ": " ++ cause
  | .fetch topic cause => "failed to fetch from topic " ++ topic ++ ": " ++ cause
  | .commit topic partition offset cause =>
    "failed to commit offset " ++ toString offset ++ " on " ++ partitionText topic partition
      ++ ": " ++ cause
  | .seek topic partition offset cause =>
    "failed to reposition " ++ partitionText topic partition ++ " at offset " ++ toString offset
      ++ ": " ++ cause
  | .client cause => "broker client error: " ++ cause

/-- The name of the kind of a broker error. -/
def BrokerError.kind : BrokerError → String
  | .publish _ _ => "Publish"
  | .fetch _ _ => "Fetch"
  | .commit _ _ _ _ => "Commit"
  | .seek _ _ _ _ => "Seek"
  | .client _ => "Client"

end HrPipeline
