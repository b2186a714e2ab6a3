import HrPipeline.Database.Error
import HrPipeline.Uuid.Basic

/-!
# Errors of the outbox

Errors of the store and of enlisting events. Those of the storage itself end a publisher's tick.
-/

namespace HrPipeline

/-- Why an operation of the outbox failed. -/
inductive OutboxError where
  /-- The event may not be enlisted, or the row may not be read. -/
  | invalidEvent (reason : String)
  /-- There is no row with this identifier. -/
  | notFound (id : Uuid)
  /-- The body of the event cannot be written. -/
  | encode (reason : String)
  /-- The database refused a statement. -/
  | database (error : DatabaseError)
  /-- No connection to the database was to be had. -/
  | pool (reason : String)
deriving DecidableEq

namespace OutboxError

/-- The wording of an outbox error. -/
def message : OutboxError → String
  | .invalidEvent reason => "invalid outbox event: " ++ reason
  | .notFound id => "outbox event " ++ id.text ++ " not found"
  | .encode reason => "failed to encode event payload: " ++ reason
  | .database error => "database error: " ++ error.message
  | .pool reason => "connection pool error: " ++ reason

/-- The name of the kind of an outbox error. -/
def kind : OutboxError → String
  | .invalidEvent _ => "InvalidEvent"
  | .notFound _ => "NotFound"
  | .encode _ => "Encode"
  | .database _ => "Database"
  | .pool _ => "Pool"

/-- Whether the storage is at fault and not the event. -/
def isStorage : OutboxError → Bool
  | .database _ | .pool _ | .notFound _ => true
  | .invalidEvent _ | .encode _ => false

end OutboxError
end HrPipeline
