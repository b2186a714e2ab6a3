import HrPipeline.Broker.Error
import HrPipeline.Outbox.Row

/-!
# Messages

An outbound message is made from an outbox row and keyed by its aggregate. An inbound message is
what a source delivers, with its place in the log.
-/

namespace HrPipeline.Broker

open HrPipeline.Outbox HrPipeline.Text

/-- A message to be published. -/
structure Outbound where
  topic : String
  key : String
  payload : Bytes
  headers : List (String × String)
deriving DecidableEq

/-- A message as it was delivered. -/
structure Inbound where
  topic : String
  partition : Int
  offset : Int
  key : Option Bytes
  payload : Option Bytes
  headers : List (String × Bytes)
deriving DecidableEq

/-- The message of an outbox row. -/
def Outbound.ofRow (row : Row) : Outbound where
  topic := row.topic
  key := row.aggregateId
  payload := row.payload
  headers := [("event_type", row.eventType), ("aggregate_type", row.aggregateType)]

/-- The text of the first header with a name; nothing if it is no text. -/
def Inbound.header? (message : Inbound) (name : String) : Option String :=
  (message.headers.lookup name).bind ofUtf8?

end HrPipeline.Broker
