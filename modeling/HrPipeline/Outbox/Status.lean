import HrPipeline.Json.Variant
import HrPipeline.Outbox.Error
import HrPipeline.Text.Quoted

/-!
# Status of an outbox row

A row is pending until its message is accepted, then sent; after a failed attempt it is failed.
-/

namespace HrPipeline.Outbox

/-- How far a row has come. -/
inductive Status where
  | pending
  | sent
  | failed
deriving DecidableEq

namespace Status

/-- The name of a status. -/
def name : Status → String
  | .pending => "pending"
  | .sent => "sent"
  | .failed => "failed"

/-- All statuses under their names. -/
def named : List (String × Status) := [.pending, .sent, .failed].map fun s => (s.name, s)

/-- The status with a name. -/
def ofName (name : String) : Except OutboxError Status :=
  match named.lookup name with
  | some status => .ok status
  | none => .error (.invalidEvent ("unknown status " ++ Text.quoted name))

/-- The status that a JSON text denotes. -/
def decode (bytes : Bytes) : Except Json.Refusal Status := Json.decodeVariant named bytes

/-- A status is found under its name. -/
theorem ofName_name (status : Status) : ofName status.name = .ok status := by
  cases status <;> rfl

end Status
end HrPipeline.Outbox
