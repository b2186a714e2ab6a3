/-!
# Errors of the database

What the database answers when it refuses a statement. A refusal carries the message of the
database and, for a violated constraint, its name.
-/

namespace HrPipeline

/-- What a refused statement violates. -/
inductive Violation where
  | unique
  | foreignKey
  | notNull
  | check
  | serialization
  | readOnly
  | closedConnection
  | unableToSend
  | other
deriving DecidableEq

/-- Why a statement did not go through. -/
inductive DatabaseError where
  /-- The database refused the statement. -/
  | refused (violation : Violation) (message : String) (constraint : Option String)
  /-- A row that must exist is missing. -/
  | noRow
  /-- The caller asked for a rollback. -/
  | rollback
  /-- A transaction is open where none may be. -/
  | nestedTransaction
deriving DecidableEq

/-- The violations under their names. -/
def Violation.named : List (String × Violation) := [
  ("UniqueViolation", .unique), ("ForeignKeyViolation", .foreignKey),
  ("NotNullViolation", .notNull), ("CheckViolation", .check),
  ("SerializationFailure", .serialization), ("ReadOnlyTransaction", .readOnly),
  ("ClosedConnection", .closedConnection), ("UnableToSendCommand", .unableToSend)]

namespace DatabaseError

/-- The error of a kind with a name; only a refusal has a message and a constraint of its own. -/
def ofKind? (kind message : String) (constraint : Option String) : Option DatabaseError :=
  match kind with
  | "NotFound" => some .noRow
  | "RollbackTransaction" => some .rollback
  | "AlreadyInTransaction" => some .nestedTransaction
  | _ => (Violation.named.lookup kind).map fun violation => .refused violation message constraint

/-- The wording of a database error. -/
def message : DatabaseError → String
  | .refused _ message _ => message
  | .noRow => "Record not found"
  | .rollback => "You have asked diesel to rollback the transaction"
  | .nestedTransaction => "Cannot perform this operation while a transaction is open"

/-- Whether the error is a violation of the unique constraint of this name. -/
def violatesUnique (error : DatabaseError) (constraint : String) : Bool :=
  match error with
  | .refused .unique _ (some name) => name = constraint
  | _ => false

end DatabaseError
end HrPipeline
