import HrPipeline.Uuid.Basic

/-!
# Notices

What the programs report while they run. A notice names the event or message it is about where
there is one; its level and its wording follow from its kind.
-/

namespace HrPipeline

/-- How grave a notice is. -/
inductive Level where
  | error
  | warn
  | info
  | debug
deriving DecidableEq

/-- The name of a level. -/
def Level.name : Level → String
  | .error => "ERROR"
  | .warn => "WARN"
  | .info => "INFO"
  | .debug => "DEBUG"

/-- Something that a program reports. -/
inductive Notice where
  -- the publisher
  | intervalRaised
  | publisherStarted
  | published (id : Uuid)
  | notRecordedAsSent (id : Uuid)
  | failureNotRecorded (id : Uuid)
  | parked (id : Uuid)
  | publishFailed (id : Uuid)
  | tickFinished
  | outboxEmpty
  | tickFailed
  | publisherStopped
  -- the consumers
  | consumerStarted
  | rewound (offset : Int)
  | stillNotRewound
  | receiveFailed
  | undecodable (offset : Int)
  | ignored (offset : Int)
  | processed (offset : Int)
  | alreadyApplied (offset : Int)
  | handlerFailed (offset : Int)
  | rewindFailed
  | commitFailed
  | consumerEnded
  -- the effects
  | salaryCreated
  | payslipGenerated
  -- the database
  | batchClaimed
  | salaryInserted
  | payslipStored
  -- the interface
  | employeeCreated
  | payrollCreated
  | payslipRequested
  | requestFailed
deriving DecidableEq

namespace Notice

/-- The level of a notice. -/
def level : Notice → Level
  | .notRecordedAsSent _ | .failureNotRecorded _ | .parked _ | .tickFailed | .stillNotRewound
  | .receiveFailed | .undecodable _ | .handlerFailed _ | .rewindFailed | .commitFailed
  | .requestFailed => .error
  | .intervalRaised | .publishFailed _ | .alreadyApplied _ => .warn
  | .publisherStarted | .published _ | .tickFinished | .publisherStopped | .consumerStarted
  | .rewound _ | .consumerEnded | .salaryCreated | .payslipGenerated | .employeeCreated
  | .payrollCreated | .payslipRequested => .info
  | .outboxEmpty | .ignored _ | .processed _ | .batchClaimed | .salaryInserted
  | .payslipStored => .debug

/-- The wording of a notice. -/
def message : Notice → String
  | .intervalRaised => "Publish interval below minimum, clamping"
  | .publisherStarted => "Outbox publisher started"
  | .published _ => "Published outbox event"
  | .notRecordedAsSent _ =>
    "Outbox event published but not marked sent; it will be published again"
  | .failureNotRecorded _ => "Failed to record outbox publish failure"
  | .parked _ => "Outbox event reached its retry ceiling and is parked"
  | .publishFailed _ => "Failed to publish outbox event"
  | .tickFinished => "Outbox tick finished"
  | .outboxEmpty => "Outbox empty"
  | .tickFailed => "Error processing outbox events"
  | .publisherStopped => "Outbox publisher stopped"
  | .consumerStarted => "Starting consumer loop"
  | .rewound _ => "Rewound to the failed message"
  | .stillNotRewound => "Still unable to rewind to the failed message"
  | .receiveFailed => "Error receiving message"
  | .undecodable _ => "Skipping undecodable message"
  | .ignored _ => "Ignoring event type not handled by this consumer"
  | .processed _ => "Event processed"
  | .alreadyApplied _ => "Effect already applied, treating as processed"
  | .handlerFailed _ => "Handler failed, message will be redelivered"
  | .rewindFailed => "Failed to rewind to the failed message"
  | .commitFailed => "Error committing message"
  | .consumerEnded => "Consumer loop ended"
  | .salaryCreated => "Default salary created"
  | .payslipGenerated => "Payslip generated"
  | .batchClaimed => "Claimed outbox batch"
  | .salaryInserted => "Salary row inserted"
  | .payslipStored => "Payslip generated"
  | .employeeCreated => "Employee created"
  | .payrollCreated => "Payroll created"
  | .payslipRequested => "Payslip requested"
  | .requestFailed => "Request failed"

/-- A notice with its level in front. -/
def text (notice : Notice) : String := notice.level.name ++ " " ++ notice.message

end Notice

end HrPipeline
