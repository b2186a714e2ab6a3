import HrPipeline.Api.ContentType
import HrPipeline.Api.Operations

/-!
# The service

Every path has its methods and its operation. A request is checked from the outside in: path,
method, identifier in the path, content type and body; only then does its operation run.
-/

namespace HrPipeline.Api

open HrPipeline.Json HrPipeline.Text

/-- The paths of the interface. -/
inductive Route where
  | employees
  | payrolls
  /-- The payslips of a payroll, whose identifier is given as it stands in the path. -/
  | payslips (segment : String)
  | health
deriving DecidableEq

namespace Route

/-- The route of a path. -/
def of? (path : List Char) : Option Route :=
  match (path.splitOn '/').map String.ofList with
  | ["", "employees"] => some employees
  | ["", "payrolls"] => some payrolls
  | ["", "payrolls", segment, "payslips"] => some (payslips segment)
  | ["", "health"] => some health
  | _ => none

/-- The methods of a route. -/
def methods : Route → List String
  | employees | payrolls | payslips _ => ["POST"]
  | health => ["GET", "HEAD"]

/-- The methods of a route as a header tells them. -/
def allowed (route : Route) : String := ",".intercalate route.methods

end Route

/-- The identifier that a segment of a path denotes. -/
def identifier (segment : String) : Except Rejection Uuid :=
  match ofUtf8? (percentDecoded (utf8 segment)) with
  | none => .error (.garbledPath "id")
  | some name => (Uuid.read name.toList).mapError .badIdentifier

/-- The record that the body of a request denotes. What follows the record is not read. -/
def jsonBody (shape : Shape) (request : Request) : Except Rejection (Row shape.fields) :=
  if announcesJson request.headers then
    match shape.read request.body with
    | .ok (row, _) => .ok row
    | .error refusal => .error (.body refusal)
  else .error .contentType

/-- A response with the storage after it and what was reported. -/
structure Served where
  response : Response
  storage : Storage
  notices : List Notice

/-- The answer that the result of an operation calls for. -/
def conclude {α : Type} (storage : Storage) (status : Nat) (notice : Notice)
    (members : α → List (String × Option String)) : Except ApiError (α × Storage) → Served
  | .ok (value, storage) => ⟨.json status (members value), storage, [notice]⟩
  | .error error => ⟨error.response, storage, error.notices⟩

/-- Runs what a request asks for, unless it is rejected. -/
def unlessRejected {α : Type} (storage : Storage) (run : α → Served) :
    Except Rejection α → Served
  | .ok value => run value
  | .error rejection => ⟨rejection.response, storage, []⟩

/-- Answers a request for a new employee. -/
def serveEmployees (context : Context) (request : Request) (storage : Storage) : Served :=
  unlessRejected storage (fun row =>
      conclude storage 201 .employeeCreated employeeMembers
        (createEmployee context (requestId request.headers) (.ofRow row) storage))
    (jsonBody CreateEmployee.shape request)

/-- Answers a request for a new payroll. -/
def servePayrolls (context : Context) (request : Request) (storage : Storage) : Served :=
  unlessRejected storage (fun row =>
      conclude storage 201 .payrollCreated payrollMembers
        (createPayroll context (.ofRow row) storage))
    (jsonBody CreatePayroll.shape request)

/-- Answers a request for the payslip of a payroll. -/
def servePayslips (context : Context) (segment : String) (request : Request) (storage : Storage) :
    Served :=
  unlessRejected storage (fun id =>
      unlessRejected storage (fun row =>
          conclude storage 202 .payslipRequested (payslipMembers id)
            (requestPayslip context id (.ofRow row) storage))
        (jsonBody RequestPayslip.shape request))
    (identifier segment)

/-- Answers a request by a method that its route has. -/
def serveRoute (context : Context) (request : Request) (storage : Storage) : Route → Served
  | .employees => serveEmployees context request storage
  | .payrolls => servePayrolls context request storage
  | .payslips segment => servePayslips context segment request storage
  | .health => ⟨.text 200 (if request.method = "HEAD" then "" else "OK"), storage, []⟩

/-- Answers a request. -/
def serve (context : Context) (request : Request) (storage : Storage) : Served :=
  let route? := Route.of? request.path
  if request.method = "OPTIONS" then ⟨.options (route?.map Route.allowed), storage, []⟩
  else
    match route? with
    | none => ⟨.notFound, storage, []⟩
    | some route =>
      if request.method ∈ route.methods then serveRoute context request storage route
      else ⟨.wrongMethod route.allowed, storage, []⟩

end HrPipeline.Api
