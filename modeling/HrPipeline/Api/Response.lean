import HrPipeline.Json.Refusal
import HrPipeline.Json.Written
import HrPipeline.Notice
import HrPipeline.Outbox.Error

/-!
# Responses

A response carries its headers sorted by name. Every response admits callers from any origin; what
an operation refuses is answered as JSON, and what never reaches an operation as plain text.
-/

namespace HrPipeline.Api

/-- The answer to a request. -/
structure Response where
  status : Nat
  headers : List (String × String)
  body : String
deriving DecidableEq

namespace Response

/-- The header that admits callers from any origin. -/
def anyOrigin : String × String := ("access-control-allow-origin", "*")

/-- The header that tells what a response depends on. -/
def vary : String × String :=
  ("vary", "origin, access-control-request-method, access-control-request-headers")

/-- A response with further headers between the two that every response has. -/
def new (status : Nat) (headers : List (String × String)) (body : String) : Response :=
  ⟨status, anyOrigin :: (headers ++ [vary]), body⟩

/-- A response of plain text. -/
def text (status : Nat) (body : String) : Response :=
  new status [("content-type", "text/plain; charset=utf-8")] body

/-- A response of a JSON map. -/
def json (status : Nat) (members : List (String × Option String)) : Response :=
  new status [("content-type", "application/json")] (Json.mapText members)

/-- The answer where there is nothing. -/
def notFound : Response := new 404 [] ""

/-- The answer to a method that a path does not have. -/
def wrongMethod (allowed : String) : Response := new 405 [("allow", allowed)] ""

/-- The answer to a question for the options of a path. -/
def options (allowed? : Option String) : Response :=
  let allow := allowed?.toList.map fun allowed => ("allow", allowed)
  ⟨200, ("access-control-allow-headers", "*") :: ("access-control-allow-methods", "*")
    :: anyOrigin :: (allow ++ [vary]), ""⟩

end Response

/-- Why an operation refuses a request. -/
inductive ApiError where
  /-- The request makes no sense. -/
  | invalid (reason : String)
  /-- The request is about something that is not there. -/
  | notFound (reason : String)
  /-- The request collides with what is there. -/
  | conflict (reason : String)
  /-- The request is not at fault. -/
  | internal (reason : String)
deriving DecidableEq

namespace ApiError

/-- A database error as an operation passes it on: only a violated unique constraint is told. -/
def ofDatabase (error : DatabaseError) : ApiError :=
  match error with
  | .refused .unique message _ => .conflict message
  | _ => .internal error.message

/-- An outbox error as an operation passes it on. -/
def ofOutbox (error : OutboxError) : ApiError :=
  match error with
  | .invalidEvent reason => .invalid reason
  | .database error => ofDatabase error
  | .notFound _ | .encode _ | .pool _ => .internal error.message

/-- The status of a refusal. -/
def status : ApiError → Nat
  | .invalid _ => 422
  | .notFound _ => 404
  | .conflict _ => 409
  | .internal _ => 500

/-- What the caller is told; internal reasons are kept. -/
def message : ApiError → String
  | .invalid reason | .notFound reason | .conflict reason => reason
  | .internal _ => "internal error"

/-- What a refusal reports. -/
def notices : ApiError → List Notice
  | .internal _ => [.requestFailed]
  | .invalid _ | .notFound _ | .conflict _ => []

/-- The answer to a refused request. -/
def response (error : ApiError) : Response :=
  Response.json error.status [("error", some error.message)]

end ApiError

/-- Why a request never reaches its operation. -/
inductive Rejection where
  /-- The named part of the path is no UTF-8. -/
  | garbledPath (parameter : String)
  /-- The identifier in the path is none. -/
  | badIdentifier (reason : Uuid.ReadError)
  /-- The body is not announced as JSON. -/
  | contentType
  /-- The body does not denote what is needed. -/
  | body (refusal : Json.Refusal)
deriving DecidableEq

namespace Rejection

/-- A mismatch of the body with the place where it stands. -/
def mismatchText (place? : Option Json.Place) (reason : Json.Mismatch) : String :=
  "Failed to deserialize the JSON body into the target type: "
    ++ (match place? with
      | some place => place.shown ++ ": "
      | none => "")
    ++ reason.message

/-- The answer to a rejected request. -/
def response : Rejection → Response
  | .garbledPath parameter =>
    .text 400 ("Invalid URL: Invalid UTF-8 in `" ++ parameter ++ "`")
  | .badIdentifier reason => .text 400 ("Invalid URL: " ++ reason.message)
  | .contentType => .text 415 "Expected request with `Content-Type: application/json`"
  | .body .unfinished | .body .malformed => .text 400 "Failed to parse the request body as JSON"
  | .body (.mismatch place? reason) => .text 422 (mismatchText place? reason)

end Rejection
end HrPipeline.Api
