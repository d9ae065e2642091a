/-!
# Errors of the Pub/Sub service

Every error that a call on a Pub/Sub subscriber may end with, and the text of each.
-/

namespace QueueAck

/-- The statuses with which a Pub/Sub call is refused. -/
inductive PubSubStatus where
  /-- An argument of the call is wrong. -/
  | invalidArgument
  /-- The caller is not known. -/
  | unauthenticated
  /-- The caller may not make the call. -/
  | permissionDenied
  /-- The subscription does not exist. -/
  | notFound
  /-- The call was given up. -/
  | aborted
  /-- A quota is used up. -/
  | resourceExhausted
  /-- The service failed. -/
  | internalServerError
  /-- The service is not available. -/
  | serviceUnavailable
  /-- The call took too long. -/
  | deadlineExceeded
deriving DecidableEq, Repr

/-- The number of a status. -/
def PubSubStatus.code : PubSubStatus → Nat
  | .invalidArgument => 400
  | .unauthenticated => 401
  | .permissionDenied => 403
  | .notFound => 404
  | .aborted => 409
  | .resourceExhausted => 429
  | .internalServerError => 500
  | .serviceUnavailable => 503
  | .deadlineExceeded => 504

/-- The name of a status. -/
def PubSubStatus.name : PubSubStatus → String
  | .invalidArgument => "InvalidArgument"
  | .unauthenticated => "Unauthenticated"
  | .permissionDenied => "PermissionDenied"
  | .notFound => "NotFound"
  | .aborted => "Aborted"
  | .resourceExhausted => "ResourceExhausted"
  | .internalServerError => "InternalServerError"
  | .serviceUnavailable => "ServiceUnavailable"
  | .deadlineExceeded => "DeadlineExceeded"

/-- All statuses, by their numbers. -/
def PubSubStatus.all : List PubSubStatus :=
  [.invalidArgument, .unauthenticated, .permissionDenied, .notFound, .aborted,
    .resourceExhausted, .internalServerError, .serviceUnavailable, .deadlineExceeded]

/-- The status with a name. -/
def PubSubStatus.ofName? (s : String) : Option PubSubStatus := all.find? (·.name == s)

/-- The name of a status selects it. -/
theorem PubSubStatus.ofName?_name (s : PubSubStatus) : ofName? s.name = some s := by
  cases s <;> decide

/-- An error of the Pub/Sub service or of its client library. -/
inductive PubSubError where
  /-- The service refused the call with a status. -/
  | refused (status : PubSubStatus) (message : String)
  /-- A call failed without a status. -/
  | failedCall (message : String)
  /-- Any other error of the client library. -/
  | other (message : String)
  /-- The retries of a call ended without success. -/
  | retriesEnded (message last : String)
deriving DecidableEq, Repr

namespace PubSubError

/-- The name of the kind of error. -/
def kind : PubSubError → String
  | .refused status _ => status.name
  | .failedCall _ => "GoogleAPICallError"
  | .other _ => "GoogleAPIError"
  | .retriesEnded .. => "RetryError"

/-- The text of the error. -/
def message : PubSubError → String
  | .refused status text => status.code.repr ++ " " ++ text
  | .failedCall text => "None " ++ text
  | .other text => text
  | .retriesEnded text last => text ++ ", last exception: " ++ last

end PubSubError
end QueueAck
