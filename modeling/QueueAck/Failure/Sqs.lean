import QueueAck.Failure.Misuse

/-!
# Errors of the SQS service and its client library

Every error that a call on an SQS client may end with, and the text of each.
-/

namespace QueueAck

/-- An error of the SQS service or of its client library. -/
inductive SqsError where
  /-- The service refused the call. -/
  | refused (operation : String) (code message : Value) (retries : Option Value)
  /-- An error without a further description. -/
  | unspecified
  /-- There are no credentials. -/
  | noCredentials
  /-- There is no region. -/
  | noRegion
  /-- The service could not be reached. -/
  | unreachable (url : String)
  /-- The service did not answer a connection in time. -/
  | connectTimeout (url : String)
  /-- The service did not answer a request in time. -/
  | readTimeout (url : String)
  /-- The parameters of the call have the wrong form. -/
  | invalidParameters (report : String)
  /-- The credentials are not complete. -/
  | partialCredentials (provider missing : String)
  /-- The region has the wrong form. -/
  | invalidRegion (region : String)
  /-- An option for retries is not known. -/
  | unknownRetryOption (option : String)
  /-- A number of retries is too small. -/
  | retryCount (given : Value) (least : Nat)
  /-- A mode of retries is not known. -/
  | unknownRetryMode (given : Value)
  /-- A style of addresses is not known. -/
  | unknownAddressingStyle (given : Value)
deriving Repr

namespace SqsError

/-- The number of attempts that a response tells of, when it says that no attempt was left. -/
def retriesIn (response : Value) : Except Misuse (Option Value) := do
  if ← response.holds "ResponseMetadata" then
    let metadata ← response.part "ResponseMetadata"
    let exhausted ← metadata.fieldOf "MaxAttemptsReached"
    if (exhausted.getD (.bool false)).isTruthy then metadata.fieldOf "RetryAttempts"
    else return none
  else return none

/-- The refusal that a response describes. -/
def ofResponse (operation : String) (response : Value) : Except Misuse SqsError := do
  let retries ← retriesIn response
  let error := (← response.fieldOf "Error").getD (.record [])
  let code ← error.fieldOf "Code"
  let message ← error.fieldOf "Message"
  let unknown := Value.text "Unknown"
  return .refused operation (code.getD unknown) (message.getD unknown) retries

/-- The text of an argument that an error shows. -/
def shownArgument (arguments : Value) (name : String) : Except Misuse String :=
  (arguments.part name).map Value.toText

/-- The error of the client library that has a kind and arguments by name; other kinds have none.
An argument that the error shows has to be there. -/
def ofArguments? (kind : String) (arguments : Value) : Except Misuse (Option SqsError) := do
  let shown := shownArgument arguments
  match kind with
  | "BotoCoreError" => return some .unspecified
  | "NoCredentialsError" => return some .noCredentials
  | "NoRegionError" => return some .noRegion
  | "EndpointConnectionError" => return some (.unreachable (← shown "endpoint_url"))
  | "ConnectTimeoutError" => return some (.connectTimeout (← shown "endpoint_url"))
  | "ReadTimeoutError" => return some (.readTimeout (← shown "endpoint_url"))
  | "ParamValidationError" => return some (.invalidParameters (← shown "report"))
  | "PartialCredentialsError" =>
    return some (.partialCredentials (← shown "provider") (← shown "cred_var"))
  | "InvalidRegionError" => return some (.invalidRegion (← shown "region_name"))
  | _ => return none

/-- The name of the kind of error. -/
def kind : SqsError → String
  | .refused .. => "ClientError"
  | .unspecified => "BotoCoreError"
  | .noCredentials => "NoCredentialsError"
  | .noRegion => "NoRegionError"
  | .unreachable _ => "EndpointConnectionError"
  | .connectTimeout _ => "ConnectTimeoutError"
  | .readTimeout _ => "ReadTimeoutError"
  | .invalidParameters _ => "ParamValidationError"
  | .partialCredentials .. => "PartialCredentialsError"
  | .invalidRegion _ => "InvalidRegionError"
  | .unknownRetryOption _ => "InvalidRetryConfigurationError"
  | .retryCount .. => "InvalidMaxRetryAttemptsError"
  | .unknownRetryMode _ => "InvalidRetryModeError"
  | .unknownAddressingStyle _ => "InvalidS3AddressingStyleError"

/-- The text of the error. -/
def message : SqsError → String
  | .refused operation code message retries =>
    "An error occurred (" ++ code.toText ++ ") when calling the " ++ operation ++ " operation" ++
      (match retries with
        | some n => " (reached max retries: " ++ n.toText ++ ")"
        | none => "") ++
      ": " ++ message.toText
  | .unspecified => "An unspecified error occurred"
  | .noCredentials => "Unable to locate credentials"
  | .noRegion => "You must specify a region."
  | .unreachable url => "Could not connect to the endpoint URL: \"" ++ url ++ "\""
  | .connectTimeout url => "Connect timeout on endpoint URL: \"" ++ url ++ "\""
  | .readTimeout url => "Read timeout on endpoint URL: \"" ++ url ++ "\""
  | .invalidParameters report => "Parameter validation failed:\n" ++ report
  | .partialCredentials provider missing =>
    "Partial credentials found in " ++ provider ++ ", missing: " ++ missing
  | .invalidRegion region =>
    "Provided region_name '" ++ region ++ "' doesn't match a supported format."
  | .unknownRetryOption option =>
    "Cannot provide retry configuration for \"" ++ option ++
      "\". Valid retry configuration options are: ('max_attempts', 'mode', 'total_max_attempts')"
  | .retryCount given least =>
    "Value provided to \"max_attempts\": " ++ given.toText ++
      " must be an integer greater than or equal to " ++ least.repr ++ "."
  | .unknownRetryMode given =>
    "Invalid value provided to \"mode\": \"" ++ given.toText ++
      "\" must be one of: ('legacy', 'standard', 'adaptive')"
  | .unknownAddressingStyle given =>
    "S3 addressing style " ++ given.toText ++
      " is invalid. Valid options are: 'auto', 'virtual', and 'path'"

end SqsError
end QueueAck
