import QueueAck.Value

/-!
# Arguments of a factory

The parameters of a connection factory, the values that may be given for them, and the reasons why
a list of arguments is refused.
-/

namespace QueueAck

/-- The parameters of a connection factory, in the order of its signature. -/
inductive Parameter where
  /-- The region of the service. -/
  | regionName
  /-- The address of the service. -/
  | endpointUrl
  /-- The retry mode of the connections. -/
  | retryMode
  /-- The retry delay of the connections. -/
  | retryDelay
  /-- The number of messages that are fetched at a time. -/
  | prefetchSize
  /-- A client that is used instead of a new one. -/
  | sqsClient
  /-- The configuration of a new client. -/
  | clientConfig
deriving DecidableEq, Repr

namespace Parameter

/-- All parameters in the order of the signature. -/
def all : List Parameter :=
  [.regionName, .endpointUrl, .retryMode, .retryDelay, .prefetchSize, .sqsClient, .clientConfig]

/-- The keyword of a parameter. -/
def name : Parameter → String
  | .regionName => "region_name"
  | .endpointUrl => "endpoint_url"
  | .retryMode => "retry_mode"
  | .retryDelay => "retry_delay"
  | .prefetchSize => "prefetch_size"
  | .sqsClient => "sqs_client"
  | .clientConfig => "client_config"

/-- The parameter of a keyword. -/
def ofName? (s : String) : Option Parameter := all.find? (·.name == s)

/-- Every parameter is listed. -/
theorem mem_all (p : Parameter) : p ∈ all := by cases p <;> decide

/-- The keyword of a parameter selects it. -/
theorem ofName?_name (p : Parameter) : ofName? p.name = some p := by cases p <;> decide

end Parameter

/-- A reason why arguments are refused. -/
inductive ArgumentFault where
  /-- A keyword names the factory itself, which is given already. -/
  | repeated (name : String)
  /-- The value of a parameter has the wrong type. -/
  | wrongType (p : Parameter)
  /-- A value is given without a keyword, at a position counted from one. -/
  | unexpectedPosition (position : Nat)
  /-- A keyword names no parameter. -/
  | unexpectedKeyword (name : String)
deriving DecidableEq, Repr

namespace ArgumentFault

/-- The code of the fault. -/
def code : ArgumentFault → String
  | .repeated _ => "multiple_argument_values"
  | .wrongType .regionName | .wrongType .endpointUrl => "string_type"
  | .wrongType .retryDelay | .wrongType .prefetchSize => "int_type"
  | .wrongType _ => "is_instance_of"
  | .unexpectedPosition _ => "unexpected_positional_argument"
  | .unexpectedKeyword _ => "unexpected_keyword_argument"

/-- Where the fault is: a keyword or a position. -/
def location : ArgumentFault → Value
  | .repeated s => .text s
  | .wrongType p => .text p.name
  | .unexpectedPosition n => .int n
  | .unexpectedKeyword s => .text s

/-- The text of the fault. -/
def message : ArgumentFault → String
  | .repeated _ => "Got multiple values for argument"
  | .wrongType .regionName | .wrongType .endpointUrl => "Input should be a valid string"
  | .wrongType .retryDelay | .wrongType .prefetchSize => "Input should be a valid integer"
  | .wrongType .retryMode => "Input should be an instance of RetryMode"
  | .wrongType _ => "Input should be an instance of Config"
  | .unexpectedPosition _ => "Unexpected positional argument"
  | .unexpectedKeyword _ => "Unexpected keyword argument"

end ArgumentFault
end QueueAck
