import QueueAck.Client.Sqs
import QueueAck.ClientConfig
import QueueAck.Connection
import QueueAck.Text.Case

/-!
# Connection factories

A factory holds the settings of connections and makes the client that they share. Its arguments are
checked in two stages: their types first, all of them, and then the range of the prefetch size. The
client is made when the first connection is, and never again once that succeeded.
-/

namespace QueueAck

/-- A value given to a factory; `κ` stands for the clients that exist. -/
inductive Argument (κ : Type) where
  /-- A plain value. -/
  | value (v : Value)
  /-- A client configuration. -/
  | config (c : ClientConfig)
  /-- A client. -/
  | client (k : κ)
deriving Repr

namespace Argument

variable {κ : Type}

/-- A value that is not absent. -/
def present? : Argument κ → Option (Argument κ)
  | .value .null => none
  | a => some a

/-- A text or an absent value; a retry mode counts as its text. -/
def optionalText? : Argument κ → Option (Option String)
  | .value .null => some none
  | .value v => v.asText?.map some
  | _ => none

/-- An integer; truth values and texts are none. -/
def integer? : Argument κ → Option Int
  | .value (.int i) => some i
  | _ => none

/-- A retry mode; the text of one is none. -/
def mode? : Argument κ → Option RetryMode
  | .value (.mode m) => some m
  | _ => none

/-- A client configuration or an absent value. -/
def optionalConfig? : Argument κ → Option (Option ClientConfig)
  | .value .null => some none
  | .config c => some (some c)
  | _ => none

/-- The service that an argument stands for; a value that is no client lacks every batch call. -/
def service {ε : Type} (known : κ → SqsBackend ε) : Argument κ → SqsBackend ε
  | .client k => known k
  | .config _ => .lacking "Config"
  | .value v => .lacking v.typeName

/-- True for a value of the type that a parameter asks for. -/
def fits (a : Argument κ) : Parameter → Bool
  | .regionName | .endpointUrl => a.optionalText?.isSome
  | .retryMode => a.mode?.isSome
  | .retryDelay | .prefetchSize => a.integer?.isSome
  | .sqsClient => true
  | .clientConfig => a.optionalConfig?.isSome

end Argument

/-- A factory of connections; `κ` stands for the clients that exist. -/
structure Factory (κ : Type) where
  /-- The region of a new client. -/
  regionName : Option String := none
  /-- The address of a new client. -/
  endpointUrl : Option String := none
  /-- The number of messages that are fetched at a time. -/
  prefetchSize : Int := minBatch
  /-- The policy of the connections. -/
  policy : RetryPolicy := {}
  /-- The client, once there is one. -/
  client : Option (Argument κ) := none
  /-- The configuration of a new client. -/
  config : Option ClientConfig := none
deriving Repr

/-- The arguments with which a client is made. -/
structure ClientRequest where
  /-- The name of the service. -/
  service : String := "sqs"
  /-- The region of the service. -/
  regionName : Option String
  /-- The address of the service. -/
  endpointUrl : Option String
  /-- The first half of the credentials. -/
  accessKeyId : Option String
  /-- The second half of the credentials. -/
  secretAccessKey : Option String
  /-- The options of the client. -/
  config : ClientConfig
deriving Repr

namespace Factory

variable {ε κ : Type}

/-- The name of the factory itself among its arguments. -/
def receiverKeyword : String := "self"

/-- The keyword that names the factory itself, when it is given. -/
def repeatedKeywords (keywords : List (String × Argument κ)) : List ArgumentFault :=
  (keywords.filter fun k => k.1 == receiverKeyword).map fun k => .repeated k.1

/-- The parameters whose value has the wrong type, in the order of the signature. -/
def wrongTypes (keywords : List (String × Argument κ)) : List ArgumentFault :=
  (Parameter.all.filter fun p =>
    match keywords.lookup p.name with
    | some a => !a.fits p
    | none => false).map .wrongType

/-- The positions at which a value is given, counted from one. -/
def unexpectedPositions (positional : Nat) : List ArgumentFault :=
  (List.range positional).map fun i => .unexpectedPosition (i + 1)

/-- The keywords that name no parameter, in the order of the call. -/
def unexpectedKeywords (keywords : List (String × Argument κ)) : List ArgumentFault :=
  (keywords.filter fun k => (Parameter.ofName? k.1).isNone && k.1 != receiverKeyword).map
    fun k => .unexpectedKeyword k.1

/-- Everything that is wrong with the types and the names of arguments, in the order in which it is
assumed to be found: the package that validates the arguments of the factory is no part of the
library. -/
def faults (positional : Nat) (keywords : List (String × Argument κ)) : List ArgumentFault :=
  repeatedKeywords keywords ++ wrongTypes keywords ++ unexpectedPositions positional ++
    unexpectedKeywords keywords

/-- The factory that arguments of the right types describe. -/
def ofKeywords (keywords : List (String × Argument κ)) : Factory κ where
  regionName := ((keywords.lookup Parameter.regionName.name).bind Argument.optionalText?).join
  endpointUrl := ((keywords.lookup Parameter.endpointUrl.name).bind Argument.optionalText?).join
  prefetchSize :=
    ((keywords.lookup Parameter.prefetchSize.name).bind Argument.integer?).getD minBatch
  policy := {
    mode := ((keywords.lookup Parameter.retryMode.name).bind Argument.mode?).getD .defaultDelay
    delay := ((keywords.lookup Parameter.retryDelay.name).bind Argument.integer?).getD 0 }
  client := (keywords.lookup Parameter.sqsClient.name).bind Argument.present?
  config := ((keywords.lookup Parameter.clientConfig.name).bind Argument.optionalConfig?).join

/-- A factory whose prefetch size is positive. -/
def checked (f : Factory κ) : Except Failure (Factory κ) :=
  if f.prefetchSize ≤ 0 then .error .prefetchSize else .ok f

/-- Makes a factory from `positional` values without a keyword and from values with one. -/
def make (positional : Nat) (keywords : List (String × Argument κ)) : Except Failure (Factory κ) :=
  match faults positional keywords with
  | [] => (ofKeywords keywords).checked
  | fs => .error (.arguments fs)

/-- The variable that holds the retry mode. -/
def modeVariable : String := "SQSMESSAGING_RETRY_MODE"

/-- The variable that holds the retry delay. -/
def delayVariable : String := "SQSMESSAGING_RETRY_DELAY"

/-- The variable that holds the prefetch size. -/
def prefetchVariable : String := "SQSMESSAGING_PREFETCH_SIZE"

/-- The variable that holds the region. -/
def regionVariable : String := "AWS_DEFAULT_REGION"

/-- The variable that holds the address of the service. -/
def endpointVariable : String := "SQSMESSAGING_ENDPOINT_URL"

/-- Reads the value of a retry mode in any letter case and with white space around it. -/
def readMode (text : String) : Except Failure RetryMode :=
  let value := Text.lower (Text.trim text)
  match RetryMode.ofValue? value with
  | some m => .ok m
  | none => .error (.unknownMode value)

/-- The mode, the delay and the prefetch size of an environment, read in this order. -/
def readSettings (env : Environment) : Except Failure (RetryMode × Int × Int) := do
  let mode ← readMode ((env.get? modeVariable).getD RetryMode.defaultDelay.value)
  let delay ← env.integer delayVariable 0
  let prefetchSize ← env.integer prefetchVariable minBatch
  return (mode, delay, prefetchSize)

/-- Makes a factory from the environment. -/
def ofEnvironment (env : Environment) : Except Failure (Factory κ) :=
  match readSettings env with
  | .error f => .error (.badEnvironment f)
  | .ok (mode, delay, prefetchSize) =>
    checked {
      regionName := env.nonEmpty? regionVariable
      endpointUrl := env.nonEmpty? endpointVariable
      prefetchSize
      policy := { mode, delay } }

/-- The place that logs when a connection is made. -/
def site : Log.Site := ⟨"connection", "create_connection"⟩

/-- The arguments with which the factory makes its client. -/
def clientRequest (f : Factory κ) (accessKeyId secretAccessKey : Option String) :
    ClientRequest where
  regionName := f.regionName
  endpointUrl := f.endpointUrl
  accessKeyId
  secretAccessKey
  config := ClientConfig.forClient f.config

/-- The failure that a failed attempt to make a client is reported as. -/
def clientFailure (f : Failure) : Failure :=
  if f.isValue then .badEndpoint f else if f.isNoRegion then .noRegion f else f

/-- The client of the factory: the one that it holds, or else a new one. -/
def obtainClient (f : Factory κ) (provider : ClientRequest → Action ε κ)
    (accessKeyId secretAccessKey : Option String) : Action ε (Argument κ) :=
  match f.client with
  | some a => return a
  | none => do
    match ← Action.attempt (provider (f.clientRequest accessKeyId secretAccessKey)) with
    | .ok k => return .client k
    | .error e => throw (clientFailure e)

/-- Opens a connection with a client. The prefetch size is logged, and one with too many digits
cannot be shown. -/
def openConnection (f : Factory κ) (client : Argument κ) : Action ε (Connection (Argument κ)) := do
  let prefetchSize ← Action.ofExcept (decimalText f.prefetchSize)
  Action.report site Log.debug
    ("Creating connection with retry mode " ++ f.policy.mode.name ++ " and prefetch size " ++
      prefetchSize ++ ".")
  Connection.make client (some f.policy) f.prefetchSize

/-- Makes a connection. The factory is returned as it is left: with the client that it holds from
then on, also when no connection comes of it. The credentials are given both or not at all. -/
def connect (f : Factory κ) (provider : ClientRequest → Action ε κ)
    (accessKeyId secretAccessKey : Option String) :
    Action ε (Factory κ × Except Failure (Connection (Argument κ))) := do
  if accessKeyId.isNone ≠ secretAccessKey.isNone then return (f, .error .halfCredentials)
  else
    match ← Action.attempt (f.obtainClient provider accessKeyId secretAccessKey) with
    | .error e => return (f, .error e)
    | .ok client =>
      let connection ← Action.attempt (f.openConnection client)
      return ({ f with client := some client }, connection)

end Factory
end QueueAck
