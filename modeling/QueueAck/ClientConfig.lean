import QueueAck.Failure.Basic
import QueueAck.Log.Context

/-!
# Client configurations

The options with which a service client is made. An option that is not given has a default, and one
that is not known is refused. The library adds its own name to the user agent of the caller and
keeps all other options. What it says about itself, its version and the names that it offers, stands
at the front.
-/

namespace QueueAck

/-- The version of the library. -/
def version : String := "0.1.0"

/-- What the library adds to the user agent of a client. -/
def userAgent : String := "SQSPythonMessagingClient/" ++ version

/-- The names that the library offers, in alphabetical order. -/
def publicNames : List String :=
  ["Acknowledger", "BatchDispatcher", "BatchEntry", "BatchIdGenerator", "BatchResult",
    "NegativeAcknowledger", "PendingItem", "PubSubClient", "RetryMode", "RetryPolicy", "SQSClient",
    "SQSConnection", "SQSConnectionFactory", "__version__", "resolve_delay"]

/-- The options of a service client that are given, by their names. -/
structure ClientConfig where
  /-- The options. -/
  given : Context := []
deriving Repr

namespace ClientConfig

/-- The value that is given for an option. -/
def get? (c : ClientConfig) (option : String) : Option Value := c.given.lookup option

/-- The options of both configurations; an option of the second one wins. So the package is assumed
to merge that offers the configurations; it is no part of the library. -/
def merge (a b : ClientConfig) : ClientConfig := ⟨a.given.overlay b.given⟩

/-- The options of a client. -/
def knownOptions : List String :=
  ["region_name", "signature_version", "user_agent", "user_agent_extra", "user_agent_appid",
    "connect_timeout", "read_timeout", "parameter_validation", "max_pool_connections", "proxies",
    "proxies_config", "s3", "retries", "client_cert", "inject_host_prefix",
    "endpoint_discovery_enabled", "use_dualstack_endpoint", "use_fips_endpoint",
    "ignore_configured_endpoint_urls", "defaults_mode", "tcp_keepalive",
    "request_min_compression_size_bytes", "disable_request_compression", "client_context_params",
    "sigv4a_signing_region_set", "request_checksum_calculation", "response_checksum_validation",
    "account_id_endpoint_mode", "auth_scheme_preference", "s3_disable_express_session_auth"]

/-- Checks that a number of retries is not below the least one. -/
def checkCount (v : Value) (least : Nat) : Except Failure Unit :=
  match v with
  | .double .nan | .double (.infinite false) => .ok ()
  | .double (.infinite true) => .error (.outside (.sqs (.retryCount v least)))
  | v =>
    match v.fraction? with
    | none => .error (.notComparable v.typeName)
    | some (n, d) =>
      if n < least * d then .error (.outside (.sqs (.retryCount v least))) else .ok ()

/-- Checks one option for retries. -/
def checkRetryOption (name : String) (v : Value) : Except Failure Unit :=
  match name with
  | "max_attempts" => checkCount v 0
  | "total_max_attempts" => checkCount v 1
  | "mode" =>
    if (v.asText?.any fun s => ["legacy", "standard", "adaptive"].contains s) then .ok ()
    else .error (.outside (.sqs (.unknownRetryMode v)))
  | other => .error (.outside (.sqs (.unknownRetryOption other)))

/-- Checks the options for retries one by one. -/
def checkRetries : Value → Except Failure Unit
  | .null => .ok ()
  | .record fs => fs.forM fun f => checkRetryOption f.1 f.2
  | v => .error (.misuse (.lacksAttribute v.typeName "items"))

/-- Checks the style of addresses among the options of a store of files. -/
def checkAddressing : Value → Except Failure Unit
  | .null => .ok ()
  | v => do
    let style := ((← (v.fieldOf "addressing_style").mapError .misuse).getD .null)
    if !style.isPresent || (style.asText?.any fun s => ["virtual", "auto", "path"].contains s) then
      return ()
    else .error (.outside (.sqs (.unknownAddressingStyle style)))

/-- The name under which a configuration itself is given; no option has it. -/
def receiverName : String := "self"

/-- The configuration of the options that are given. Unknown options are refused, and so are
options for addresses and for retries that are out of range. -/
def ofOptions (options : Context) : Except Failure ClientConfig := do
  if options.any fun o => o.1 == receiverName then
    .error (.repeatedArgument "Config.__init__" receiverName)
  match options.find? fun o => !knownOptions.contains o.1 with
  | some o => .error (.unknownOption o.1)
  | none =>
    checkAddressing ((options.lookup "s3").getD .null)
    checkRetries ((options.lookup "retries").getD .null)
    return ⟨options⟩

/-- The option that selects the defaults of a client. -/
def defaultsOption : String := "defaults_mode"

/-- True when the defaults are those that hold when none are selected. -/
def hasUsualDefaults (c : ClientConfig) : Bool :=
  ((c.get? defaultsOption).map Value.asText?).getD (some "legacy") == some "legacy"

/-- The options that requests to a service are described by, with their defaults. -/
def defaults (c : ClientConfig) : Context :=
  [("user_agent_extra", .null), ("region_name", .null), ("read_timeout", .int 60),
    ("connect_timeout", if c.hasUsualDefaults then .int 60 else .null),
    ("max_pool_connections", .int 10), ("retries", .null)]

/-- The options with a default, each with the value that is in force. -/
def effective (c : ClientConfig) : Context :=
  c.defaults.map fun d => (d.1, (c.get? d.1).getD d.2)

/-- The option for the text that is added to the user agent. -/
def userAgentOption : String := "user_agent_extra"

/-- The user agent that a configuration leads to: the caller's text, when there is one, and the name
of the library. The option is documented as a text. Of another value the text is taken as if its
integers were short enough to be written. -/
def userAgentWith (extra : Option Value) : String :=
  match extra with
  | some v => if v.isTruthy then v.toText ++ " " ++ userAgent else userAgent
  | none => userAgent

/-- The configuration with which a client is made. -/
def forClient (c : Option ClientConfig) : ClientConfig :=
  let own := c.getD {}
  own.merge ⟨[(userAgentOption, .text (userAgentWith (own.get? userAgentOption)))]⟩

end ClientConfig
end QueueAck
