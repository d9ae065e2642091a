import QueueAck.Argument
import QueueAck.Batch
import QueueAck.Calendar.Stamp
import QueueAck.Failure.PubSub
import QueueAck.Failure.Sqs
import QueueAck.Text.Integer

/-!
# Failures

Every cause for which an operation of the library, or code that it calls, ends without a result.
`Failure.kind` names the class of a failure, `Failure.message` is its text, and `Failure.cause?`
is the failure that it was raised from.
-/

namespace QueueAck

/-- The errors that code outside the library raises. -/
inductive OutsideError where
  /-- An error of a plain kind. -/
  | plain (kind : PlainKind) (message : String)
  /-- A general error of message handling. -/
  | messaging (message : String)
  /-- An error of a configuration. -/
  | configuration (message : String)
  /-- A failed batch call. -/
  | backendCall (message operation destination : String)
  /-- An error of SQS. -/
  | sqs (e : SqsError)
  /-- An error of Pub/Sub. -/
  | pubSub (e : PubSubError)
deriving Repr

/-- The causes for which an operation ends without a result. -/
inductive Failure where
  /-- Code outside the library raised an error. -/
  | outside (e : OutsideError)
  /-- Code outside the library raised an error from another failure. -/
  | outsideFrom (e : OutsideError) (cause : Failure)
  /-- An item belongs to another destination than the one it is dispatched to. -/
  | mixedDestinations (receiptHandle itsDestination destination : String)
  /-- A queue was filled faster than the fuel of `Dispatcher.drain` lasted. -/
  | endlessQueue
  /-- A batch request has too many entries. -/
  | oversizedBatch (count : Nat)
  /-- A request has one deadline and its entries ask for several. -/
  | severalDeadlines (deadlines : List Int)
  /-- A batch size is out of range. -/
  | batchSize (size : Int)
  /-- A prefetch size is not positive. -/
  | prefetchSize
  /-- One half of the credentials is missing. -/
  | halfCredentials
  /-- A client could not be made for the endpoint. -/
  | badEndpoint (cause : Failure)
  /-- A client could not be made without a region. -/
  | noRegion (cause : Failure)
  /-- The environment does not describe a factory. -/
  | badEnvironment (cause : Failure)
  /-- A batch call failed as a whole. -/
  | backendCall (operation destination : String) (cause : Failure)
  /-- Some entries of a batch were refused. -/
  | partialBatch (result : BatchResult)
  /-- The identifier of a failed entry is no text. -/
  | unnamedEntry (index : Nat) (typeName : String)
  /-- A log level is not known. -/
  | unknownLevel (text : String)
  /-- A text is not read as an integer. -/
  | unreadableInteger (text : String) (fault : Text.IntegerFault)
  /-- A text is not the value of a retry mode. -/
  | unknownMode (text : String)
  /-- An integer has more digits than are written. -/
  | unprintableInteger
  /-- A value lacks what is asked of it. -/
  | misuse (m : Misuse)
  /-- A value is given for an argument that a function has already. -/
  | repeatedArgument (function argument : String)
  /-- A client configuration has an option that is not known. -/
  | unknownOption (name : String)
  /-- A number is asked for and the value cannot be compared with one. -/
  | notComparable (typeName : String)
  /-- A log call gives an attribute that every record has. -/
  | protectedAttribute (name : String)
  /-- A message or a format cannot be filled. -/
  | template (fault : TemplateFault)
  /-- The time of a record cannot be shown. -/
  | stamp (fault : StampFault)
  /-- A format asks for an attribute that the record lacks. -/
  | unknownAttribute (name : String)
  /-- A format asks for no attribute at all. -/
  | formatWithoutFields (format : String)
  /-- The arguments of a factory are refused. -/
  | arguments (faults : List ArgumentFault)
deriving Repr

/-- The name of the kind of an outside error. -/
def OutsideError.kind : OutsideError → String
  | .plain k _ => k.name
  | .messaging _ => "SQSMessagingException"
  | .configuration _ => "ConfigurationError"
  | .backendCall .. => "BackendCallError"
  | .sqs e => e.kind
  | .pubSub e => e.kind

/-- The text of an outside error. A missing key is shown by its literal. -/
def OutsideError.message : OutsideError → String
  | .plain .key text => Text.quote text
  | .plain _ text => text
  | .messaging text => text
  | .configuration text => text
  | .backendCall text _ _ => text
  | .sqs e => e.message
  | .pubSub e => e.message

/-- The kind of a fault in a template. -/
def TemplateFault.kind : TemplateFault → PlainKind
  | .incomplete | .incompleteKey | .unsupported .. | .tooBig _ | .notFinite true
  | .unprintableInteger => .value
  | .notFinite false | .noSuchCharacter | .measureOutOfRange _ | .tooManyDigits | .tooLarge =>
    .overflow
  | .outOfMemory => .memory
  | .unknownKey _ => .key
  | .tooFewArguments | .tooManyArguments | .keyWithoutNames | .keyOfList | .measureNotInteger
  | .notANumber .. | .notReal _ | .notACharacter => .type

/-- The name of a measure. -/
def Measure.name : Measure → String
  | .width => "width"
  | .precision => "precision"

/-- The name of the numbers among which a measure is found. -/
def Measure.range : Measure → String
  | .width => "ssize_t"
  | .precision => "int"

/-- The text of a failure for too many digits, with what is known about them. -/
def digitLimitMessage (found : String) : String :=
  "Exceeds the limit (" ++ Text.digitLimit.repr ++ " digits) for integer string conversion" ++
    found ++ "; use sys.set_int_max_str_digits() to increase the limit"

/-- The text of a fault in a template. -/
def TemplateFault.message : TemplateFault → String
  | .incomplete => "incomplete format"
  | .incompleteKey => "incomplete format key"
  | .unsupported k index =>
    let shown := if 31 ≤ k.toNat ∧ k.toNat ≤ 126 then k else '?'
    "unsupported format character '" ++ shown.toString ++ "' (0x" ++
      String.ofList (Nat.toDigits 16 k.toNat) ++ ") at index " ++ index.repr
  | .tooFewArguments => "not enough arguments for format string"
  | .tooManyArguments => "not all arguments converted during string formatting"
  | .keyWithoutNames => "format requires a mapping"
  | .keyOfList => Misuse.message .nameInList
  | .unknownKey k => Text.quote k
  | .tooBig m => m.name ++ " too big"
  | .measureNotInteger => "* wants int"
  | .measureOutOfRange m => "Python int too large to convert to C " ++ m.range
  | .tooManyDigits => "precision too large"
  | .unprintableInteger => digitLimitMessage ""
  | .outOfMemory => ""
  | .notANumber k typeName =>
    "%" ++ k.toString ++ " format: " ++
      (if k = 'x' ∨ k = 'X' ∨ k = 'o' then "an integer" else "a real number") ++
      " is required, not " ++ typeName
  | .notReal typeName => "must be real number, not " ++ typeName
  | .tooLarge => "int too large to convert to float"
  | .notFinite true => "cannot convert float NaN to integer"
  | .notFinite false => "cannot convert float infinity to integer"
  | .notACharacter => "%c requires int or char"
  | .noSuchCharacter => "%c arg not in range(0x110000)"

/-- The kind of a fault in a time stamp. -/
def StampFault.kind : StampFault → PlainKind
  | .notANumber | .nullCharacter => .value
  | .beyondTime | .largeYear => .overflow
  | .beyondCalendar => .system
  | .notAMoment _ => .type
  | .milliseconds fault => fault.kind

/-- The text of a fault in a time stamp. -/
def StampFault.message : StampFault → String
  | .notANumber => "Invalid value NaN (not a number)"
  | .beyondTime => "timestamp out of range for platform time_t"
  | .beyondCalendar => "[Errno 75] Value too large for defined data type"
  | .largeYear => "signed integer is greater than maximum"
  | .notAMoment typeName => "'" ++ typeName ++ "' object cannot be interpreted as an integer"
  | .nullCharacter => "embedded null character"
  | .milliseconds fault => fault.message

/-- The text of a text that is not read as an integer; its literal is cut to 200 characters. -/
def integerMessage (text : String) : Text.IntegerFault → String
  | .malformed =>
    "invalid literal for int() with base 10: " ++
      String.ofList ((Text.quoteChars text.toList).take 200)
  | .tooLong n => digitLimitMessage (": value has " ++ n.repr ++ " digits")

/-- A call that had not returned when a failure arose. -/
structure CallFrame where
  /-- The file of the caller. -/
  file : String
  /-- The line of the call. -/
  line : Nat
  /-- The function that calls. -/
  function : String
  /-- The text of the call. -/
  code : String
deriving DecidableEq, Repr

/-- The listing of calls, the outermost one first; without calls there is none. -/
def CallFrame.listing : List CallFrame → String
  | [] => ""
  | frames =>
    "Traceback (most recent call last):\n" ++ String.join (frames.map fun f =>
      "  File \"" ++ f.file ++ "\", line " ++ f.line.repr ++ ", in " ++ f.function ++ "\n    " ++
        f.code ++ "\n")

namespace Failure

/-- The name of the kind of a failure. -/
def kind : Failure → String
  | .outside e | .outsideFrom e _ => e.kind
  | .mixedDestinations .. | .endlessQueue | .oversizedBatch _ | .severalDeadlines _ =>
    "SQSMessagingException"
  | .batchSize _ | .prefetchSize | .halfCredentials | .badEndpoint _ | .noRegion _
  | .badEnvironment _ => "ConfigurationError"
  | .backendCall .. => "BackendCallError"
  | .partialBatch _ => "PartialBatchFailure"
  | .unnamedEntry .. | .repeatedArgument .. | .unknownOption _ | .notComparable _ =>
    PlainKind.type.name
  | .unknownLevel _ | .unreadableInteger .. | .unprintableInteger | .unknownMode _
  | .unknownAttribute _ | .formatWithoutFields _ => PlainKind.value.name
  | .misuse m => m.kind.name
  | .protectedAttribute _ => PlainKind.key.name
  | .template fault => fault.kind.name
  | .stamp fault => fault.kind.name
  | .arguments _ => "ValidationError"

/-- The text of a failure. -/
def message : Failure → String
  | .outside e | .outsideFrom e _ => e.message
  | .mixedDestinations handle itsDestination destination =>
    "The item " ++ handle ++ " belongs to " ++ itsDestination ++
      ", it cannot be dispatched to " ++ destination ++ "."
  | .endlessQueue => "The queue was filled faster than it could be drained."
  | .oversizedBatch count =>
    "A batch holds at most " ++ maxBatch.repr ++ " entries but " ++ count.repr ++ " were given."
  | .severalDeadlines deadlines =>
    "Pub/Sub applies a single deadline per request but got " ++
      (Value.list (deadlines.map .int)).literal ++ "."
  | .batchSize size =>
    "The batch size (" ++ size.repr ++ ") must be between 1 and " ++ maxBatch.repr ++ "."
  | .prefetchSize => "Invalid prefetch size."
  | .halfCredentials => "Both the access key id and the secret access key must be given."
  | .badEndpoint cause => "Bad endpoint configuration: " ++ cause.message
  | .noRegion _ => "No region configured, set region_name or AWS_DEFAULT_REGION."
  | .badEnvironment cause => "Invalid environment configuration: " ++ cause.message
  | .backendCall operation destination cause =>
    "The " ++ operation ++ " call failed for " ++ destination ++ ": " ++ cause.message
  | .partialBatch result =>
    result.failed.length.repr ++ " entries failed on " ++ result.destination ++ ": " ++
      ", ".intercalate (result.failed.map fun f => (f.id.asText?).getD "")
  | .unnamedEntry index typeName =>
    "sequence item " ++ index.repr ++ ": expected str instance, " ++ typeName ++ " found"
  | .unknownLevel text => "Unknown log level: " ++ text
  | .unreadableInteger text fault => integerMessage text fault
  | .unknownMode text => Text.quote text ++ " is not a valid RetryMode"
  | .unprintableInteger => digitLimitMessage ""
  | .misuse m => m.message
  | .repeatedArgument function argument =>
    function ++ "() got multiple values for argument '" ++ argument ++ "'"
  | .unknownOption name => "Got unexpected keyword argument '" ++ name ++ "'"
  | .notComparable typeName =>
    "'<' not supported between instances of '" ++ typeName ++ "' and 'int'"
  | .protectedAttribute name =>
    Text.quote ("Attempt to overwrite " ++ Text.quote name ++ " in LogRecord")
  | .template fault => fault.message
  | .stamp fault => fault.message
  | .unknownAttribute name => "Formatting field not found in record: " ++ Text.quote name
  | .formatWithoutFields format => "Invalid format '" ++ format ++ "' for '%' style"
  | .arguments faults => faults.length.repr ++ " validation errors"

/-- The failure that a failure was raised from. -/
def cause? : Failure → Option Failure
  | .outsideFrom _ c | .badEndpoint c | .noRegion c | .badEnvironment c
  | .backendCall _ _ c => some c
  | _ => none

/-- The outside error behind a failure that no part of the library has wrapped. -/
def outside? : Failure → Option OutsideError
  | .outside e | .outsideFrom e _ => some e
  | _ => none

/-- True for the errors of SQS and its client library. -/
def isSqs (f : Failure) : Bool :=
  match f.outside? with
  | some (.sqs _) => true
  | _ => false

/-- True for the errors of Pub/Sub and its client library. -/
def isPubSub (f : Failure) : Bool :=
  match f.outside? with
  | some (.pubSub _) => true
  | _ => false

/-- True for the error that says that there is no region. -/
def isNoRegion (f : Failure) : Bool :=
  match f.outside? with
  | some (.sqs .noRegion) => true
  | _ => false

/-- True for the failures that say that a value is not acceptable; a region in the wrong form is one
of them although it is an error of SQS. -/
def isValue (f : Failure) : Bool :=
  match f.outside? with
  | some (.sqs (.invalidRegion _)) => true
  | some (.plain .value _) => true
  | some _ => false
  | none => f.kind == PlainKind.value.name || f.kind == "ValidationError"

/-- The module in which the kind of a failure is found, when it has one. -/
def module? (f : Failure) : Option String :=
  match f.outside? with
  | some (.sqs _) => some "botocore.exceptions"
  | some (.pubSub _) => some "google.api_core.exceptions"
  | _ =>
    if f.kind ∈ ["SQSMessagingException", "ConfigurationError", "BackendCallError",
        "PartialBatchFailure"] then some "sqsmessaging.exceptions"
    else if f.kind = "ValidationError" then some "pydantic_core._pydantic_core"
    else none

/-- The line that reports a failure: its kind, and its text when it has one. -/
def line (f : Failure) : String :=
  let name := match f.module? with
    | some m => m ++ "." ++ f.kind
    | none => f.kind
  if f.message.isEmpty then name else name ++ ": " ++ f.message

/-- The report of a failure, after the report of what it was raised from. The calls that led to the
failure come before its line when they are known. -/
def report (f : Failure) (calls : List CallFrame := []) : String :=
  let own := CallFrame.listing calls ++ f.line
  match f with
  | .outsideFrom _ c | .badEndpoint c | .noRegion c | .badEnvironment c | .backendCall _ _ c =>
    c.report ++
      "\n\nThe above exception was the direct cause of the following exception:\n\n" ++ own
  | _ => own

end Failure

/-- Raises a failure when some entry was refused. The refused entries are named by their
identifiers, so the first identifier that is no text is reported instead. -/
def BatchResult.raiseForFailures (r : BatchResult) : Except Failure Unit :=
  if r.hasFailures then
    match (r.failed.zipIdx).find? fun p => p.1.id.asText?.isNone with
    | some (f, i) => .error (.unnamedEntry i f.id.typeName)
    | none => .error (.partialBatch r)
  else .ok ()

/-- A failure that is logged, with the failure that was being handled when it arose. -/
structure Trace where
  /-- The failure that is logged. -/
  failure : Failure
  /-- The earlier failure that it took the place of. -/
  replaced : Option Failure := none
  /-- The calls that led to the earlier failure, as far as they are known. -/
  calls : List CallFrame := []
deriving Repr

/-- The report of a logged failure, after the report of the one that it replaced; a failure that was
raised from another one is reported with that one instead. -/
def Trace.report (t : Trace) : String :=
  match t.replaced.filter fun _ => t.failure.cause?.isNone with
  | none => t.failure.report
  | some earlier =>
    earlier.report t.calls ++
      "\n\nDuring handling of the above exception, another exception occurred:\n\n" ++
      t.failure.report

end QueueAck
