import QueueAck.Failure.Basic
import QueueAck.Log.Context
import QueueAck.Log.Level
import QueueAck.Number.OfValue

/-!
# Log records

A log record describes one message: what was logged, where, when and how seriously. The standard
attributes that formatting reads are fields; all other attributes, those a caller gives and those a
formatter leaves, are kept by name. A caller may replace any attribute by any value, or take all of
them away.
`Record.contextualize` fills in the context: that of the thread, overlaid with the caller's
attributes.
-/

namespace QueueAck.Log

/-- What a record holds about a failure. -/
inductive FailureNote where
  /-- There was no failure. -/
  | none
  /-- A failure is logged with the message. -/
  | trace (t : Trace)
  /-- A caller has put a value in its place. -/
  | value (v : Value)
deriving Repr

namespace FailureNote

/-- The report of a value that stands for a failure: its second part should be a failure and its
third part the calls that led to it. Only the absence of both can be reported. -/
def reportOf (v : Value) : Except Misuse String := do
  let calls ← v.partAt 2
  if calls.isPresent then .error (.lacksAttribute calls.typeName "tb_frame")
  else
    let failure ← v.partAt 1
    if failure.isPresent then .error (.lacksAttribute failure.typeName "__suppress_context__")
    else return "NoneType: None"

/-- The report of the failure, if there is one. -/
def report? : FailureNote → Except Failure (Option String)
  | .none => .ok Option.none
  | .trace t => .ok (some t.report)
  | .value v => if v.isTruthy then ((reportOf v).mapError .misuse).map some else .ok Option.none

/-- What is noted when a failure is asked for and there is none has a report as well. -/
example : (report? (.value (.list [.null, .null, .null]))).toOption =
    some (some "NoneType: None") := rfl

end FailureNote

/-- A record of one logged message. Attributes that a caller may replace hold any value. -/
structure Record where
  /-- The name of the logger. -/
  name : Value := .text "sqsmessaging"
  /-- The level. -/
  level : Int := info
  /-- The name of the level. -/
  levelName : Value := .text (Log.levelName level)
  /-- The message, a template when there are arguments. -/
  message : Value
  /-- The arguments of the message. -/
  arguments : Template.Arguments := .inOrder []
  /-- The module that logged. -/
  module : Value
  /-- The function that logged. -/
  function : Value
  /-- The line that logged. -/
  line : Value := .int 0
  /-- The thread that logged. -/
  thread : Value := .int 1
  /-- The name of the thread. -/
  threadName : Value := .text "MainThread"
  /-- The name of the process that logged. -/
  processName : Value := .text "MainProcess"
  /-- The moment, in seconds since the start of 1970. -/
  created : Value := .int 0
  /-- The milliseconds of the moment. -/
  milliseconds : Value := .int 0
  /-- The failure that is logged with the message. -/
  exception : FailureNote := .none
  /-- The report of the failure, once it was made. -/
  exceptionText : Value := .null
  /-- The report of the call stack. -/
  stack : Value := .null
  /-- The context, once it was filled in. -/
  context : Option Value := none
  /-- All further attributes. -/
  attached : Context := []
  /-- The standard attributes that were taken away. -/
  lost : List String := []
deriving Repr

/-- The attributes that every record has. -/
def standardAttributes : List String :=
  ["name", "msg", "args", "levelname", "levelno", "pathname", "filename", "module", "exc_info",
    "exc_text", "stack_info", "lineno", "funcName", "created", "msecs", "relativeCreated", "thread",
    "threadName", "processName", "process"]

/-- The attributes that are never part of a context: the standard ones, and those that formatting
leaves on a record. -/
def reservedAttributes : List String := standardAttributes ++ ["asctime", "message", "taskName"]

/-- True for an attribute that becomes part of the context. -/
def isContextual (name : String) : Bool := !reservedAttributes.contains name && name != "context"

/-- The name of the file of a source path. -/
def fileOfPath (path : String) : String :=
  String.ofList (path.toList.reverse.takeWhile (· != '/')).reverse

/-- The module of a source path: the file name without its last extension. Leading dots start no
extension. -/
def moduleOfPath (path : String) : String :=
  let name := (fileOfPath path).toList
  let stem := (name.reverse.dropWhile (· != '.')).drop 1
  if stem.all (· == '.') then String.ofList name else String.ofList stem.reverse

namespace Record

/-- The name of the type of records. -/
def typeName : String := "LogRecord"

/-- Asks for standard attributes in order. -/
def need (r : Record) (names : List String) : Except Failure Unit :=
  match names.find? fun n => r.lost.contains n with
  | some n => .error (.misuse (.lacksAttribute typeName n))
  | none => .ok ()

/-- A record from which nothing was taken has everything that is asked for. -/
theorem need_of_lost_eq_nil {r : Record} (h : r.lost = []) (names : List String) :
    r.need names = .ok () := by
  have absent : (names.find? fun n => r.lost.contains n) = none := by simp [h]
  simp only [need, absent]

/-- True when there is something to put into the message. -/
def hasArguments (r : Record) : Bool :=
  match r.arguments with
  | .inOrder vs => !vs.isEmpty
  | .whole v => v.isTruthy

/-- The name under which a record offers its text. -/
def textOperation : String := "getMessage"

/-- The message with its arguments in place. Without arguments it is not read as a template. -/
def filledMessage (r : Record) : Except Failure String :=
  if !r.message.isWritable then .error .unprintableInteger
  else if r.hasArguments then (Template.fill r.message.toText r.arguments).mapError .template
  else .ok r.message.toText

/-- The text of a record, which an attribute of the operation's name hides. -/
def text (r : Record) : Except Failure String :=
  match r.attached.lookup textOperation with
  | some v => .error (.misuse (.notCallable v.typeName))
  | none => do
    r.need ["msg", "args"]
    r.filledMessage

/-- Attaches an attribute that has no field of its own. -/
def attach (r : Record) (name : String) (v : Value) : Record :=
  { r with attached := r.attached.put name v }

/-- Places a record in a source file. What is no path is kept as it is and has no known module. -/
def locate (r : Record) (path : Value) : Record :=
  let placed := r.attach "pathname" path
  match path.asText? with
  | some p => { placed.attach "filename" (.text (fileOfPath p)) with
      module := .text (moduleOfPath p) }
  | none => { placed.attach "filename" path with module := .text "Unknown module" }

/-- The name of a level that may be any value. A number has the name of the level that it equals,
and a text that names a level stands for the number of that level. -/
def levelNameOf (v : Value) : Except Misuse Value :=
  let other := Value.text ("Level " ++ v.toText)
  match v with
  | .int i => .ok (.text (Log.levelName i))
  | .bool b => .ok (if b then other else .text (Log.levelName 0))
  | .double (.finite n m e) =>
    let i := Double.truncate n m e
    let named := Value.same v (.int i) && namedLevels.any fun l => l.2 == i
    .ok (if named then .text (Log.levelName i) else other)
  | .text s => .ok ((namedLevels.lookup s).elim other .int)
  | .list _ | .record _ => .error (.notAKey v.typeName)
  | _ => .ok other

/-- Gives a record a level. -/
def rank (r : Record) (v : Value) : Except Misuse Record :=
  match v with
  | .int i => .ok { r with level := i, levelName := .text (Log.levelName i) }
  | v => (levelNameOf v).map fun n => { r.attach "levelno" v with levelName := n }

/-- Gives a record its moment and the milliseconds of it. Both are kept as doubles. -/
def date (r : Record) (moment milliseconds : Value) : Except Misuse Record := do
  return { r with
    created := .double (← moment.toDouble), milliseconds := .double (← milliseconds.toDouble) }

/-- Sets an attribute. -/
def assign (r : Record) (name : String) (v : Value) : Record :=
  let r := { r with lost := r.lost.filter (· != name) }
  match name with
  | "name" => { r with name := v }
  | "msg" => { r with message := v }
  | "args" => { r with arguments := .whole v }
  | "levelname" => { r with levelName := v }
  | "module" => { r with module := v }
  | "funcName" => { r with function := v }
  | "lineno" => { r with line := v }
  | "thread" => { r with thread := v }
  | "threadName" => { r with threadName := v }
  | "processName" => { r with processName := v }
  | "created" => { r with created := v }
  | "msecs" => { r with milliseconds := v }
  | "exc_info" => { r with exception := .value v }
  | "exc_text" => { r with exceptionText := v }
  | "stack_info" => { r with stack := v }
  | "context" => { r with context := some v }
  | name => r.attach name v

/-- Sets attributes one after the other. -/
def assignAll (r : Record) (fields : List (String × Value)) : Record :=
  fields.foldl (fun r f => r.assign f.1 f.2) r

/-- A record without any attribute. -/
def bare : Record where
  message := .null
  module := .null
  function := .null
  lost := standardAttributes

/-- Sets an attribute whose name was not chosen by a log call. A few names belong to the object
itself; one of them stands for all attributes together. -/
def setAttribute (r : Record) (name : String) (v : Value) : Except Misuse Record :=
  match name, v with
  | "__class__", v => .error (.notAClass v.typeName)
  | "__dict__", .record fs => .ok (bare.assignAll fs)
  | "__dict__", v => .error (.notAttributes v.typeName)
  | "__weakref__", _ => .error (.fixedAttribute name)
  | name, v => .ok (r.assign name v)

/-- Sets such attributes one after the other. -/
def setAttributes (r : Record) (fields : List (String × Value)) : Except Misuse Record :=
  fields.foldlM (fun r f => r.setAttribute f.1 f.2) r

/-- The arguments as a value: those in order are shown in parentheses. -/
def argumentValue : Template.Arguments → Value
  | .whole v => v
  | .inOrder [v] => .object "tuple" ("(" ++ v.literal ++ ",)")
  | .inOrder vs => .object "tuple" ("(" ++ ", ".intercalate (Value.literals vs) ++ ")")

/-- The attribute of the failure note, unless a failure is logged: what stands for a failure as
a value is not known. -/
def exceptionAttribute : FailureNote → List (String × Value)
  | .none => [("exc_info", .null)]
  | .value v => [("exc_info", v)]
  | .trace _ => []

/-- The values of the standard attributes that have fields. -/
def standardValues (r : Record) : List (String × Value) :=
  [("name", r.name), ("msg", r.message), ("args", argumentValue r.arguments),
    ("levelname", r.levelName), ("levelno", .int r.level), ("module", r.module),
    ("lineno", r.line), ("funcName", r.function), ("created", r.created),
    ("msecs", r.milliseconds), ("thread", r.thread), ("threadName", r.threadName),
    ("processName", r.processName), ("exc_text", r.exceptionText), ("stack_info", r.stack)] ++
    exceptionAttribute r.exception

/-- The attributes that a format may ask for. -/
def attributes (r : Record) : List (String × Value) :=
  r.attached ++ (r.context.map fun c => ("context", c)).toList ++
    r.standardValues.filter fun a => !r.lost.contains a.1

/-- The attributes that become part of the context. -/
def extras (r : Record) : Context := r.attached.filter fun f => isContextual f.1

/-- Fills in the context: that of the thread, overlaid with the further attributes. -/
def contextualize (store : Context) (r : Record) : Record :=
  { r with context := some (.record (store.overlay r.extras)) }

/-- Filling in the context a second time changes nothing. -/
theorem contextualize_contextualize (store : Context) (r : Record) :
    (r.contextualize store).contextualize store = r.contextualize store := rfl

end Record
end QueueAck.Log
