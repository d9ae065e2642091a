import QueueAck.Json.Conversion
import QueueAck.Log.Format
import QueueAck.Log.Record

/-!
# Formatting log records

Two ways to turn a record into text. The text form fills a format with the attributes of the record,
adds the reports of its failure and of its call stack on lines of their own, and lists the context
behind a bar. The JSON form is one object: the standard members, the context, and the failure.
Formatting as text leaves the message, the time and the report of the failure on the record, so
a formatter returns the record as well.
-/

namespace QueueAck.Log

/-- A way to turn records into text. -/
inductive Formatter where
  /-- A format with attributes in their places, and a pattern for the time. -/
  | text (format : String) (timePattern : Option String)
  /-- A JSON object, and a pattern for the time. -/
  | json (timePattern : Option String)
deriving DecidableEq, Repr

/-- The format of the installed text formatter. -/
def standardFormat : String :=
  "%(asctime)s | %(levelname)-8s | %(thread)d | %(module)s:%(funcName)s:%(lineno)d | %(message)s"

/-- The name of the class of a formatter. -/
def Formatter.name : Formatter → String
  | .text .. => "TextFormatter"
  | .json _ => "JsonFormatter"

/-- A text formatter for a format and a pattern of the time, if they are given. -/
def Formatter.ofFormat (format timePattern : Option String) : Except Failure Formatter :=
  (usedFormat format).map fun f => .text f timePattern

/-- A JSON formatter. It uses no format, but one that is given has to be in order. -/
def Formatter.jsonOfFormat (format timePattern : Option String) : Except Failure Formatter :=
  (usedFormat format).map fun _ => .json timePattern

/-- The pattern of a time, when one is given that is not empty. -/
def usedPattern (pattern : Option String) : Option String := pattern.filter fun p => !p.isEmpty

/-- The text of the moment of a record. -/
def Record.stamp (r : Record) (pattern : Option String) : Except Failure String := do
  r.need ["created"]
  let s ← (CalendarTime.stamp (usedPattern pattern) r.created r.milliseconds).mapError .stamp
  if (usedPattern pattern).isNone then r.need ["msecs"]
  return s

/-- Puts a text on a line of its own. -/
def appendLine (s line : String) : String :=
  if s.toList.getLast? = some '\n' then s ++ line else s ++ "\n" ++ line

/-- The listing of a context: the values that are there, each after its name. -/
def listContext (c : Context) : String :=
  " ".intercalate ((c.filter fun f => f.2.isPresent).map fun f => f.1 ++ "=" ++ f.2.toText)

/-- True when no integer of a context has more digits than are written. -/
def isWritable (c : Context) : Bool := (Value.record c).isWritable

/-- What the text form adds for a context. -/
def contextSuffix : Option Value → Except Failure String
  | none => .ok ""
  | some (.record c) =>
    let listing := listContext c
    if isWritable c then .ok (if listing.isEmpty then "" else " | " ++ listing)
    else .error .unprintableInteger
  | some v => if v.isTruthy then .error (.misuse (.lacksAttribute v.typeName "items")) else .ok ""

/-- The record with its message, and with its time when the format asks for it. -/
def Record.annotate (r : Record) (message : String) (format : String) (pattern : Option String) :
    Except Failure Record :=
  let annotated := r.attach "message" (.text message)
  if usesTime format then
    (r.stamp pattern).map fun s => annotated.attach "asctime" (.text s)
  else .ok annotated

/-- The record with the report of its failure, unless one was made before. -/
def Record.reported (r : Record) : Except Failure Record :=
  if r.exceptionText.isTruthy then .ok r
  else
    r.exception.report?.map fun
      | some report => { r with exceptionText := .text report }
      | none => r

/-- Fills a format with the attributes of a record. -/
def fillFormat (format : String) (r : Record) : Except Failure String :=
  match Template.fill format (.whole (.record r.attributes)) with
  | .ok s => .ok s
  | .error (.unknownKey k) => .error (.unknownAttribute k)
  | .error fault => .error (.template fault)

/-- Adds a report on a line of its own, if there is one. -/
def appendReport (s : String) (report : Value) : Except Failure String :=
  if report.isTruthy then
    match report.asText? with
    | some t => .ok (appendLine s t)
    | none => .error (.misuse (.notAText report.typeName))
  else .ok s

/-- The text form of a record, and the record as formatting leaves it. -/
def formatText (format : String) (pattern : Option String) (r : Record) :
    Except Failure (String × Record) := do
  let message ← r.text
  let r ← r.annotate message format pattern
  let filled ← fillFormat format r
  r.need ["exc_info", "exc_text"]
  let r ← r.reported
  let withFailure ← appendReport filled r.exceptionText
  r.need ["stack_info"]
  let withStack ← appendReport withFailure r.stack
  let suffix ← contextSuffix r.context
  return (withStack ++ suffix, r)

/-- The standard members of the JSON form. -/
def standardMembers (r : Record) (time message : String) : Context :=
  [("timestamp", .text time), ("level", r.levelName), ("name", r.name),
    ("message", .text message), ("module", r.module), ("function", r.function), ("line", r.line),
    ("thread", r.thread)]

/-- The named values of a context. -/
def contextFields : Option Value → Except Failure Context
  | none => .ok []
  | some (.record c) => .ok c
  | some v => .error (.misuse (.hasNoNames v.typeName))

/-- The members of the JSON form: the standard ones, overlaid with the context, and the report of
the failure. -/
def jsonMembers (pattern : Option String) (r : Record) : Except Failure Context := do
  let time ← r.stamp pattern
  r.need ["levelname", "name"]
  let message ← r.text
  r.need ["module", "funcName", "lineno", "thread"]
  let context ← contextFields r.context
  let ms := (standardMembers r time message).overlay context
  r.need ["exc_info"]
  match ← r.exception.report? with
  | some report => return ms.put "exception" (.text report)
  | none => return ms

/-- The JSON form of a record. -/
def formatJson (pattern : Option String) (r : Record) : Except Failure String := do
  let j := Json.ofValue (.record (← jsonMembers pattern r))
  if j.isWritable then return j.render else throw .unprintableInteger

/-- The text of a record, and the record as formatting leaves it. -/
def Formatter.run : Formatter → Record → Except Failure (String × Record)
  | .text format pattern, r => formatText format pattern r
  | .json pattern, r => (formatJson pattern r).map fun s => (s, r)

/-- The text of a record. -/
def Formatter.format (f : Formatter) (r : Record) : Except Failure String :=
  (f.run r).map Prod.fst

end QueueAck.Log
