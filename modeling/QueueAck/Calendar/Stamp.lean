import QueueAck.Calendar.Pattern
import QueueAck.Template.Fill

/-!
# Time stamps

The text of a moment. The moment is any number of seconds that the calendar reaches; what lies
behind the point is dropped, also before 1970. A stamp without a pattern has its milliseconds after
a comma.
-/

namespace QueueAck

/-- The reasons why a moment has no text. -/
inductive StampFault where
  /-- The moment is a double that is no number. -/
  | notANumber
  /-- The moment is beyond all times. -/
  | beyondTime
  /-- The moment is beyond the calendar. -/
  | beyondCalendar
  /-- The year of the moment is too large. -/
  | largeYear
  /-- The moment is no number at all. -/
  | notAMoment (typeName : String)
  /-- The pattern holds the null character. -/
  | nullCharacter
  /-- The milliseconds cannot be shown. -/
  | milliseconds (fault : TemplateFault)
deriving DecidableEq, Repr

namespace CalendarTime

/-- The bound of all times, in seconds. Integers below it and not below its negative are times, and
a double may equal it. -/
def timeBound : Int := 9223372036854775808

/-- The first second of the calendar. -/
def firstSecond : Int := -67768040609740800

/-- The last second of the calendar. -/
def lastSecond : Int := 67768036191676799

/-- The largest year that has a text. -/
def lastYear : Int := 2147483647

/-- The whole seconds of a moment; an absent one counts as the start of 1970. -/
def secondsOf (v : Value) : Except StampFault Int :=
  let bounded (i : Int) : Except StampFault Int :=
    if -timeBound ≤ i ∧ i < timeBound then .ok i else .error .beyondTime
  match v with
  | .null => .ok 0
  | .int i => bounded i
  | .bool b => .ok (if b then 1 else 0)
  | .double .nan => .error .notANumber
  | .double (.infinite _) => .error .beyondTime
  | .double (.finite n m e) =>
    let i := Double.floor n m e
    if i = timeBound then .ok i else bounded i
  | v => .error (.notAMoment v.typeName)

/-- The calendar time of a moment. -/
def ofMoment (v : Value) : Except StampFault CalendarTime := do
  let t ← secondsOf v
  if firstSecond ≤ t ∧ t ≤ lastSecond then return ofSeconds t else .error .beyondCalendar

/-- The text of a time under a pattern. -/
def textUnder (t : CalendarTime) (pattern : String) : Except StampFault String :=
  if lastYear < t.year then .error .largeYear
  else if pattern.toList.contains '\x00' then .error .nullCharacter
  else .ok (t.format pattern)

/-- The text of a moment, with its milliseconds after a comma when there is no pattern. -/
def stamp (pattern : Option String) (moment milliseconds : Value) : Except StampFault String := do
  let t ← ofMoment moment
  match pattern with
  | some p => t.textUnder p
  | none =>
    let s ← t.textUnder "%Y-%m-%d %H:%M:%S"
    (Template.fill "%s,%03d" (.inOrder [.text s, milliseconds])).mapError .milliseconds

end CalendarTime

/-- The bound itself is a time as a double, beyond the calendar, and none as an integer. -/
example : (CalendarTime.secondsOf (.double (.finite false 1 63))).toOption =
      some CalendarTime.timeBound ∧
    (CalendarTime.secondsOf (.int CalendarTime.timeBound)).toOption = none := by decide +kernel

/-- What lies behind the point is dropped, before 1970 as well. -/
example : (CalendarTime.stamp none (.double (.finite true 3 (-1))) (.int 7)).toOption =
    some "1969-12-31 23:59:58,007" := by decide +kernel

end QueueAck
