import QueueAck.Failure.Basic
import QueueAck.Text.Case
import QueueAck.Text.Integer

/-!
# Log levels

A level is an integer, and the usual ones have names. `readLevel` reads a level from a text that is
either a number or a name. `enables` says which records a threshold lets through.
-/

namespace QueueAck.Log

/-- The level of a message that is of use only while an error is searched for. -/
def debug : Int := 10

/-- The level of a message about what is done. -/
def info : Int := 20

/-- The level of a message about what may become a problem. -/
def warning : Int := 30

/-- The level of a message about an operation that failed. -/
def error : Int := 40

/-- The level of a message after which little can go on. -/
def critical : Int := 50

/-- The names that select a level, with the level that each selects. -/
def namedLevels : List (String × Int) :=
  [("CRITICAL", critical), ("FATAL", critical), ("ERROR", error), ("WARN", warning),
    ("WARNING", warning), ("INFO", info), ("DEBUG", debug), ("NOTSET", 0)]

/-- The name under which a level is shown. -/
def levelName (level : Int) : String :=
  if level = critical then "CRITICAL"
  else if level = error then "ERROR"
  else if level = warning then "WARNING"
  else if level = info then "INFO"
  else if level = debug then "DEBUG"
  else if level = 0 then "NOTSET"
  else "Level " ++ level.repr

/-- Reads a text that is made of digits as a number, and any other text, in any letter case and with
white space around it, as a name. -/
def readLevel (text : String) : Except Failure Int :=
  if text ≠ "" ∧ text.toList.all Text.isDigit then
    (Text.readInteger text).mapError (.unreadableInteger text)
  else
    match namedLevels.lookup (Text.upper (Text.trim text)) with
    | some level => .ok level
    | none => .error (.unknownLevel text)

/-- The threshold that holds when none is set. -/
def defaultThreshold : Int := warning

/-- The threshold in force: zero stands for the default. -/
def effective (threshold : Int) : Int := if threshold = 0 then defaultThreshold else threshold

/-- True when a record of the level is let through: the level is positive and not below the
threshold in force. -/
def enables (threshold level : Int) : Bool := 0 < level && effective threshold ≤ level

/-- A level is let through exactly when it is positive and reaches the threshold in force. -/
theorem enables_eq_true_iff {threshold level : Int} :
    enables threshold level = true ↔ 0 < level ∧ effective threshold ≤ level := by
  simp [enables]

/-- A higher threshold in force lets through less. -/
theorem enables_of_le {s t level : Int} (h : effective s ≤ effective t)
    (ht : enables t level = true) : enables s level = true := by
  rw [enables_eq_true_iff] at ht ⊢
  exact ⟨ht.1, Int.le_trans h ht.2⟩

end QueueAck.Log
