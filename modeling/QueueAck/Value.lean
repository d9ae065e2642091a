import QueueAck.Number.Double
import QueueAck.Retry
import QueueAck.Text.Integer
import QueueAck.Text.Quoted

/-!
# Values

The values that log contexts, log messages and backend responses carry. A value has a plain text,
used where it stands alone in a message, and a literal, used where it stands inside another value.
Neither is written when an integer in the value has too many digits (`Value.isWritable`).
-/

namespace QueueAck

/-- A value of a log context, a log message or a backend response. -/
inductive Value where
  /-- The absent value. -/
  | null
  /-- A truth value. -/
  | bool (b : Bool)
  /-- An integer of any size. -/
  | int (i : Int)
  /-- A floating point number. -/
  | double (d : Double)
  /-- A text. -/
  | text (s : String)
  /-- A retry mode. -/
  | mode (m : RetryMode)
  /-- A list of values. -/
  | list (xs : List Value)
  /-- Named values in a fixed order. -/
  | record (fields : List (String × Value))
  /-- An object of the caller, known by the name of its type and by its text alone. -/
  | object (typeName text : String)
deriving Repr, Inhabited

namespace Value

/-- True for every value but the absent one. -/
def isPresent : Value → Bool
  | .null => false
  | _ => true

/-- The name of the type of a value, as error messages give it. -/
def typeName : Value → String
  | .null => "NoneType"
  | .bool _ => "bool"
  | .int _ => "int"
  | .double _ => "float"
  | .text _ => "str"
  | .mode _ => "RetryMode"
  | .list _ => "list"
  | .record _ => "dict"
  | .object name _ => name

/-- True for the values that count as given: not absent, not false, not zero and not empty. -/
def isTruthy : Value → Bool
  | .null => false
  | .bool b => b
  | .int i => i != 0
  | .double (.finite _ m _) => m != 0
  | .double _ => true
  | .text s => !s.isEmpty
  | .mode _ => true
  | .list xs => !xs.isEmpty
  | .record fs => !fs.isEmpty
  | .object .. => true

/-- The field of a record with a name; no other value has fields. -/
def field? (v : Value) (name : String) : Option Value :=
  match v with
  | .record fs => fs.lookup name
  | _ => none

/-- The name of a truth value. -/
def boolText (b : Bool) : String := if b then "True" else "False"

mutual

/-- The literal that shows a value inside another one. -/
def literal : Value → String
  | .null => "None"
  | .bool b => boolText b
  | .int i => i.repr
  | .double d => d.text
  | .text s => Text.quote s
  | .mode m => "<RetryMode." ++ m.name ++ ": " ++ Text.quote m.value ++ ">"
  | .list xs => "[" ++ ", ".intercalate (literals xs) ++ "]"
  | .record fs => "\x7b" ++ ", ".intercalate (fieldLiterals fs) ++ "\x7d"
  | .object _ t => t

/-- The literals of a list of values. -/
def literals : List Value → List String
  | [] => []
  | v :: vs => literal v :: literals vs

/-- The literals of named values, each after its quoted name. -/
def fieldLiterals : List (String × Value) → List String
  | [] => []
  | (k, v) :: fs => (Text.quote k ++ ": " ++ literal v) :: fieldLiterals fs

end

/-- The text of a value that stands alone. -/
def toText : Value → String
  | .text s => s
  | .mode m => "RetryMode." ++ m.name
  | v => v.literal

mutual

/-- True when no integer in a value has more digits than are written. -/
def isWritable : Value → Bool
  | .int i => i.natAbs < Text.writeLimit
  | .list xs => areWritable xs
  | .record fs => fieldsAreWritable fs
  | _ => true

/-- True when all values are writable. -/
def areWritable : List Value → Bool
  | [] => true
  | v :: vs => v.isWritable && areWritable vs

/-- True when all named values are writable. -/
def fieldsAreWritable : List (String × Value) → Bool
  | [] => true
  | (_, v) :: fs => v.isWritable && fieldsAreWritable fs

end

/-- The text of a value that may be used where a text is required. -/
def asText? : Value → Option String
  | .text s => some s
  | .mode m => some m.value
  | _ => none

end Value

/-- A text shows as itself. -/
theorem Value.toText_text (s : String) : (Value.text s).toText = s := rfl

end QueueAck
