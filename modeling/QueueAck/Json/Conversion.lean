import QueueAck.Json.Writer
import QueueAck.Log.Context

/-!
# Values and JSON

Every value has a JSON form. A retry mode is written as the text that selects it, and an object of
the caller as its text. In the other direction every JSON text stands for a value. The names of
a record are distinct: of two members with one name the later one counts, at the place of the
earlier.
-/

namespace QueueAck.Json

mutual

/-- The JSON form of a value. -/
def ofValue : Value → Json
  | .null => .null
  | .bool b => .bool b
  | .int i => .int i
  | .double d => .real d
  | .text s => .string s
  | .mode m => .string m.value
  | .list xs => .array (ofValues xs)
  | .record fs => .object (ofFields fs)
  | .object _ t => .string t

/-- The JSON forms of a list of values. -/
def ofValues : List Value → List Json
  | [] => []
  | v :: vs => ofValue v :: ofValues vs

/-- The JSON forms of named values. -/
def ofFields : List (String × Value) → List (String × Json)
  | [] => []
  | (k, v) :: fs => (k, ofValue v) :: ofFields fs

end

mutual

/-- The value that stands for a JSON value. -/
def toValue : Json → Value
  | .null => .null
  | .bool b => .bool b
  | .int i => .int i
  | .real d => .double d
  | .string s => .text s
  | .array xs => .list (toValues xs)
  | .object ms => .record (Context.ofList (toFields ms))

/-- The values of the items of an array. -/
def toValues : List Json → List Value
  | [] => []
  | x :: xs => toValue x :: toValues xs

/-- The values of the members of an object, under their names. -/
def toFields : List (String × Json) → List (String × Value)
  | [] => []
  | (k, x) :: ms => (k, toValue x) :: toFields ms

end

/-- The later of two members with one name counts. -/
example : toValue (.object [("a", .int 1), ("b", .null), ("a", .int 2)]) =
    .record [("a", .int 2), ("b", .null)] := rfl

end QueueAck.Json
