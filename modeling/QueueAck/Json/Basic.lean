import QueueAck.Number.Double

/-!
# JSON values

JSON with the members of an object in the order in which they are written. Integers are exact;
other numbers are doubles, and the three doubles without a decimal have a name each.
-/

namespace QueueAck

/-- A JSON value. -/
inductive Json where
  /-- The value `null`. -/
  | null
  /-- The value `true` or `false`. -/
  | bool (b : Bool)
  /-- A number without a fraction or an exponent. -/
  | int (i : Int)
  /-- Any other number. -/
  | real (d : Double)
  /-- A string. -/
  | string (s : String)
  /-- A list of values. -/
  | array (xs : List Json)
  /-- Named values in the order in which they are written. -/
  | object (members : List (String × Json))
deriving Repr, Inhabited

namespace Json

/-- The members of an object; no other value has any. -/
def members : Json → List (String × Json)
  | .object ms => ms
  | _ => []

/-- The items of an array; no other value has any. -/
def items : Json → List Json
  | .array xs => xs
  | _ => []

/-- The member of an object with a name. -/
def get? (j : Json) (name : String) : Option Json := j.members.lookup name

/-- The content of a string. -/
def string? : Json → Option String
  | .string s => some s
  | _ => none

/-- The value of an integer. -/
def int? : Json → Option Int
  | .int i => some i
  | _ => none

/-- A value, or `null` for none. -/
def ofOption : Option Json → Json
  | some j => j
  | none => .null

end Json
end QueueAck
