import QueueAck.Failure.Misuse
import QueueAck.Number.Double
import QueueAck.Text.Classes
import QueueAck.Value

/-!
# Values as doubles

The double that a value stands for. A number stands for the double nearest to it and a text for the
number written in it: white space, a decimal with the digits of any script and single underscores
between them, white space.
-/

namespace QueueAck

namespace Double

/-- A character as it is read in a number: a digit of any script counts as the ASCII digit of its
value. -/
def asciiDigit (c : Char) : Char :=
  match Text.decimalValue? c with
  | some d => Char.ofNat (48 + d)
  | none => c

/-- A text without the underscores that stand between two digits. -/
def joinGroups : List Char → List Char
  | c :: '_' :: d :: cs =>
    if c.isDigit && d.isDigit then c :: joinGroups (d :: cs) else c :: '_' :: joinGroups (d :: cs)
  | c :: cs => c :: joinGroups cs
  | [] => []

/-- Reads a number with white space around it. -/
def read? (s : String) : Option Double :=
  let inner := ((s.toList.dropWhile Text.isPadding).reverse.dropWhile Text.isPadding).reverse
  ofString? (String.ofList (joinGroups (inner.map asciiDigit)))

end Double

/-- The double that a value stands for. -/
def Value.toDouble : Value → Except Misuse Double
  | .double d => .ok d
  | .int i =>
    match Double.ofInt? i with
    | some d => .ok d
    | none => .error .beyondDoubles
  | .bool b => .ok (Double.ofFraction false (if b then 1 else 0) 1)
  | v =>
    match v.asText? with
    | some s =>
      match Double.read? s with
      | some d => .ok d
      | none => .error (.unreadableDouble s)
    | none => .error (.notANumber v.typeName)

/-- Beyond 53 binary digits an integer is rounded, an exact half to the even neighbour. -/
example : (Value.toDouble (.int 9007199254740993)).toOption =
    some (.finite false (Nat.pow 2 52) 1) := by decide +kernel

/-- Underscores between digits are skipped. -/
example : Double.read? " 1_0.5 " = Double.ofString? "10.5" := by decide +kernel

/-- An underscore at an end is refused. -/
example : Double.read? "1_" = none := by decide +kernel

end QueueAck
