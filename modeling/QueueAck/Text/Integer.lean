import QueueAck.Text.Classes

/-!
# Integers in text

The written form of an integer: white space, an optional sign, decimal digits of any script with
single underscores between them, white space. At most `digitLimit` digits are read, and a text with
more is refused for that reason before what follows the digits is looked at.
-/

namespace QueueAck.Text

/-- The most digits that are read or written. -/
def digitLimit : Nat := 4300

/-- The reasons why a text is not read as an integer. -/
inductive IntegerFault where
  /-- The text does not have the form of an integer. -/
  | malformed
  /-- The text has more digits than are read. -/
  | tooLong (digits : Nat)
deriving DecidableEq, Repr

/-- True for what a run of digits is made of. -/
def isDigitOrUnderscore (c : Char) : Bool := isDecimalDigit c || c == '_'

/-- The values of a run of digits, when every underscore stands between two digits. -/
def digitValues? : List Char → Option (List Nat)
  | [] => none
  | [c] => (decimalValue? c).map ([·])
  | c :: '_' :: cs => (decimalValue? c).bind fun d => (digitValues? cs).map (d :: ·)
  | c :: cs => (decimalValue? c).bind fun d => (digitValues? cs).map (d :: ·)

/-- The number that decimal digits stand for, the first digit being the highest. -/
def ofDigits (ds : List Nat) : Nat := ds.foldl (fun n d => 10 * n + d) 0

/-- Reads digits, and then white space up to the end. -/
def readUnsigned (cs : List Char) : Except IntegerFault Nat :=
  match digitValues? (cs.takeWhile isDigitOrUnderscore) with
  | none => .error .malformed
  | some ds =>
    if digitLimit < ds.length then .error (.tooLong ds.length)
    else if (cs.dropWhile isDigitOrUnderscore).all isPadding then .ok (ofDigits ds)
    else .error .malformed

/-- Reads an optional sign and an unsigned number. -/
def readSigned : List Char → Except IntegerFault Int
  | '-' :: cs => (readUnsigned cs).map fun n => -(n : Int)
  | '+' :: cs => (readUnsigned cs).map Int.ofNat
  | cs => (readUnsigned cs).map Int.ofNat

/-- Reads an integer with white space around it. -/
def readInteger (s : String) : Except IntegerFault Int :=
  readSigned (s.toList.dropWhile isPadding)

/-- The least number that has more digits than are written. -/
@[irreducible] def writeLimit : Nat := Nat.pow 10 digitLimit

/-- The decimal text of an integer, unless it has more digits than are written. -/
def decimal? (i : Int) : Option String := if i.natAbs < writeLimit then some i.repr else none

/-- Signs, inner underscores and the digits of other scripts are read. -/
example : (readSigned "-1_000 ".toList).toOption = some (-1000) ∧
    (readSigned "٤٢".toList).toOption = some 42 := by
  decide +kernel

/-- An underscore at an end, two together and a detached sign are refused. -/
example : ["_1", "1_", "1__0", "+ 1", ""].all (fun s => (readSigned s.toList).toOption.isNone) := by
  decide +kernel

end QueueAck.Text
