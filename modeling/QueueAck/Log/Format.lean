import QueueAck.Failure.Basic
import QueueAck.Text.Classes
import QueueAck.Text.Search
import QueueAck.Text.Word

/-!
# Formats of log records

A format is a template whose arguments are the attributes of a record. It has to ask for some
attribute by name, in a conversion that is complete; this is checked when a formatter is made.
-/

namespace QueueAck.Log

/-- The format that is used when none is given. -/
def bareFormat : String := "%(message)s"

/-- True for a letter that may end a conversion. The case of letters does not matter, and the two
forms of `i` with and without a dot and the long `s` count as the letters that they belong to. -/
def endsConversion (c : Char) : Bool :=
  "diouxefgcrsa%".toList.contains c.toLower || c == 'İ' || c == 'ı' || c == 'ſ'

/-- What follows a measure at the start of a text: an asterisk or digits; there may be none. -/
def afterMeasure : List Char → List Char
  | '*' :: cs => cs
  | cs => cs.dropWhile Text.isDecimalDigit

/-- What follows a precision at the start of a text: a point with a measure; there may be none. -/
def afterPrecision (cs : List Char) : List Char :=
  match cs with
  | '.' :: rest =>
    let after := afterMeasure rest
    if after.length < rest.length then after else cs
  | _ => cs

/-- True when a text starts with a conversion that takes an attribute by its name. -/
def startsWithField : List Char → Bool
  | '%' :: '(' :: cs =>
    match cs.span Text.isWord with
    | (_ :: _, ')' :: rest) =>
      let flagged := rest.dropWhile Template.isFlag
      match afterPrecision (afterMeasure flagged) with
      | kind :: _ => endsConversion kind
      | [] => false
    | _ => false
  | _ => false

/-- True when a format asks for some attribute. -/
def hasField (format : String) : Bool := Text.anySuffix startsWithField format.toList

/-- True when a format asks for the time. -/
def usesTime (format : String) : Bool := Text.occursIn "%(asctime)" format

/-- The format of a formatter. An empty one stands for the bare message. -/
def usedFormat (format : Option String) : Except Failure String :=
  let f := match format with
    | some f => if f.isEmpty then bareFormat else f
    | none => bareFormat
  if hasField f then .ok f else .error (.formatWithoutFields f)

/-- The bare message and a format with a width ask for attributes. -/
example : ["%(message)s", "[%(levelname)-8s]", "%%(a)5.2f"].all hasField = true := by
  decide +kernel

/-- A plain text, a conversion without a name and one without an end ask for none. -/
example : ["plain", "100%", "%s", "%(message)", "%(a b)s", "%(a).s"].any hasField = false := by
  decide +kernel

end QueueAck.Log
