import QueueAck.Value

/-!
# Message templates

A template is a text with conversions, each a percent sign, an optional key in parentheses, flags,
a width, a precision and a letter. A width or a precision is written out or taken from the
arguments. This module holds the parts of a template, the arguments that fill it, and the reasons
why it cannot be filled.
-/

namespace QueueAck

/-- The two measures of a conversion. -/
inductive Measure where
  /-- The least number of characters. -/
  | width
  /-- The most characters of a text, the least digits of an integer, the places of a number. -/
  | precision
deriving DecidableEq, Repr

/-- The largest number that is accepted for a measure. -/
def Measure.largest : Measure → Nat
  | .width => 9223372036854775807
  | .precision => 2147483647

/-- The reasons why a template cannot be filled. -/
inductive TemplateFault where
  /-- The template ends inside a conversion. -/
  | incomplete
  /-- The template ends inside a key. -/
  | incompleteKey
  /-- The letter of a conversion is not known. -/
  | unsupported (kind : Char) (index : Nat)
  /-- There are more conversions than arguments. -/
  | tooFewArguments
  /-- There are more arguments than conversions. -/
  | tooManyArguments
  /-- A key is used and the arguments have no names. -/
  | keyWithoutNames
  /-- A key is used on a list. -/
  | keyOfList
  /-- No argument has the name that a key asks for. -/
  | unknownKey (key : String)
  /-- A measure that is written out is too large. -/
  | tooBig (measure : Measure)
  /-- An argument that stands for a measure is no integer. -/
  | measureNotInteger
  /-- An argument that stands for a measure is too large. -/
  | measureOutOfRange (measure : Measure)
  /-- An integer is asked for with more digits than can be counted. -/
  | tooManyDigits
  /-- An integer has more digits than are written. -/
  | unprintableInteger
  /-- The result would not fit into memory. -/
  | outOfMemory
  /-- An integer is asked for and the argument has none. -/
  | notANumber (kind : Char) (typeName : String)
  /-- A number is asked for and the argument is none. -/
  | notReal (typeName : String)
  /-- A number is asked for and the argument is too large for one. -/
  | tooLarge
  /-- An integer is asked for and the argument is not a number at all, or infinite. -/
  | notFinite (isNan : Bool)
  /-- A character is asked for and the argument is none. -/
  | notACharacter
  /-- A character is asked for and the argument is not the number of one. -/
  | noSuchCharacter
deriving DecidableEq, Repr

/-- A measure of a conversion. -/
inductive Size where
  /-- No measure is given. -/
  | absent
  /-- The measure is written out. -/
  | given (n : Nat)
  /-- The measure is the next argument. -/
  | argument
deriving DecidableEq, Repr

/-- A place of a template that an argument fills. -/
structure Conversion where
  /-- The name of the argument, when it is taken by name. -/
  key : Option String
  /-- The flag characters. -/
  flags : List Char
  /-- The least number of characters. -/
  width : Size
  /-- The precision. -/
  precision : Size
  /-- The letter that says how the argument is shown; there is none at the end of a template. -/
  kind : Option Char
  /-- The position of the letter in the template. -/
  index : Nat
deriving DecidableEq, Repr

/-- A part of a template. -/
inductive TemplatePart where
  /-- Characters that stand for themselves. -/
  | literal (cs : List Char)
  /-- A place for an argument. -/
  | conversion (c : Conversion)
  /-- A key that is not closed. -/
  | openKey
deriving DecidableEq, Repr

namespace Template

/-- The arguments of a template: values in order, or one value that may give arguments by name. -/
inductive Arguments where
  /-- Arguments that are taken in order, each once. -/
  | inOrder (values : List Value)
  /-- One argument; the values of a record are taken by their names as well. -/
  | whole (value : Value)
deriving Repr

namespace Arguments

/-- A single record that is not empty gives arguments by name. -/
def ofList : List Value → Arguments
  | [.record (f :: fs)] => .whole (.record (f :: fs))
  | vs => .inOrder vs

/-- True when keys may be used. -/
def areNamed : Arguments → Bool
  | .whole (.record _) => true
  | .whole (.list _) => true
  | _ => false

/-- The argument with a name. -/
def get (key : String) : Arguments → Except TemplateFault Value
  | .whole (.record fs) =>
    match fs.lookup key with
    | some v => .ok v
    | none => .error (.unknownKey key)
  | .whole (.list _) => .error .keyOfList
  | _ => .error .keyWithoutNames

/-- The arguments that conversions without a key take. -/
def queue : Arguments → List Value
  | .inOrder vs => vs
  | .whole v => [v]

end Arguments
end Template
end QueueAck
