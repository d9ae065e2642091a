import QueueAck.Failure.Plain
import QueueAck.Text.Search
import QueueAck.Value

/-!
# Values that lack what is asked of them

A value that comes from outside may be used in a way that its type does not allow: a part is asked
of a number, a name of a list. Each such use is a cause of failure with a text of its own.
-/

namespace QueueAck

/-- The ways in which a value lacks what is asked of it. -/
inductive Misuse where
  /-- The value has no attribute of the name. -/
  | lacksAttribute (typeName name : String)
  /-- The value has no items. -/
  | hasNoItems (typeName : String)
  /-- The value is asked for something that it holds, and can hold nothing. -/
  | holdsNothing (typeName : String)
  /-- The value has no parts. -/
  | hasNoParts (typeName : String)
  /-- The value has no named values. -/
  | hasNoNames (typeName : String)
  /-- A part of a text is asked for by name. -/
  | nameInText
  /-- A part of a list is asked for by name. -/
  | nameInList
  /-- A record has no field of the name. -/
  | missingField (name : String)
  /-- A record has no field of the number. -/
  | missingNumber (n : Nat)
  /-- A list ends before the part that is asked for. -/
  | endOfList
  /-- A text ends before the part that is asked for. -/
  | endOfText
  /-- The value is put behind a text and is none. -/
  | notAText (typeName : String)
  /-- The value is looked up in a table and cannot be a key of one. -/
  | notAKey (typeName : String)
  /-- The value stands where a function is called. -/
  | notCallable (typeName : String)
  /-- The value stands where the class of an object belongs. -/
  | notAClass (typeName : String)
  /-- The value stands where the attributes of an object belong. -/
  | notAttributes (typeName : String)
  /-- An attribute of a record is fixed. -/
  | fixedAttribute (name : String)
  /-- The value is read as a double and is neither a number nor a text. -/
  | notANumber (typeName : String)
  /-- A text is read as a double and holds none. -/
  | unreadableDouble (text : String)
  /-- An integer is larger than all doubles. -/
  | beyondDoubles
deriving DecidableEq, Repr

namespace Misuse

/-- The kind of failure. -/
def kind : Misuse → PlainKind
  | .lacksAttribute .. | .fixedAttribute _ => .missingAttribute
  | .missingField _ | .missingNumber _ => .key
  | .endOfList | .endOfText => .index
  | .hasNoItems _ | .holdsNothing _ | .hasNoParts _ | .hasNoNames _ | .nameInText | .nameInList
  | .notAText _ | .notAKey _ | .notCallable _ | .notAClass _ | .notAttributes _
  | .notANumber _ => .type
  | .unreadableDouble _ => .value
  | .beyondDoubles => .overflow

/-- The text of the failure. -/
def message : Misuse → String
  | .lacksAttribute typeName name =>
    "'" ++ typeName ++ "' object has no attribute '" ++ name ++ "'"
  | .hasNoItems typeName => "'" ++ typeName ++ "' object is not iterable"
  | .holdsNothing typeName => "argument of type '" ++ typeName ++ "' is not iterable"
  | .hasNoParts typeName => "'" ++ typeName ++ "' object is not subscriptable"
  | .hasNoNames typeName => "'" ++ typeName ++ "' object is not a mapping"
  | .nameInText => "string indices must be integers, not 'str'"
  | .nameInList => "list indices must be integers or slices, not str"
  | .missingField name => Text.quote name
  | .missingNumber n => n.repr
  | .endOfList => "list index out of range"
  | .endOfText => "string index out of range"
  | .notAText typeName => "can only concatenate str (not \"" ++ typeName ++ "\") to str"
  | .notAKey typeName => "unhashable type: '" ++ typeName ++ "'"
  | .notCallable typeName => "'" ++ typeName ++ "' object is not callable"
  | .notAClass typeName => "__class__ must be set to a class, not '" ++ typeName ++ "' object"
  | .notAttributes typeName =>
    "__dict__ must be set to a dictionary, not a '" ++ typeName ++ "'"
  | .fixedAttribute name => "attribute '" ++ name ++ "' of 'LogRecord' objects is not writable"
  | .notANumber typeName =>
    "float() argument must be a string or a real number, not '" ++ typeName ++ "'"
  | .unreadableDouble text => "could not convert string to float: " ++ Text.quote text
  | .beyondDoubles => "int too large to convert to float"

end Misuse

namespace Value

/-- A named part of a value that is asked for as such. -/
def part (v : Value) (name : String) : Except Misuse Value :=
  match v with
  | .record fs =>
    match fs.lookup name with
    | some v => .ok v
    | none => .error (.missingField name)
  | .text _ => .error .nameInText
  | .mode _ => .error .nameInText
  | .list _ => .error .nameInList
  | v => .error (.hasNoParts v.typeName)

/-- A numbered part of a value, counted from zero. -/
def partAt (v : Value) (n : Nat) : Except Misuse Value :=
  let letter (s : String) : Except Misuse Value :=
    match s.toList[n]? with
    | some c => .ok (.text c.toString)
    | none => .error .endOfText
  match v with
  | .record _ => .error (.missingNumber n)
  | .text s => letter s
  | .mode m => letter m.value
  | .list xs =>
    match xs[n]? with
    | some v => .ok v
    | none => .error .endOfList
  | v => .error (.hasNoParts v.typeName)

/-- The value of a name in a value that is read as a record; a name that is not there has none. -/
def fieldOf (v : Value) (name : String) : Except Misuse (Option Value) :=
  match v with
  | .record fs => .ok (fs.lookup name)
  | v => .error (.lacksAttribute v.typeName "get")

/-- True when a name is found in a value: among the names of a record, among the items of a list,
or within a text. -/
def holds (v : Value) (name : String) : Except Misuse Bool :=
  match v with
  | .record fs => .ok (fs.lookup name).isSome
  | .list xs => .ok (xs.any fun x => x.asText? == some name)
  | .text s => .ok (Text.occursIn name s)
  | .mode m => .ok (Text.occursIn name m.value)
  | v => .error (.holdsNothing v.typeName)

end Value
end QueueAck
