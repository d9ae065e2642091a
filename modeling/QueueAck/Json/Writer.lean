import QueueAck.Json.Basic
import QueueAck.Text.Integer

/-!
# Writing JSON

The compact form of a JSON value, in printable ASCII only. A character of a string outside that
range is escaped: line ends, tabs, backspaces and form feeds by their letters, all else by its
UTF-16 units, four lower case hexadecimal digits each. An integer with more digits than are written
has no such form (`isWritable`).
-/

namespace QueueAck.Json

/-- The lower case hexadecimal digit of a value below sixteen. -/
def hexDigit (n : Nat) : Char := if n < 10 then Char.ofNat (48 + n) else Char.ofNat (87 + n)

/-- The escape of one UTF-16 unit. -/
def unitEscape (n : Nat) : List Char :=
  ['\\', 'u', hexDigit (n / 4096 % 16), hexDigit (n / 256 % 16), hexDigit (n / 16 % 16),
    hexDigit (n % 16)]

/-- The way a character stands inside a string. -/
def escapeChar (c : Char) : List Char :=
  if c = '"' then ['\\', '"']
  else if c = '\\' then ['\\', '\\']
  else if c = '\n' then ['\\', 'n']
  else if c = '\r' then ['\\', 'r']
  else if c = '\t' then ['\\', 't']
  else if c = '\x08' then ['\\', 'b']
  else if c = '\x0c' then ['\\', 'f']
  else if ' ' ≤ c ∧ c ≤ '~' then [c]
  else if c.toNat < 0x10000 then unitEscape c.toNat
  else
    let v := c.toNat - 0x10000
    unitEscape (0xd800 + v / 0x400) ++ unitEscape (0xdc00 + v % 0x400)

/-- A string between its quotes. -/
def writeString (s : String) : List Char := '"' :: s.toList.flatMap escapeChar ++ ['"']

/-- A double; the three that have no decimal have a name. -/
def writeReal (d : Double) : List Char :=
  match d with
  | .nan => "NaN".toList
  | .infinite false => "Infinity".toList
  | .infinite true => "-Infinity".toList
  | .finite n m e => (Double.finite n m e).text.toList

mutual

/-- The compact form of a value. -/
def write : Json → List Char
  | .null => ['n', 'u', 'l', 'l']
  | .bool true => ['t', 'r', 'u', 'e']
  | .bool false => ['f', 'a', 'l', 's', 'e']
  | .int i => i.repr.toList
  | .real d => writeReal d
  | .string s => writeString s
  | .array [] => ['[', ']']
  | .array (x :: xs) => '[' :: write x ++ writeItems xs ++ [']']
  | .object [] => ['{', '}']
  | .object ((k, v) :: ms) => '{' :: writeString k ++ ':' :: write v ++ writeMembers ms ++ ['}']

/-- Further items of an array, each after a comma. -/
def writeItems : List Json → List Char
  | [] => []
  | x :: xs => ',' :: write x ++ writeItems xs

/-- Further members of an object, each after a comma. -/
def writeMembers : List (String × Json) → List Char
  | [] => []
  | (k, v) :: ms => ',' :: writeString k ++ ':' :: write v ++ writeMembers ms

end

mutual

/-- True when no integer of the value has more digits than are written. -/
def isWritable : Json → Bool
  | .null | .bool _ | .real _ | .string _ => true
  | .int i => i.natAbs < Text.writeLimit
  | .array xs => areWritable xs
  | .object ms => membersAreWritable ms

/-- True when all items are writable. -/
def areWritable : List Json → Bool
  | [] => true
  | x :: xs => x.isWritable && areWritable xs

/-- True when all members are writable. -/
def membersAreWritable : List (String × Json) → Bool
  | [] => true
  | (_, x) :: ms => x.isWritable && membersAreWritable ms

end

/-- The compact text of a value. -/
def render (j : Json) : String := String.ofList j.write

end QueueAck.Json
