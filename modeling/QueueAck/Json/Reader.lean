import QueueAck.Json.Basic

/-!
# Reading JSON

`parse?` reads a JSON text, with white space between its parts, and refuses all else but the names
of the three doubles that have no decimal. A string may hold any character, but controls only as
escapes; two escaped halves of a surrogate pair are one character, and half a pair is refused.
A number has no zeros in front and digits on both sides of its point. Members of an object keep
their order.
-/

namespace QueueAck.Json

/-- The characters that may stand between the parts of a text. -/
def isSpace (c : Char) : Bool := c == ' ' || c == '\n' || c == '\r' || c == '\t'

/-- What follows the white space at the front. -/
def skipSpace (cs : List Char) : List Char := cs.dropWhile isSpace

/-- The value of a hexadecimal digit in either case. -/
def hexValue? (c : Char) : Option Nat :=
  if '0' ≤ c ∧ c ≤ '9' then some (c.toNat - 48)
  else if 'a' ≤ c ∧ c ≤ 'f' then some (c.toNat - 87)
  else if 'A' ≤ c ∧ c ≤ 'F' then some (c.toNat - 55)
  else none

/-- The UTF-16 unit of four hexadecimal digits. -/
def unit? (a b c d : Char) : Option Nat := do
  let a ← hexValue? a
  let b ← hexValue? b
  let c ← hexValue? c
  let d ← hexValue? d
  return ((a * 16 + b) * 16 + c) * 16 + d

/-- The character of a letter after a backslash. -/
def letterEscape? (c : Char) : Option Char :=
  match c with
  | '"' => some '"'
  | '\\' => some '\\'
  | '/' => some '/'
  | 'b' => some '\x08'
  | 'f' => some '\x0c'
  | 'n' => some '\n'
  | 'r' => some '\r'
  | 't' => some '\t'
  | _ => none

/-- Reads the inside of a string and its closing quote. -/
def readString : List Char → Option (List Char × List Char)
  | [] => none
  | '"' :: cs => some ([], cs)
  | '\\' :: 'u' :: a :: b :: c :: d :: '\\' :: 'u' :: a' :: b' :: c' :: d' :: cs => do
    let high ← unit? a b c d
    if 0xd800 ≤ high ∧ high < 0xdc00 then
      let low ← unit? a' b' c' d'
      if 0xdc00 ≤ low ∧ low < 0xe000 then
        let (r, rest) ← readString cs
        return (Char.ofNat (0x10000 + (high - 0xd800) * 0x400 + (low - 0xdc00)) :: r, rest)
      else none
    else if 0xdc00 ≤ high ∧ high < 0xe000 then none
    else
      let (r, rest) ← readString ('\\' :: 'u' :: a' :: b' :: c' :: d' :: cs)
      return (Char.ofNat high :: r, rest)
  | '\\' :: 'u' :: a :: b :: c :: d :: cs => do
    let n ← unit? a b c d
    if 0xd800 ≤ n ∧ n < 0xe000 then none
    else
      let (r, rest) ← readString cs
      return (Char.ofNat n :: r, rest)
  | '\\' :: c :: cs => do
    let e ← letterEscape? c
    let (r, rest) ← readString cs
    return (e :: r, rest)
  | c :: cs =>
    if c < ' ' then none
    else do
      let (r, rest) ← readString cs
      return (c :: r, rest)
termination_by cs => cs.length

/-- The characters that a number is made of. -/
def isNumberChar (c : Char) : Bool :=
  c.isDigit || c == '-' || c == '+' || c == '.' || c == 'e' || c == 'E'

/-- True for digits as they stand in front of a point: a zero in front stands alone. -/
def isWhole : List Char → Bool
  | [] => false
  | ['0'] => true
  | d :: ds => d != '0' && (d :: ds).all Char.isDigit

/-- True for a power of ten behind a number, and for none. -/
def isPower : List Char → Bool
  | [] => true
  | e :: '-' :: ds | e :: '+' :: ds | e :: ds =>
    (e == 'e' || e == 'E') && !ds.isEmpty && ds.all Char.isDigit

/-- True for a number without its sign: digits, a fraction or none, and a power of ten or none. -/
def isDecimal (cs : List Char) : Bool :=
  isWhole (cs.takeWhile Char.isDigit) &&
    match cs.dropWhile Char.isDigit with
    | '.' :: ds => (ds.head?.any Char.isDigit) && isPower (ds.dropWhile Char.isDigit)
    | ds => isPower ds

/-- The integer that a sign and digits stand for. -/
def integer? (cs : List Char) : Option Int :=
  match cs with
  | '-' :: ds => if isWhole ds then some (-(Nat.ofDigitChars 10 ds 0 : Int)) else none
  | ds => if isWhole ds then some (Nat.ofDigitChars 10 ds 0 : Int) else none

/-- The double that a number without its sign stands for. -/
def real? (negative : Bool) (cs : List Char) : Option Double :=
  if isDecimal cs then Double.readDecimal negative cs else none

/-- The number that a run of number characters stands for. -/
def number? (cs : List Char) : Option Json :=
  match integer? cs with
  | some i => some (.int i)
  | none =>
    match cs with
    | '-' :: ds => (real? true ds).map .real
    | ds => (real? false ds).map .real

/-- Reads a name or a number. -/
def readScalar : List Char → Option (Json × List Char)
  | 'n' :: 'u' :: 'l' :: 'l' :: cs => some (.null, cs)
  | 't' :: 'r' :: 'u' :: 'e' :: cs => some (.bool true, cs)
  | 'f' :: 'a' :: 'l' :: 's' :: 'e' :: cs => some (.bool false, cs)
  | 'N' :: 'a' :: 'N' :: cs => some (.real .nan, cs)
  | 'I' :: 'n' :: 'f' :: 'i' :: 'n' :: 'i' :: 't' :: 'y' :: cs => some (.real (.infinite false), cs)
  | '-' :: 'I' :: 'n' :: 'f' :: 'i' :: 'n' :: 'i' :: 't' :: 'y' :: cs =>
    some (.real (.infinite true), cs)
  | cs => (number? (cs.takeWhile isNumberChar)).map fun j => (j, cs.dropWhile isNumberChar)

mutual

/-- Reads a value and returns what follows it. Every value takes at least one character, so the
length of the text is enough fuel. -/
def readValue : Nat → List Char → Option (Json × List Char)
  | 0, _ => none
  | fuel + 1, cs =>
    match skipSpace cs with
    | '"' :: cs => (readString cs).map fun p => (.string (String.ofList p.1), p.2)
    | '[' :: cs =>
      match skipSpace cs with
      | ']' :: cs => some (.array [], cs)
      | cs => do
        let (x, cs) ← readValue fuel cs
        let (xs, cs) ← readItems fuel cs
        return (.array (x :: xs), cs)
    | '{' :: cs =>
      match skipSpace cs with
      | '}' :: cs => some (.object [], cs)
      | cs => do
        let (m, cs) ← readMember fuel cs
        let (ms, cs) ← readMembers fuel cs
        return (.object (m :: ms), cs)
    | cs => readScalar cs

/-- Reads further items of an array and its closing bracket. -/
def readItems : Nat → List Char → Option (List Json × List Char)
  | 0, _ => none
  | fuel + 1, cs =>
    match skipSpace cs with
    | ']' :: cs => some ([], cs)
    | ',' :: cs => do
      let (x, cs) ← readValue fuel cs
      let (xs, cs) ← readItems fuel cs
      return (x :: xs, cs)
    | _ => none

/-- Reads one member of an object. -/
def readMember : Nat → List Char → Option ((String × Json) × List Char)
  | 0, _ => none
  | fuel + 1, cs =>
    match skipSpace cs with
    | '"' :: cs => do
      let (k, cs) ← readString cs
      match skipSpace cs with
      | ':' :: cs =>
        let (v, cs) ← readValue fuel cs
        return ((String.ofList k, v), cs)
      | _ => none
    | _ => none

/-- Reads further members of an object and its closing brace. -/
def readMembers : Nat → List Char → Option (List (String × Json) × List Char)
  | 0, _ => none
  | fuel + 1, cs =>
    match skipSpace cs with
    | '}' :: cs => some ([], cs)
    | ',' :: cs => do
      let (m, cs) ← readMember fuel cs
      let (ms, cs) ← readMembers fuel cs
      return (m :: ms, cs)
    | _ => none

end

/-- Reads a text that holds one value and nothing else. -/
def parse? (s : String) : Option Json := do
  let cs := s.toList
  let (j, rest) ← readValue (2 * cs.length + 2) cs
  if skipSpace rest = [] then some j else none

/-- Zeros in front, a point without digits on both sides and raw controls are refused. -/
example : ["01", "-00", "1.", ".5", "1.e3", "1e", "+1", "\"\t\""].all
    (fun s => (parse? s).isNone) := by
  decide +kernel

end QueueAck.Json
