import QueueAck.Template.Basic

/-!
# Reading message templates

`Template.parts` splits a template into its parts. Two percent signs next to each other stand for
one; every other percent sign starts a conversion.
-/

namespace QueueAck.Template

/-- The flag characters. -/
def isFlag (c : Char) : Bool := "-+ #0".toList.contains c

/-- Splits a key from what follows its closing parenthesis; inner parentheses are balanced. -/
def splitKey (depth : Nat) : List Char → Option (List Char × List Char)
  | [] => none
  | ')' :: cs =>
    match depth with
    | 0 => some ([], cs)
    | d + 1 => (splitKey d cs).map fun p => (')' :: p.1, p.2)
  | '(' :: cs => (splitKey (depth + 1) cs).map fun p => ('(' :: p.1, p.2)
  | c :: cs => (splitKey depth cs).map fun p => (c :: p.1, p.2)

/-- Reads a measure and returns what follows it. -/
def readSize : List Char → Size × List Char
  | '*' :: cs => (.argument, cs)
  | cs =>
    let ds := cs.takeWhile Char.isDigit
    if ds.isEmpty then (.absent, cs)
    else (.given (Nat.ofDigitChars 10 ds 0), cs.dropWhile Char.isDigit)

/-- Reads a precision, which follows a point; a point alone stands for zero. -/
def readPrecision : List Char → Size × List Char
  | '.' :: cs =>
    match readSize cs with
    | (.absent, rest) => (.given 0, rest)
    | read => read
  | cs => (.absent, cs)

private def dropSizeLetter : List Char → List Char
  | 'h' :: cs => cs
  | 'l' :: cs => cs
  | 'L' :: cs => cs
  | cs => cs

/-- Reads a conversion after its key and returns what follows it. The position of its letter is
found from the length of the whole template. -/
def readConversion (length : Nat) (key : Option String) (cs : List Char) :
    Conversion × List Char :=
  let flags := cs.takeWhile isFlag
  let (width, afterWidth) := readSize (cs.dropWhile isFlag)
  let (precision, afterPrecision) := readPrecision afterWidth
  match dropSizeLetter afterPrecision with
  | [] => ({ key, flags, width, precision, kind := none, index := length }, [])
  | k :: rest =>
    ({ key, flags, width, precision, kind := some k, index := length - rest.length - 1 }, rest)

/-- The parts of a template of a given length. Every part takes at least one character, so the
length is enough fuel. -/
def readParts (length : Nat) : Nat → List Char → List TemplatePart
  | 0, _ => []
  | _, [] => []
  | fuel + 1, '%' :: '%' :: cs => .literal ['%'] :: readParts length fuel cs
  | fuel + 1, '%' :: '(' :: cs =>
    match splitKey 0 cs with
    | none => [.openKey]
    | some (key, cs) =>
      let (c, rest) := readConversion length (some (String.ofList key)) cs
      .conversion c :: readParts length fuel rest
  | fuel + 1, '%' :: cs =>
    let (c, rest) := readConversion length none cs
    .conversion c :: readParts length fuel rest
  | fuel + 1, cs =>
    .literal (cs.takeWhile (· != '%')) :: readParts length fuel (cs.dropWhile (· != '%'))

/-- The parts of a template. -/
def parts (template : String) : List TemplatePart :=
  let cs := template.toList
  readParts cs.length cs.length cs

end QueueAck.Template
