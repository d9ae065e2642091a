import QueueAck.Number.Decimal
import QueueAck.Template.Basic

/-!
# Showing arguments of a template

How a value is shown under the letter of a conversion: as a text, as an integer in one of three
bases, as a decimal, or as one character. The layout says how many characters there are and on which
side the free ones are filled.
-/

namespace QueueAck.Template

/-- A conversion whose measures are known. -/
structure Layout where
  /-- The flag characters. -/
  flags : List Char
  /-- The least number of characters. -/
  width : Nat
  /-- The precision, when there is one. -/
  precision : Option Nat
  /-- The letter that says how the argument is shown. -/
  kind : Char
  /-- The position of the letter in the template. -/
  index : Nat
deriving DecidableEq, Repr

namespace Layout

/-- True when a flag is set. -/
def has (l : Layout) (flag : Char) : Bool := l.flags.contains flag

/-- The most characters for which memory is taken to be enough. -/
def room : Nat := 1000000000

/-- Fills a text up to the width, on the side that the flags ask for. -/
def pad (l : Layout) (cs : List Char) : Except TemplateFault (List Char) :=
  if room < l.width then .error .outOfMemory
  else
    let fill := List.replicate (l.width - cs.length) ' '
    .ok (if l.has '-' then cs ++ fill else fill ++ cs)

/-- Shows the text of a value, cut to the precision and filled up to the width. -/
def showText (l : Layout) (v : Value) (cs : List Char) : Except TemplateFault (List Char) :=
  if v.isWritable then
    l.pad (match l.precision with
      | none => cs
      | some n => cs.take n)
  else .error .unprintableInteger

/-- Shows a sign, a marker and digits, with zeros before the digits when they are asked for. -/
def showSigned (l : Layout) (negative : Bool) (marker digits : List Char) :
    Except TemplateFault (List Char) :=
  let sign :=
    if negative then ['-']
    else if l.has '+' then ['+']
    else if l.has ' ' then [' ']
    else []
  let head := sign ++ marker
  if room < l.width then .error .outOfMemory
  else if l.has '0' && !l.has '-' then
    .ok (head ++ List.replicate (l.width - (head.length + digits.length)) '0' ++ digits)
  else l.pad (head ++ digits)

/-- The digits of an integer in the base of the letter, and the marker of the base. -/
def integerDigits (l : Layout) (n : Nat) : List Char × List Char :=
  match l.kind with
  | 'x' => (['0', 'x'], Nat.toDigits 16 n)
  | 'X' => (['0', 'X'], (Nat.toDigits 16 n).map Char.toUpper)
  | 'o' => (['0', 'o'], Nat.toDigits 8 n)
  | _ => ([], Nat.toDigits 10 n)

/-- The most digits of an integer that can be asked for. -/
def mostDigits : Nat := Measure.precision.largest - 3

/-- True for the letters that ask for decimal digits. -/
def asksForDecimal (l : Layout) : Bool := l.kind == 'd' || l.kind == 'i' || l.kind == 'u'

/-- Shows an integer in decimal, octal or hexadecimal digits. The number of decimal digits is
limited. -/
def showInteger (l : Layout) (i : Int) : Except TemplateFault (List Char) :=
  let least := l.precision.getD 0
  if mostDigits < least then .error .tooManyDigits
  else if l.asksForDecimal && !(Value.int i).isWritable then .error .unprintableInteger
  else if room < least then .error .outOfMemory
  else
    let (marker, ds) := l.integerDigits i.natAbs
    l.showSigned (i < 0) (if l.has '#' then marker else [])
      (List.replicate (least - ds.length) '0' ++ ds)

/-- Shows a number as an integer; a fraction is cut off where decimal digits are asked for. -/
def showWhole (l : Layout) (v : Value) : Except TemplateFault (List Char) :=
  match v with
  | .int i => l.showInteger i
  | .bool b => l.showInteger (if b then 1 else 0)
  | .double d =>
    if l.asksForDecimal then
      match d with
      | .nan => .error (.notFinite true)
      | .infinite _ => .error (.notFinite false)
      | .finite n m e => l.showInteger (Double.truncate n m e)
    else .error (.notANumber l.kind v.typeName)
  | _ => .error (.notANumber l.kind v.typeName)

/-- The digits that a decimal asks for, six when no precision is given. Beside a power of ten the
digit before the point is counted as well: the largest precision leaves no count for the places, and
there are none. Where zeros at the end go, no more digits are asked for than a double has. -/
def decimalDigits (l : Layout) : Nat :=
  let n := l.precision.getD 6
  match l.kind.toLower with
  | 'e' => if n < Measure.precision.largest then n else 0
  | 'f' => n
  | _ => if l.has '#' then n else min n Double.mostPlaces

/-- Shows a finite number without its sign. -/
def decimal (l : Layout) (m : Nat) (e : Int) : List Char :=
  let style : DecimalStyle := { keepsPoint := l.has '#', capitals := l.kind.isUpper }
  let digits := l.decimalDigits
  match l.kind.toLower with
  | 'e' => Double.writeScientific style digits m e
  | 'f' => Double.writeFixed style digits m e
  | _ => Double.writeGeneral style digits m e

/-- Shows a double. -/
def showDouble (l : Layout) (d : Double) : Except TemplateFault (List Char) :=
  let named (s : String) := if l.kind.isUpper then s.toList.map Char.toUpper else s.toList
  match d with
  | .nan => l.showSigned false [] (named "nan")
  | .infinite negative => l.showSigned negative [] (named "inf")
  | .finite negative m e =>
    if room < l.decimalDigits then .error .outOfMemory
    else l.showSigned negative [] (l.decimal m e)

/-- Shows a number as a decimal; an integer counts as the double nearest to it. -/
def showReal (l : Layout) : Value → Except TemplateFault (List Char)
  | .double d => l.showDouble d
  | .int i =>
    match Double.ofInt? i with
    | some d => l.showDouble d
    | none => .error .tooLarge
  | .bool b => l.showDouble (Double.ofFraction false (if b then 1 else 0) 1)
  | v => .error (.notReal v.typeName)

/-- Shows one character, given by its code point or as a text of length one. Texts hold no lone half
of a surrogate pair, and the number of one is refused like a number that is no code point. -/
def showCharacter (l : Layout) : Value → Except TemplateFault (List Char)
  | .text s => if s.length = 1 then l.pad s.toList else .error .notACharacter
  | .int i =>
    if 0 ≤ i ∧ i.toNat.isValidChar then l.pad [Char.ofNat i.toNat] else .error .noSuchCharacter
  | .bool b => l.pad [if b then '\x01' else '\x00']
  | _ => .error .notACharacter

/-- Shows a value the way the letter asks for. -/
def showValue (l : Layout) (v : Value) : Except TemplateFault (List Char) :=
  match l.kind with
  | 's' => l.showText v v.toText.toList
  | 'r' => l.showText v v.literal.toList
  | 'a' => l.showText v (Text.asciiOnly v.literal.toList)
  | 'd' | 'i' | 'u' | 'x' | 'X' | 'o' => l.showWhole v
  | 'e' | 'E' | 'f' | 'F' | 'g' | 'G' => l.showReal v
  | 'c' => l.showCharacter v
  | k => .error (.unsupported k l.index)

end Layout
end QueueAck.Template
