import QueueAck.Calendar.Basic
import QueueAck.Text.Case

/-!
# Patterns of calendar times

A pattern is a text with codes, each a percent sign, flags, a width, a letter that asks for another
form, and the letter of the code. `CalendarTime.format` puts the parts of a time in the places of
the codes; a code that is not known stands for itself. A text that does not fit into the room for
its pattern is dropped as a whole.
-/

namespace QueueAck

/-- How a number is filled up. -/
inductive Filling where
  /-- With zeros after its sign. -/
  | zeros
  /-- With blanks before its sign. -/
  | blanks
  /-- Not at all. -/
  | bare
deriving DecidableEq, Repr

/-- A code of a pattern. -/
structure Directive where
  /-- How numbers are filled up, when a flag says so. -/
  filling : Option Filling
  /-- Whether letters become capitals. -/
  capitals : Bool
  /-- Whether the case of letters is changed. -/
  swapped : Bool
  /-- The least number of characters. -/
  width : Nat
  /-- The letter that asks for another form. -/
  form : Option Char
  /-- The letter of the code; there is none at the end of a pattern. -/
  code : Option Char
  /-- The code as it is written. -/
  source : List Char
deriving DecidableEq, Repr

/-- A part of a pattern. -/
inductive PatternPart where
  /-- Characters that stand for themselves. -/
  | literal (cs : List Char)
  /-- A code. -/
  | directive (d : Directive)
deriving DecidableEq, Repr

namespace Directive

/-- The filling that a flag asks for. -/
def fillingOf : Char → Option Filling
  | '0' => some .zeros
  | '_' => some .blanks
  | '-' => some .bare
  | _ => none

/-- True for a flag. -/
def isFlag (c : Char) : Bool := (fillingOf c).isSome || c == '^' || c == '#'

/-- Reads a code after its percent sign, and returns what follows it. Of several flags for the
filling the last one counts. -/
def read (cs : List Char) : Directive × List Char :=
  let flags := cs.takeWhile isFlag
  let afterFlags := cs.dropWhile isFlag
  let digits := afterFlags.takeWhile Char.isDigit
  let afterWidth := afterFlags.dropWhile Char.isDigit
  let form := afterWidth.head?.filter fun c => c == 'E' || c == 'O'
  let afterForm := if form.isSome then afterWidth.drop 1 else afterWidth
  let code := afterForm.head?
  ({ filling := (flags.filterMap fillingOf).getLast?
     capitals := flags.contains '^'
     swapped := flags.contains '#'
     width := Nat.ofDigitChars 10 digits 0
     form, code
     source := if code = some '%' then ['%']
       else '%' :: (flags ++ digits ++ form.toList ++ code.toList) },
    afterForm.drop 1)

/-- True when the code has the form that is asked for. -/
def isKnown (d : Directive) : Bool :=
  match d.form, d.code with
  | some 'E', some c => !"abdeghjklmwABDFGHIMSUVW".toList.contains c
  | some _, some c => !"acxADFXY".toList.contains c
  | _, _ => true

/-- Fills a text up to the width, from the left. -/
def pad (d : Directive) (cs : List Char) : List Char :=
  List.replicate (d.width - cs.length) (if d.filling = some .zeros then '0' else ' ') ++ cs

/-- A text, in capitals when they are asked for. -/
def showText (d : Directive) (cs : List Char) : List Char :=
  d.pad (if d.capitals then cs.map Text.singleCapital else cs)

/-- A name, in capitals also when the case is to be changed. -/
def showName (d : Directive) (cs : List Char) : List Char :=
  d.pad (if d.capitals || d.swapped then cs.map Text.singleCapital else cs)

/-- A text in capitals, in small letters when the case is to be changed. -/
def showCapitals (d : Directive) (cs : List Char) : List Char :=
  d.pad (if d.swapped then cs.map Char.toLower else cs)

/-- A number with at least so many digits. -/
def showNumber (d : Directive) (least : Nat) (i : Int) : List Char :=
  let sign := if i < 0 then ['-'] else []
  let digits := Nat.toDigits 10 i.natAbs
  let free := max least d.width - (sign.length + digits.length)
  match d.filling with
  | some .bare => d.pad (sign ++ digits)
  | some .blanks => List.replicate free ' ' ++ sign ++ digits
  | _ => sign ++ List.replicate free '0' ++ digits

/-- A number that is filled up with blanks unless a flag says otherwise. -/
def showBlankNumber (d : Directive) (least : Nat) (i : Int) : List Char :=
  { d with filling := d.filling.or (some .blanks) }.showNumber least i

/-- The pattern that a code made of several parts stands for. -/
def compound : Char → Option String
  | 'F' => some "%Y-%m-%d"
  | 'T' => some "%H:%M:%S"
  | 'R' => some "%H:%M"
  | 'r' => some "%I:%M:%S %p"
  | 'D' => some "%m/%d/%y"
  | 'x' => some "%m/%d/%y"
  | 'X' => some "%H:%M:%S"
  | 'c' => some "%a %b %e %H:%M:%S %Y"
  | _ => none

/-- The text of a code made of a single part. -/
def part (d : Directive) (t : CalendarTime) : Char → Option (List Char)
  | 'Y' => some (d.showNumber 1 t.year)
  | 'C' => some (d.showNumber 1 (t.year / 100))
  | 'y' => some (d.showNumber 2 (t.year % 100))
  | 'm' => some (d.showNumber 2 t.month)
  | 'd' => some (d.showNumber 2 t.day)
  | 'e' => some (d.showBlankNumber 2 t.day)
  | 'H' => some (d.showNumber 2 t.hour)
  | 'k' => some (d.showBlankNumber 2 t.hour)
  | 'I' => some (d.showNumber 2 t.clockHour)
  | 'l' => some (d.showBlankNumber 2 t.clockHour)
  | 'M' => some (d.showNumber 2 t.minute)
  | 'S' => some (d.showNumber 2 t.second)
  | 'j' => some (d.showNumber 3 t.yearDay)
  | 'w' => some (d.showNumber 1 t.weekday)
  | 'u' => some (d.showNumber 1 (if t.weekday = 0 then 7 else t.weekday))
  | 'U' => some (d.showNumber 2 ((t.yearDay + 6 - t.weekday) / 7 : Nat))
  | 'W' => some (d.showNumber 2 ((t.yearDay + 6 - (t.weekday + 6) % 7) / 7 : Nat))
  | 'G' => some (d.showNumber 1 t.week.1)
  | 'g' => some (d.showNumber 2 (t.week.1 % 100))
  | 'V' => some (d.showNumber 2 t.week.2)
  | 's' => some (d.pad t.moment.repr.toList)
  | 'a' => some (d.showName (t.dayName.take 3))
  | 'A' => some (d.showName t.dayName)
  | 'b' | 'h' => some (d.showName (t.monthName.take 3))
  | 'B' => some (d.showName t.monthName)
  | 'p' => some (d.showCapitals t.halfDay)
  | 'P' => some (d.pad (t.halfDay.map Char.toLower))
  | 'Z' => some (d.showCapitals ['U', 'T', 'C'])
  | 'z' => some (d.pad ['+'] ++ d.showNumber 4 0)
  | 'n' => some (d.pad ['\n'])
  | 't' => some (d.pad ['\t'])
  | '%' => some (d.pad ['%'])
  | _ => none

/-- The text of a code that is not known: the code as it is written. That of a short month still
follows its flags. -/
def showSource (d : Directive) : List Char :=
  if d.code = some 'b' ∨ d.code = some 'h' then d.showName d.source else d.showText d.source

/-- The text of a code; `nested` gives that of the pattern of a code made of several parts. -/
def text (d : Directive) (nested : String → List Char) (t : CalendarTime) : List Char :=
  let known := d.code.filter fun _ => d.isKnown
  match known.bind compound with
  | some p => d.showText (nested p)
  | none => (known.bind (d.part t)).getD d.showSource

end Directive

namespace CalendarTime

/-- The parts of a pattern. Every part takes at least one character, so the length is enough
fuel. -/
def readPattern : Nat → List Char → List PatternPart
  | 0, _ => []
  | _, [] => []
  | fuel + 1, '%' :: cs =>
    let (d, rest) := Directive.read cs
    .directive d :: readPattern fuel rest
  | fuel + 1, cs =>
    .literal (cs.takeWhile (· != '%')) :: readPattern fuel (cs.dropWhile (· != '%'))

/-- The parts of a pattern. -/
def patternParts (pattern : String) : List PatternPart :=
  readPattern pattern.length pattern.toList

/-- The text of a time under the parts of a pattern. -/
def textOf (t : CalendarTime) (nested : String → List Char) (parts : List PatternPart) :
    List Char :=
  parts.flatMap fun
    | .literal cs => cs
    | .directive d => d.text nested t

/-- The text of a time under a pattern of codes made of a single part. -/
def simpleText (t : CalendarTime) (pattern : String) : List Char :=
  t.textOf (fun _ => []) (patternParts pattern)

/-- The room for the text of a time: it doubles from 1024 on until it has 256 characters for each
one of the pattern. The last of them is not used. -/
def room (length : Nat) : Nat := max 1024 (Nat.pow 2 ((256 * length - 1).log2 + 1))

/-- The text of a time under a pattern; it is empty when there is no room for it. -/
def format (t : CalendarTime) (pattern : String) : String :=
  let room := room pattern.length
  let parts := patternParts pattern
  let tooWide := parts.any fun
    | .directive d => room ≤ d.width
    | .literal _ => false
  if tooWide then ""
  else
    let cs := t.textOf t.simpleText parts
    if cs.length < room then String.ofList cs else ""

end CalendarTime

/-- A flag drops the zeros or sets them, and a width counts them. -/
example : (CalendarTime.ofSeconds 0).format "%-d %_d %5Y %^a %F" = "1  1 01970 THU 1970-01-01" := by
  decide +kernel

/-- What is no code stands for itself. -/
example : (CalendarTime.ofSeconds 0).format "%q 100% %Ed" = "%q 100% %Ed" := by decide +kernel

end QueueAck
