import QueueAck.Template.Reader
import QueueAck.Template.Show

/-!
# Filling message templates

`Template.fill` puts arguments in their places from left to right and stops at the first conversion
that cannot be filled. A conversion takes its width, its precision and then its value from the
arguments that are left; one with a key takes them from the value of that name.
-/

namespace QueueAck

/-- The value of an argument that counts as an integer. -/
def Value.integer? : Value → Option Int
  | .int i => some i
  | .bool b => some (if b then 1 else 0)
  | _ => none

namespace Template

/-- The number of a measure, if there is one, and the arguments that are left. -/
def takeSize (measure : Measure) :
    Size → List Value → Except TemplateFault (Option Int × List Value)
  | .absent, queue => .ok (none, queue)
  | .given n, queue =>
    if measure.largest < n then .error (.tooBig measure) else .ok (some n, queue)
  | .argument, [] => .error .tooFewArguments
  | .argument, v :: vs =>
    match v.integer? with
    | none => .error .measureNotInteger
    | some i =>
      if i ≤ measure.largest ∧ -(measure.largest : Int) - 1 ≤ i then .ok (some i, vs)
      else .error (.measureOutOfRange measure)

/-- The number of characters that a width asks for. The least width of all has no opposite among
the widths and asks for none. -/
def leastLength (width : Int) : Nat :=
  if width < -(Measure.width.largest : Int) then 0 else width.natAbs

/-- The layout of a conversion, and the arguments that are left. A negative width asks for the text
at the left, and a negative precision counts as zero. -/
def layoutOf (c : Conversion) (queue : List Value) :
    Except TemplateFault (Layout × List Value) := do
  let (width, queue) ← takeSize .width c.width queue
  let (precision, queue) ← takeSize .precision c.precision queue
  match c.kind with
  | none => .error .incomplete
  | some kind =>
    let width := width.getD 0
    let flags := if width < 0 then '-' :: c.flags else c.flags
    return ({ flags, width := leastLength width, precision := precision.map Int.toNat, kind,
              index := c.index }, queue)

/-- The text of a conversion, and the arguments that are left. -/
def fillConversion (args : Arguments) (c : Conversion) (queue : List Value) :
    Except TemplateFault (List Char × List Value) := do
  let queue ← match c.key with
    | none => .ok queue
    | some k => (args.get k).map fun v => [v]
  let (layout, queue) ← layoutOf c queue
  match queue with
  | [] => .error .tooFewArguments
  | v :: vs => return (← layout.showValue v, vs)

/-- Fills the parts from left to right. `queue` holds the arguments that are not taken yet. -/
def fillParts (args : Arguments) :
    List Value → List TemplatePart → Except TemplateFault (List Char)
  | queue, [] =>
    if !args.areNamed && !queue.isEmpty then .error .tooManyArguments else .ok []
  | queue, .literal cs :: ps => (fillParts args queue ps).map (cs ++ ·)
  | _, .openKey :: _ =>
    if args.areNamed then .error .incompleteKey else .error .keyWithoutNames
  | queue, .conversion c :: ps =>
    match fillConversion args c queue with
    | .error e => .error e
    | .ok (cs, queue) => (fillParts args queue ps).map (cs ++ ·)

/-- Puts arguments into a template. -/
def fill (template : String) (args : Arguments) : Except TemplateFault String :=
  (fillParts args args.queue (parts template)).map String.ofList

end Template

/-- Texts and numbers take their places in order. -/
example :
    (Template.fill "%s: %d of %5d, 100%%" (.inOrder [.text "q", .int 3, .int (-7)])).toOption =
      some "q: 3 of    -7, 100%" := by decide +kernel

/-- A width and a precision may come from the arguments. -/
example :
    (Template.fill "%-*d|%.*f" (.inOrder [.int 4, .int 7, .int 1, .int 2])).toOption =
      some "7   |2.0" := by decide +kernel

/-- The least width of all asks for no characters, the one above it for more than there is room. -/
example :
    (Template.fill "%0*d" (.inOrder [.int (-9223372036854775808), .int 7])).toOption = some "7" ∧
      (Template.fill "%0*d" (.inOrder [.int (-9223372036854775807), .int 7])).toOption = none := by
  decide +kernel

/-- An integer with more digits than are written is not shown, alone or in a list. -/
example :
    (Template.fill "%d" (.inOrder [.int Text.writeLimit])).toOption = none ∧
      (Template.fill "%s" (.inOrder [.list [.int (-Text.writeLimit)]])).toOption = none := by
  decide +kernel

/-- Beside a power of ten the largest precision leaves no places, as zero does. -/
example :
    (Template.fill "%.2147483647e|%#.0e" (.inOrder [.int 15, .int 15])).toOption =
      some "2e+01|2.e+01" := by decide +kernel

/-- Where zeros at the end go, the largest precision shows the exact value. -/
example :
    (Template.fill "%.2147483647g" (.inOrder [.double (.finite false 1 (-4))])).toOption =
      some "0.0625" := by decide +kernel

end QueueAck
