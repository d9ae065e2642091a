import QueueAck.Number.Double

/-!
# Decimals of a given length

The decimals that stand for a double when the number of digits is given: so many places after the
point, so many digits with a power of ten, or the shorter of the two forms. The decimal is always
the one nearest to the exact value, and of two that are equally near the one with an even last
digit.
-/

namespace QueueAck

/-- How a decimal is written. -/
structure DecimalStyle where
  /-- Keeps the point when nothing follows it, and the zeros at the end. -/
  keepsPoint : Bool := false
  /-- Writes letters as capitals. -/
  capitals : Bool := false
deriving DecidableEq, Repr

namespace Double

/-- A number of places that no double goes beyond: all further digits are zeros. -/
def mostPlaces : Nat := 1100

/-- The value of a double in units of the last of `places` places, rounded to the nearest. -/
def inPlaces (m : Nat) (e : Int) (places : Nat) : Nat :=
  let v := fraction m e
  let s := scaleDown 10 v.1 v.2 (-(places : Int))
  roundHalfEven s.1 s.2

/-- The first `n` digits of a double as one number, rounded to the nearest, and the power of ten
that belongs to the first of them. -/
def leadingDigits (m : Nat) (e : Int) (n : Nat) : Nat × Int :=
  if m = 0 then (0, 0)
  else
    let v := fraction m e
    let p := decimalPower v.1 v.2
    let s := scaleDown 10 v.1 v.2 (p - n + 1)
    let d := roundHalfEven s.1 s.2
    if d = Nat.pow 10 n then (Nat.pow 10 (n - 1), p + 1) else (d, p)

/-- At least `n` decimal digits, zeros going first. -/
def digitsOfLength (n d : Nat) : List Char :=
  let ds := Nat.toDigits 10 d
  List.replicate (n - ds.length) '0' ++ ds

/-- The first `n` digits of a double and the power of ten of the first one. -/
def leading (m : Nat) (e : Int) (n : Nat) : List Char × Int :=
  let known := min n mostPlaces
  let p := leadingDigits m e known
  (digitsOfLength known p.1 ++ List.replicate (n - known) '0', p.2)

/-- Writes a point before the digits that follow it; without such digits there is a point only when
it is kept. -/
def withPoint (style : DecimalStyle) (whole part : List Char) : List Char :=
  if part.isEmpty && !style.keepsPoint then whole else whole ++ '.' :: part

/-- A power of ten with its sign and at least two digits. -/
def writeExponent (style : DecimalStyle) (x : Int) : List Char :=
  (if style.capitals then 'E' else 'e') :: (if x < 0 then '-' else '+') ::
    digitsOfLength 2 x.natAbs

/-- Writes a double with `places` digits after the point. -/
def writeFixed (style : DecimalStyle) (places m : Nat) (e : Int) : List Char :=
  let known := min places mostPlaces
  let ds := digitsOfLength (known + 1) (inPlaces m e known)
  let whole := ds.length - known
  withPoint style (ds.take whole) (ds.drop whole ++ List.replicate (places - known) '0')

/-- Writes a double with one digit before the point, `places` after it and a power of ten. -/
def writeScientific (style : DecimalStyle) (places m : Nat) (e : Int) : List Char :=
  let p := leading m e (places + 1)
  withPoint style (p.1.take 1) (p.1.drop 1) ++ writeExponent style p.2

private def dropLastZeros (ds : List Char) : List Char :=
  (ds.reverse.dropWhile (· == '0')).reverse

/-- Writes a double with `digits` digits, zero standing for one, as a power of ten only when it is
below the fourth place or has more digits before the point. Zeros at the end go unless the point is
kept. -/
def writeGeneral (style : DecimalStyle) (digits m : Nat) (e : Int) : List Char :=
  let n := if style.keepsPoint then max digits 1 else min (max digits 1) mostPlaces
  let p := leading m e n
  let part (ds : List Char) := if style.keepsPoint then ds else dropLastZeros ds
  if p.2 < -4 ∨ (n : Int) ≤ p.2 then
    withPoint style (p.1.take 1) (part (p.1.drop 1)) ++ writeExponent style p.2
  else if p.2 < 0 then
    withPoint style ['0'] (part (List.replicate (-p.2 - 1).toNat '0' ++ p.1))
  else
    let whole := p.2.toNat + 1
    withPoint style (p.1.take whole) (part (p.1.drop whole))

end Double

/-- A half goes to the even digit: two and a quarter has two tenths. -/
example : Double.writeFixed {} 1 9 (-2) = "2.2".toList := by decide +kernel

/-- Six digits do not reach a million, so it is a power of ten. -/
example : Double.writeGeneral {} 6 1000000 0 = "1e+06".toList := by decide +kernel

end QueueAck
