/-!
# Doubles and their shortest decimals

A double is a sign, a mantissa and a power of two, or infinite, or not a number. A decimal is read
to the nearest double, an exact half going to the even mantissa. A double is written with the
fewest digits that are read back as the same double, the nearest such digits to its value.
All of it is exact arithmetic on natural numbers.
-/

namespace QueueAck

/-- A number of IEEE double precision. -/
inductive Double where
  /-- Not a number. -/
  | nan
  /-- An infinite value. -/
  | infinite (negative : Bool)
  /-- The value `mantissa * 2 ^ exponent`, up to its sign. -/
  | finite (negative : Bool) (mantissa : Nat) (exponent : Int)
deriving DecidableEq, Repr

namespace Double

/-- The smallest exponent of a double. -/
def minExponent : Int := -1074

/-- The largest exponent of a double. -/
def maxExponent : Int := 971

/-- The least mantissa of 53 binary digits. All mantissas are below its double, and only those of
the smallest exponent are below it. -/
def leastMantissa : Nat := Nat.pow 2 52

/-- The fraction `num / den` divided by a power of `base`, as numerator and denominator. -/
def scaleDown (base num den : Nat) (e : Int) : Nat × Nat :=
  if 0 ≤ e then (num, den * base.pow e.toNat) else (num * base.pow (-e).toNat, den)

/-- The nearest natural number to a fraction; an exact half goes to the even one. -/
def roundHalfEven (num den : Nat) : Nat :=
  let q := num / den
  let r := num % den
  if den < 2 * r ∨ (den = 2 * r ∧ q % 2 = 1) then q + 1 else q

/-- The double nearest to a positive fraction, with the given sign. -/
def ofFraction (negative : Bool) (num den : Nat) : Double :=
  if num = 0 then .finite negative 0 minExponent
  else
    let start := max minExponent ((num.log2 : Int) - (den.log2 : Int) - 53)
    let s := scaleDown 2 num den start
    let e := if 2 * leastMantissa ≤ s.1 / s.2 then start + 1 else start
    let t := scaleDown 2 num den e
    let m := roundHalfEven t.1 t.2
    let me := if m = 2 * leastMantissa then (leastMantissa, e + 1) else (m, e)
    if maxExponent < me.2 then .infinite negative else .finite negative me.1 me.2

private def digits? (cs : List Char) : Option Nat :=
  if cs.all Char.isDigit then some (cs.foldl (fun n c => 10 * n + (c.toNat - 48)) 0) else none

private def exponent? : List Char → Option Int
  | [] => some 0
  | _ :: '-' :: cs => if cs.isEmpty then none else (digits? cs).map fun n => -(n : Int)
  | _ :: '+' :: cs => if cs.isEmpty then none else (digits? cs).map Int.ofNat
  | _ :: cs => if cs.isEmpty then none else (digits? cs).map Int.ofNat

/-- Reads digits, an optional point among them, and an optional power of ten. -/
def readDecimal (negative : Bool) (cs : List Char) : Option Double :=
  let mantissa := cs.takeWhile fun c => c != 'e' && c != 'E'
  let whole := mantissa.takeWhile (· != '.')
  let part := (mantissa.dropWhile (· != '.')).drop 1
  if whole.isEmpty && part.isEmpty then none
  else do
    let n ← digits? (whole ++ part)
    let e ← exponent? (cs.dropWhile fun c => c != 'e' && c != 'E')
    -- Beyond these powers of ten the result does not depend on the power.
    let lowest : Int := -400 - ((whole.length + part.length : Nat) : Int)
    let power := max lowest (min 400 (e - (part.length : Int)))
    let f := scaleDown 10 n 1 (-power)
    return ofFraction negative f.1 f.2

private def readUnsignedDouble (negative : Bool) (cs : List Char) : Option Double :=
  match String.ofList (cs.map Char.toLower) with
  | "nan" => some .nan
  | "inf" => some (.infinite negative)
  | "infinity" => some (.infinite negative)
  | _ => readDecimal negative cs

/-- Reads a number with an optional sign; infinities and the value that is no number have names. -/
def ofString? (s : String) : Option Double :=
  match s.toList with
  | '-' :: cs => readUnsignedDouble true cs
  | '+' :: cs => readUnsignedDouble false cs
  | cs => readUnsignedDouble false cs

/-- The numerator and denominator of `m * 2 ^ e`. -/
def fraction (m : Nat) (e : Int) : Nat × Nat := scaleDown 2 m 1 (-e)

/-- The power of ten that a positive fraction reaches and whose successor it does not reach. -/
def decimalPower (num den : Nat) : Int :=
  if den ≤ num then ((Nat.toDigits 10 (num / den)).length : Int) - 1
  else
    match (List.range 400).find? fun j => den ≤ num * Nat.pow 10 (j + 1) with
    | some j => -(j : Int) - 1
    | none => -400

/-- True when a decimal `d * 10 ^ k` is read back as the double with mantissa `m` and exponent `e`:
it lies between the midpoints to the neighbours, a midpoint itself counting for an even mantissa. -/
def readsBack (m : Nat) (e : Int) (d : Nat) (k : Int) : Bool :=
  -- All quantities are in quarters of the last place, over the common denominator `v.2`.
  let v := scaleDown 10 d 1 (-k)
  let w := scaleDown 2 (4 * v.1) v.2 e
  let low := if m = leastMantissa ∧ minExponent < e then 4 * m - 1 else 4 * m - 2
  let high := 4 * m + 2
  if m % 2 = 0 then low * w.2 ≤ w.1 ∧ w.1 ≤ high * w.2 else low * w.2 < w.1 ∧ w.1 < high * w.2

/-- The nearest decimal of `n` digits that is read back, with its power of ten. -/
def decimalOfLength? (m : Nat) (e : Int) (n : Nat) : Option (Nat × Int) :=
  let v := fraction m e
  let k := decimalPower v.1 v.2 - n + 1
  let s := scaleDown 10 v.1 v.2 k
  let below := s.1 / s.2
  let near := roundHalfEven s.1 s.2
  let far := if near = below then below + 1 else below
  if readsBack m e near k then some (near, k)
  else if readsBack m e far k then some (far, k)
  else none

/-- The shortest digits of a positive double and their power of ten. -/
def shortest (m : Nat) (e : Int) : Nat × Int :=
  ((List.range 17).findSome? fun n => decimalOfLength? m e (n + 1)).getD (0, 0)

/-- Drops the zeros at the end of the digits, and counts them into the power of ten. -/
def dropZeros : Nat → Nat × Int → Nat × Int
  | 0, p => p
  | fuel + 1, (d, k) => if d % 10 = 0 ∧ d ≠ 0 then dropZeros fuel (d / 10, k + 1) else (d, k)

/-- Writes digits with their point after the first `point` of them. Positions up to the sixteenth
before the point and the fourth after it are written out, all others as a power of ten. -/
def writeDigits (ds : List Char) (point : Int) : List Char :=
  if point ≤ -4 ∨ 16 < point then
    let e := point - 1
    let es := Nat.toDigits 10 e.natAbs
    let tail := match ds.drop 1 with | [] => [] | r => '.' :: r
    ds.take 1 ++ tail ++ 'e' :: (if e < 0 then '-' else '+') ::
      (List.replicate (2 - es.length) '0' ++ es)
  else if point ≤ 0 then '0' :: '.' :: (List.replicate (-point).toNat '0' ++ ds)
  else
    let n := point.toNat
    let whole := ds.take n ++ List.replicate (n - ds.length) '0'
    match ds.drop n with
    | [] => whole ++ ['.', '0']
    | r => whole ++ '.' :: r

/-- The written form of a double: the shortest digits that are read back. -/
def text : Double → String
  | .nan => "nan"
  | .infinite true => "-inf"
  | .infinite false => "inf"
  | .finite negative m e =>
    let body :=
      if m = 0 then ['0', '.', '0']
      else
        let p := dropZeros 17 (shortest m e)
        let ds := Nat.toDigits 10 p.1
        writeDigits ds (ds.length + p.2)
    String.ofList (if negative then '-' :: body else body)

/-- The part of a finite double before the point. -/
def truncate (negative : Bool) (m : Nat) (e : Int) : Int :=
  let v := fraction m e
  if negative then -((v.1 / v.2 : Nat) : Int) else ((v.1 / v.2 : Nat) : Int)

/-- The largest integer that is not above a finite double. -/
def floor (negative : Bool) (m : Nat) (e : Int) : Int :=
  let v := fraction m e
  if negative then -(((v.1 + v.2 - 1) / v.2 : Nat) : Int) else ((v.1 / v.2 : Nat) : Int)

/-- The double nearest to an integer, unless that is infinite. -/
def ofInt? (i : Int) : Option Double :=
  match ofFraction (i < 0) i.natAbs 1 with
  | .infinite _ => none
  | d => some d

end Double
end QueueAck
