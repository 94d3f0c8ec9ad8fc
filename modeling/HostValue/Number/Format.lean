import HostValue.Number.Double

/-!
# Doubles in decimal

How a double is written: the decimal with the fewest digits that reads back to it, and among those the
one nearest to it, is laid out as an output format decides. Every output format of the library is one
record of such decisions. All comparisons are exact, between natural numbers.
-/

namespace HostValue

/-! ### Shortest decimals -/

/-- The decimal `digits * 10 ^ exponent`. -/
structure Decimal where
  digits : Nat
  exponent : Int
  deriving DecidableEq

inductive Tie where
  | toEven
  | upward

namespace Decimal

def strip : Nat → Decimal → Decimal
  | 0, d => d
  | steps + 1, d =>
    if d.digits ≠ 0 ∧ d.digits % 10 = 0 then
      strip steps ⟨d.digits / 10, d.exponent + 1⟩
    else
      d

/-- Compares the decimal with `quarters` quarters of the least positive double. -/
def compareQuarters (d : Decimal) (quarters : Nat) : Ordering :=
  compare (d.digits * Nat.pow 10 d.exponent.toNat * (4 * Double.unitsPerOne))
    (quarters * Nat.pow 10 (-d.exponent).toNat)

end Decimal

namespace Double

/-- Whether the gap to the number below is half the gap to the number above: so it is at the powers
of two. -/
def isNarrowBelow (x : Double) : Bool :=
  x.fraction == 0 && 1 < x.exponentField

/-- Whether the decimal lies among the reals that round to the absolute value of `x`. The ends of
that interval belong to it when the significand is even. -/
def readsBack (x : Double) (d : Decimal) : Bool :=
  let gap := Nat.pow 2 x.unitExponent
  let low := if x.isNarrowBelow then 4 * x.magnitude - gap else 4 * x.magnitude - 2 * gap
  let high := 4 * x.magnitude + 2 * gap
  let closed := x.significand % 2 == 0
  let atLow := d.compareQuarters low
  let atHigh := d.compareQuarters high
  (atLow == .gt || (closed && atLow == .eq)) && (atHigh == .lt || (closed && atHigh == .eq))

/-- The least `k` such that the absolute value lies below `10 ^ k`. The binary logarithm gives it up
to two. -/
def decimalScale (x : Double) : Int :=
  let estimate := Int.fdiv (((x.magnitude.log2 : Int) - 1074) * 30103) 100000
  let below (k : Int) : Bool :=
    x.magnitude * Nat.pow 10 (-k).toNat < unitsPerOne * Nat.pow 10 k.toNat
  if below (estimate + 1) then estimate + 1
  else if below (estimate + 2) then estimate + 2
  else estimate + 3

/-- The better of the two neighbours of the absolute value on the grid of multiples of
`10 ^ exponent`, if one of them reads back. -/
def onGrid? (tie : Tie) (x : Double) (exponent : Int) : Option Decimal :=
  let numerator := x.magnitude * Nat.pow 10 (-exponent).toNat
  let denominator := unitsPerOne * Nat.pow 10 exponent.toNat
  let quotient := numerator / denominator
  let lower : Decimal := ⟨quotient, exponent⟩
  let upper : Decimal := ⟨quotient + 1, exponent⟩
  match x.readsBack lower, x.readsBack upper with
  | false, false => none
  | true, false => some lower
  | false, true => some upper
  | true, true =>
    match compare (2 * numerator) ((2 * quotient + 1) * denominator), tie with
    | .lt, _ => some lower
    | .gt, _ => some upper
    | .eq, .upward => some upper
    | .eq, .toEven => some (if quotient % 2 = 0 then lower else upper)

def exactDecimal (x : Double) : Decimal :=
  ⟨x.magnitude * Nat.pow 5 1074, -1074⟩

/-- The shortest decimal that reads back to the absolute value of a finite number other than zero.
Seventeen digits always suffice; past them stands the exact value. -/
def shortest (tie : Tie) (x : Double) : Decimal :=
  let scale := x.decimalScale
  let found := (List.range 17).findSome? (fun n : Nat => x.onGrid? tie (scale - (n + 1)))
  (found.getD x.exactDecimal).strip 1100

end Double

/-! ### Formats -/

structure NumberFormat where
  tie : Tie
  /-- The exponents of the leading digit, least and greatest, that are written without an exponent;
  all of them if there are no bounds. -/
  positional : Option (Int × Int)
  pointZero : Bool
  exponentPlus : Bool
  nan : String
  infinity : String
  negativeInfinity : String

namespace NumberFormat

def layPositional (format : NumberFormat) (digits : List Char) (point : Int) : List Char :=
  if point ≤ 0 then
    ['0', '.'] ++ List.replicate (-point).toNat '0' ++ digits
  else if (digits.length : Int) ≤ point then
    digits ++ List.replicate (point - digits.length).toNat '0' ++
      (if format.pointZero then ['.', '0'] else [])
  else
    digits.take point.toNat ++ '.' :: digits.drop point.toNat

def layScientific (format : NumberFormat) (digits : List Char) (exponent : Int) : List Char :=
  let fraction := digits.drop 1
  let sign := if exponent < 0 then ['-'] else if format.exponentPlus then ['+'] else []
  digits.take 1 ++ (if fraction.isEmpty then [] else '.' :: fraction) ++ 'e' :: sign ++
    Nat.toDigits 10 exponent.natAbs

def layMagnitude (format : NumberFormat) (x : Double) : List Char :=
  if x.isZero then
    '0' :: (if format.pointZero then ['.', '0'] else [])
  else
    let decimal := x.shortest format.tie
    let digits := Nat.toDigits 10 decimal.digits
    let exponent := decimal.exponent + digits.length - 1
    let isPositional :=
      match format.positional with
      | none => true
      | some (least, greatest) => least ≤ exponent && exponent ≤ greatest
    if isPositional then
      format.layPositional digits (exponent + 1)
    else
      format.layScientific digits exponent

def render (format : NumberFormat) (x : Double) : String :=
  if x.isNaN then
    format.nan
  else if x.isInfinite then
    if x.isNegative then format.negativeInfinity else format.infinity
  else
    String.ofList ((if x.isNegative then ['-'] else []) ++ format.layMagnitude x)

/-- Numbers inside texts and messages: always positional, whole numbers without a point. -/
def plain : NumberFormat where
  tie := .upward
  positional := none
  pointZero := false
  exponentPlus := false
  nan := "NaN"
  infinity := "inf"
  negativeInfinity := "-inf"

def described : NumberFormat :=
  { plain with pointZero := true }

def json : NumberFormat where
  tie := .toEven
  positional := some (-5, 15)
  pointZero := true
  exponentPlus := true
  nan := "null"
  infinity := "null"
  negativeInfinity := "null"

def yaml : NumberFormat where
  tie := .toEven
  positional := some (-5, 15)
  pointZero := true
  exponentPlus := false
  nan := ".nan"
  infinity := ".inf"
  negativeInfinity := "-.inf"

end NumberFormat

end HostValue
