/-!
# Doubles

Binary floating-point numbers of 64 bits, held by their bits and computed with by exact integer
arithmetic: a finite number is an integer multiple of the least positive one, `2 ^ -1074`, and every
operation is its exact result rounded to the nearest number, ties to the even significand.
-/

namespace HostValue

/-- A binary floating-point number of 64 bits. Equality is equality of the bits, so a NaN equals
itself and the two zeros differ; `Double.same` compares the numbers. -/
structure Double where
  bits : UInt64
  deriving DecidableEq, Inhabited

namespace Double

def word (x : Double) : Nat :=
  x.bits.toNat

def isNegative (x : Double) : Bool :=
  Nat.pow 2 63 ≤ x.word

def exponentField (x : Double) : Nat :=
  x.word / Nat.pow 2 52 % Nat.pow 2 11

def fraction (x : Double) : Nat :=
  x.word % Nat.pow 2 52

def isNaN (x : Double) : Bool :=
  x.exponentField == 2047 && x.fraction != 0

def isInfinite (x : Double) : Bool :=
  x.exponentField == 2047 && x.fraction == 0

def isFinite (x : Double) : Bool :=
  x.exponentField != 2047

/-- The significand, with the leading one that normal numbers leave out. -/
def significand (x : Double) : Nat :=
  if x.exponentField = 0 then x.fraction else Nat.pow 2 52 + x.fraction

/-- The binary exponent of the significand's unit, counted from the least one. -/
def unitExponent (x : Double) : Nat :=
  x.exponentField - 1

/-- The absolute value in units of `2 ^ -1074`. An infinity lies above every finite number. -/
def magnitude (x : Double) : Nat :=
  x.significand * Nat.pow 2 x.unitExponent

def scaled (x : Double) : Int :=
  if x.isNegative then -(x.magnitude : Int) else x.magnitude

def unitsPerOne : Nat :=
  Nat.pow 2 1074

def infinityWord : Nat :=
  2047 * Nat.pow 2 52

def ofSignedWord (negative : Bool) (word : Nat) : Double :=
  ⟨(if negative then Nat.pow 2 63 + word else word).toUInt64⟩

/-- The NaN that stands for all of them in answers. -/
def nan : Double :=
  ofSignedWord false (infinityWord + Nat.pow 2 51)

def infinity (negative : Bool) : Double :=
  ofSignedWord negative infinityWord

def zero (negative : Bool) : Double :=
  ofSignedWord negative 0

def roundQuotient (numerator denominator : Nat) : Nat :=
  let quotient := numerator / denominator
  match compare (2 * (numerator % denominator)) denominator with
  | .lt => quotient
  | .gt => quotient + 1
  | .eq => if quotient % 2 = 0 then quotient else quotient + 1

/-- The double nearest to `numerator / denominator`. The significand keeps fifty-three bits of the
quotient in units of `2 ^ -1074`; adding it to its exponent field lets a significand that rounds up
to a power of two carry into the exponent. -/
def ofRatio (negative : Bool) (numerator denominator : Nat) : Double :=
  let units := numerator * unitsPerOne
  let exponent := (units / denominator).log2 - 52
  let word := exponent * Nat.pow 2 52 + roundQuotient units (denominator * Nat.pow 2 exponent)
  ofSignedWord negative (min word infinityWord)

def ofInt (n : Int) : Double :=
  ofRatio (n < 0) n.natAbs 1

/-- The double nearest to `digits * 10 ^ exponent`. Exponents so large or small that the result is
an infinity or a zero whatever the digits are not computed with. -/
def ofDecimal (negative : Bool) (digits : Nat) (exponent : Int) : Double :=
  if digits = 0 then
    zero negative
  else if 400 < exponent then
    infinity negative
  else if exponent + (Nat.log2 digits : Int) < -1500 then
    zero negative
  else
    ofRatio negative (digits * Nat.pow 10 exponent.toNat) (Nat.pow 10 (-exponent).toNat)

def mul (x y : Double) : Double :=
  ofRatio (x.isNegative != y.isNegative) (x.magnitude * y.magnitude) (unitsPerOne * unitsPerOne)

/-- The quotient of two finite numbers, the second of which is not zero. -/
def div (x y : Double) : Double :=
  ofRatio (x.isNegative != y.isNegative) x.magnitude y.magnitude

/-- The number that 32 bits stand for: one bit of sign, eight of exponent, twenty-three of
fraction. -/
def ofSingleBits (bits : UInt32) : Double :=
  let word := bits.toNat
  let negative : Bool := Nat.pow 2 31 ≤ word
  let exponent := word / Nat.pow 2 23 % Nat.pow 2 8
  let fraction := word % Nat.pow 2 23
  if exponent = 255 then
    if fraction = 0 then infinity negative else nan
  else if exponent = 0 then
    ofRatio negative fraction (Nat.pow 2 149)
  else
    ofRatio negative ((Nat.pow 2 23 + fraction) * Nat.pow 2 (exponent - 1)) (Nat.pow 2 149)

def order? (x y : Double) : Option Ordering :=
  if x.isNaN || y.isNaN then none else some (compare x.scaled y.scaled)

def same (x y : Double) : Bool :=
  x.order? y == some .eq

def isZero (x : Double) : Bool :=
  x.magnitude == 0

def hasFraction (x : Double) : Bool :=
  x.magnitude % unitsPerOne != 0

def truncated (x : Double) : Int :=
  let quotient := x.magnitude / unitsPerOne
  if x.isNegative then -(quotient : Int) else quotient

/-- The integer of sixty-four bits that a cast makes: the number without what stands behind the
point, and no further than the bounds. A NaN makes zero. -/
def toInt64 (x : Double) : Int64 :=
  if x.isNaN then 0
  else Int64.ofInt (max Int64.minValue.toInt (min Int64.maxValue.toInt x.truncated))

def negate (x : Double) : Double :=
  ⟨x.bits ^^^ 0x8000000000000000⟩

def canonical (x : Double) : Double :=
  if x.isNaN then nan else x

end Double

end HostValue
