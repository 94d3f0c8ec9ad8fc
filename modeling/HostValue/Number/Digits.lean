/-!
# Decimal digits

Whole numbers written with the digits `0` to `9`, or in another base: their value, and the forms in
which texts give them, with a bound where the number has a fixed width.
-/

namespace HostValue

def digitValue (digit : Char) : Nat :=
  digit.toNat - '0'.toNat

def digitsValue (digits : List Char) : Nat :=
  digits.foldl (fun value digit => 10 * value + digitValue digit) 0

def isNumeral (text : List Char) : Bool :=
  !text.isEmpty && text.all Char.isDigit

def digitInBase? (base : Nat) (c : Char) : Option Nat :=
  let value :=
    if '0' ≤ c ∧ c ≤ '9' then c.toNat - '0'.toNat
    else if 'a' ≤ c ∧ c ≤ 'z' then c.toNat - 'a'.toNat + 10
    else if 'A' ≤ c ∧ c ≤ 'Z' then c.toNat - 'A'.toNat + 10
    else base
  if value < base then some value else none

def numberInBase? (base : Nat) (digits : List Char) : Option Nat :=
  if digits.isEmpty then
    none
  else
    digits.foldlM (fun number c => (digitInBase? base c).map (base * number + ·)) 0

def parseUnsigned? (text : List Char) : Option UInt64 :=
  let digits := match text with
    | '+' :: rest => rest
    | _ => text
  if isNumeral digits ∧ digitsValue digits < UInt64.size then
    some (digitsValue digits).toUInt64
  else
    none

def int64OfInt? (n : Int) : Option Int64 :=
  if Int64.minValue.toInt ≤ n ∧ n ≤ Int64.maxValue.toInt then some (Int64.ofInt n) else none

/-- The number with a digit written behind it, on the side of zero that its sign names, if
sixty-four bits hold it. -/
def appendDigit? (negative : Bool) (number : Int64) (digit : Char) : Option Int64 :=
  if digit.isDigit then
    let added : Int := if negative then -digitValue digit else digitValue digit
    int64OfInt? (10 * number.toInt + added)
  else
    none

/-- Reads a numeral that may have one sign, digit by digit and no further than sixty-four bits with
sign hold the number. -/
def parseSigned? (text : List Char) : Option Int64 :=
  let (negative, digits) := match text with
    | '+' :: rest => (false, rest)
    | '-' :: rest => (true, rest)
    | _ => (false, text)
  if digits.isEmpty then none else digits.foldlM (appendDigit? negative) 0

def withoutSign : List Char → List Char
  | '+' :: rest => rest
  | '-' :: rest => rest
  | text => text

def isExponent : List Char → Bool
  | [] => true
  | mark :: rest => (mark == 'e' || mark == 'E') && isNumeral (withoutSign rest)

/-- Whether a text is a number that may have a sign, a point and an exponent, or a word in any case
for infinity or for what is no number. -/
def isDecimal (text : List Char) : Bool :=
  let text := withoutSign text
  let whole := text.takeWhile Char.isDigit
  let (fraction, rest) := match text.dropWhile Char.isDigit with
    | '.' :: rest => (rest.takeWhile Char.isDigit, rest.dropWhile Char.isDigit)
    | rest => ([], rest)
  (isNumeral (whole ++ fraction) && isExponent rest) ||
    ["inf", "infinity", "nan"].contains (String.ofList (text.map Char.toLower))

def renderInt (n : Int) : String :=
  String.ofList ((if n < 0 then ['-'] else []) ++ Nat.toDigits 10 n.natAbs)

def renderNat (n : Nat) : String :=
  String.ofList (Nat.toDigits 10 n)

end HostValue
