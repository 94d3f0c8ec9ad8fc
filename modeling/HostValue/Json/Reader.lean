import HostValue.Json.Basic

/-!
# Reading JSON text

A reader of JSON from left to right. Every step returns the tree and the rest of the text, or nothing
if the text is not JSON. Collections may lie at most 127 deep.
-/

namespace HostValue.Json

/-! ### Numbers

Whole numbers of sixty-four bits are read exactly. All other numbers are floats, read quickly rather
than to the last bit: as many digits as fit sixty-four bits make a float, which one power of ten then
multiplies or divides. A number beyond the greatest float is refused. -/

structure Numeral where
  negative : Bool
  whole : List Char
  fraction : Option (List Char)
  exponent : Option Int

/-- Reads digits into a number of sixty-four bits as long as they fit, and returns the digits that
are left. -/
def accumulate (significand : Nat) : List Char → Nat × List Char
  | [] => (significand, [])
  | digit :: rest =>
    let next := 10 * significand + digitValue digit
    if next < UInt64.size then accumulate next rest else (significand, digit :: rest)

def powerOfTen (exponent : Nat) : Double :=
  .ofRatio false (Nat.pow 10 exponent) 1

def greatestPower : Nat :=
  308

/-- Scales a float by a power of ten. Exponents below the least power are taken in at most `steps`
steps, after which the result is zero. -/
def scale : Nat → Double → Int → Option Double
  | steps, number, exponent =>
    if exponent.natAbs ≤ greatestPower then
      let power := powerOfTen exponent.natAbs
      if 0 ≤ exponent then
        let product := number.mul power
        if product.isInfinite then none else some product
      else
        some (number.div power)
    else if number.isZero then
      some number
    else if 0 ≤ exponent then
      none
    else
      match steps with
      | 0 => some (.zero false)
      | steps + 1 => scale steps (number.div (powerOfTen greatestPower)) (exponent + greatestPower)

def Numeral.toFloat? (numeral : Numeral) : Option Double :=
  let (wholePart, wholeRest) := accumulate 0 numeral.whole
  let fraction := numeral.fraction.getD []
  let (significand, fractionRest) := accumulate wholePart fraction
  let used : Int := (fraction.length : Int) - fractionRest.length
  let exponent := (wholeRest.length : Int) - used + numeral.exponent.getD 0
  match scale 4 (.ofInt significand) exponent with
  | none => none
  | some magnitude => some (.ofSignedWord numeral.negative magnitude.word)

def Numeral.toJson? (numeral : Numeral) : Option Json :=
  let value := digitsValue numeral.whole
  if numeral.fraction.isNone && numeral.exponent.isNone && value < UInt64.size then
    if !numeral.negative then
      some (.natural value.toUInt64)
    else if 0 < value ∧ value ≤ Nat.pow 2 63 then
      some (.negative (Int64.ofInt (-value)))
    else
      some (.float (Double.ofInt value).negate)
  else
    numeral.toFloat?.map .float

/-! ### Trees -/

def maxDepth : Nat :=
  127

def skipBlanks (text : List Char) : List Char :=
  text.dropWhile (fun c => c == ' ' || c == '\n' || c == '\t' || c == '\r')

def hexDigit? (c : Char) : Option Nat :=
  if '0' ≤ c ∧ c ≤ '9' then some (c.toNat - '0'.toNat)
  else if 'a' ≤ c ∧ c ≤ 'f' then some (c.toNat - 'a'.toNat + 10)
  else if 'A' ≤ c ∧ c ≤ 'F' then some (c.toNat - 'A'.toNat + 10)
  else none

def hexQuad? (a b c d : Char) : Option Nat := do
  return 4096 * (← hexDigit? a) + 256 * (← hexDigit? b) + 16 * (← hexDigit? c) + (← hexDigit? d)

def unescape? : Char → Option Char
  | '"' => some '"'
  | '\\' => some '\\'
  | '/' => some '/'
  | 'b' => some '\x08'
  | 'f' => some '\x0c'
  | 'n' => some '\n'
  | 'r' => some '\r'
  | 't' => some '\t'
  | _ => none

/-- Reads the characters of a string up to its closing quote. A number of sixteen bits that is half
of a character has to be followed by the other half. -/
def readString : List Char → Option (List Char × List Char)
  | [] => none
  | '"' :: rest => some ([], rest)
  | '\\' :: 'u' :: a :: b :: c :: d :: rest => do
    let unit ← hexQuad? a b c d
    if 0xD800 ≤ unit ∧ unit < 0xDC00 then
      match rest with
      | '\\' :: 'u' :: e :: f :: g :: h :: rest => do
        let low ← hexQuad? e f g h
        if 0xDC00 ≤ low ∧ low < 0xE000 then
          let (text, rest) ← readString rest
          return (Char.ofNat (0x10000 + (unit - 0xD800) * 0x400 + (low - 0xDC00)) :: text, rest)
        else
          none
      | _ => none
    else if 0xDC00 ≤ unit ∧ unit < 0xE000 then
      none
    else
      let (text, rest) ← readString rest
      return (Char.ofNat unit :: text, rest)
  | '\\' :: letter :: rest => do
    let c ← unescape? letter
    let (text, rest) ← readString rest
    return (c :: text, rest)
  | c :: rest =>
    if c.toNat < 0x20 ∨ c = '\\' then
      none
    else do
      let (text, rest) ← readString rest
      return (c :: text, rest)

def readDigits (text : List Char) : Option (List Char × List Char) :=
  let digits := text.takeWhile Char.isDigit
  if digits.isEmpty then none else some (digits, text.dropWhile Char.isDigit)

def readFraction : List Char → Option (Option (List Char) × List Char)
  | '.' :: rest => do
    let (digits, rest) ← readDigits rest
    return (some digits, rest)
  | text => some (none, text)

def readExponent : List Char → Option (Option Int × List Char)
  | [] => some (none, [])
  | mark :: rest =>
    if mark = 'e' ∨ mark = 'E' then do
      let (minus, rest) := match rest with
        | '-' :: rest => (true, rest)
        | '+' :: rest => (false, rest)
        | rest => (false, rest)
      let (digits, rest) ← readDigits rest
      let value : Int := digitsValue digits
      return (some (if minus then -value else value), rest)
    else
      some (none, mark :: rest)

/-- Reads a number behind its sign. Its whole part has no leading zero. -/
def readMagnitude (minus : Bool) (text : List Char) : Option (Json × List Char) := do
  let (whole, text) ← readDigits text
  if 1 < whole.length ∧ whole.head? = some '0' then
    none
  else do
    let (fraction, text) ← readFraction text
    let (exponent, text) ← readExponent text
    let number ← Numeral.toJson? ⟨minus, whole, fraction, exponent⟩
    return (number, text)

def readNumber : List Char → Option (Json × List Char)
  | '-' :: rest => readMagnitude true rest
  | text => readMagnitude false text

mutual

def readValue : Nat → Nat → List Char → Option (Json × List Char)
  | 0, _, _ => none
  | fuel + 1, depth, text =>
    match skipBlanks text with
    | 'n' :: 'u' :: 'l' :: 'l' :: rest => some (.null, rest)
    | 't' :: 'r' :: 'u' :: 'e' :: rest => some (.bool true, rest)
    | 'f' :: 'a' :: 'l' :: 's' :: 'e' :: rest => some (.bool false, rest)
    | '"' :: rest => do
      let (content, rest) ← readString rest
      return (.string (String.ofList content), rest)
    | '[' :: rest =>
      match depth with
      | 0 => none
      | depth + 1 =>
        match skipBlanks rest with
        | ']' :: rest => some (.array [], rest)
        | rest => do
          let (items, rest) ← readItems fuel depth rest
          return (.array items, rest)
    | '{' :: rest =>
      match depth with
      | 0 => none
      | depth + 1 =>
        match skipBlanks rest with
        | '}' :: rest => some (.object [], rest)
        | rest => do
          let (entries, rest) ← readEntries fuel depth rest
          return (.object entries, rest)
    | text => readNumber text

def readItems : Nat → Nat → List Char → Option (List Json × List Char)
  | 0, _, _ => none
  | fuel + 1, depth, text => do
    let (item, rest) ← readValue fuel depth text
    match skipBlanks rest with
    | ',' :: rest => do
      let (items, rest) ← readItems fuel depth rest
      return (item :: items, rest)
    | ']' :: rest => return ([item], rest)
    | _ => none

def readEntries : Nat → Nat → List Char → Option (List (String × Json) × List Char)
  | 0, _, _ => none
  | fuel + 1, depth, text =>
    match skipBlanks text with
    | '"' :: rest => do
      let (key, rest) ← readString rest
      match skipBlanks rest with
      | ':' :: rest => do
        let (value, rest) ← readValue fuel depth rest
        match skipBlanks rest with
        | ',' :: rest => do
          let (entries, rest) ← readEntries fuel depth rest
          return ((String.ofList key, value) :: entries, rest)
        | '}' :: rest => return ([(String.ofList key, value)], rest)
        | _ => none
      | _ => none
    | _ => none

end

/-- Reads a JSON text. The two steps for each character suffice, since every second step takes a
character. -/
def parse? (text : String) : Option Json :=
  let characters := text.toList
  match readValue (2 * characters.length + 2) maxDepth characters with
  | some (json, rest) => if (skipBlanks rest).isEmpty then some json else none
  | none => none

end HostValue.Json

namespace HostValue.Value

def ofJson? (text : String) : Option Value :=
  match Json.parse? text with
  | none => none
  | some json =>
    match json.toNode.toValue with
    | .ok value => some value
    | .error _ => none

end HostValue.Value
