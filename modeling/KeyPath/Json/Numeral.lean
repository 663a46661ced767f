import KeyPath.Json.Error
import KeyPath.Number.Basic
/-!
# Numbers in JSON text

An integer of 64 bits is kept exactly. Any other number is a significand of at most 64 bits
times a power of ten: digits that no longer fit count by their place alone. Significand, power
and their product or quotient are each rounded to a floating point number.
-/

namespace KeyPath.Json

def maxSignificand : Nat := twoTo 64 - 1

def maxExponent : Nat := twoTo 31 - 1

def digitValue (c : Char) : Nat := c.toNat - 48

/-- Append digits to a number as long as it does not exceed a bound: the number, how many digits
were taken, and the rest. -/
def appendDigits (bound value : Nat) : List Char → Nat × Nat × List Char
  | [] => (value, 0, [])
  | c :: rest =>
    if c.isDigit ∧ 10 * value + digitValue c ≤ bound then
      let (value, count, rest) := appendDigits bound (10 * value + digitValue c) rest
      (value, count + 1, rest)
    else (value, 0, c :: rest)

/-- Multiply or divide by powers of ten that a floating point number can hold. Three divisions
take any significand to zero. -/
def scale (x : Binary64) (exponent : Int) : Nat → Option Binary64
  | 0 => some x
  | divisions + 1 =>
    if exponent.natAbs ≤ 308 then
      let power := Binary64.ofNat (tenTo exponent.natAbs)
      if 0 ≤ exponent then
        let product := x.mul power
        if product.isFinite then some product else none
      else some (x.div power)
    else if x.isZero then some x
    else if 0 ≤ exponent then none
    else scale (x.div (Binary64.ofNat (tenTo 308))) (exponent + 308) divisions

/-- The number with a given sign, significand and exponent, unless it is out of range. -/
def ofScientific (negative : Bool) (significand : Nat) (exponent : Int) (rest : List Char) :
    Except Fault (Number × List Char) :=
  match scale (Binary64.ofNat significand) exponent 3 with
  | some x => .ok (.float (if negative then x.neg else x), rest)
  | none => .error (.before .numberOutOfRange rest)

/-- An integer without fraction and exponent. Zero with a sign is a floating point number. -/
def ofSignificand (negative : Bool) (significand : Nat) : Number :=
  if !negative then .integer significand
  else if 0 < significand ∧ significand ≤ twoTo 63 then .integer (-significand)
  else .float (Binary64.ofNat significand).neg

/-- Read the digits of an exponent, of which there must be one. -/
def readExponent (negative : Bool) (significand : Nat) (exponent : Int) (text : List Char) :
    Except Fault (Number × List Char) :=
  let (down, digits) := match text with
    | '+' :: rest => (false, rest)
    | '-' :: rest => (true, rest)
    | rest => (false, rest)
  match digits with
  | [] => .error (.atNext .endInValue [])
  | c :: _ =>
    if !c.isDigit then .error (.atNext .invalidNumber digits)
    else
      match appendDigits maxExponent 0 digits with
      | (value, _, rest) =>
        match rest with
        | c :: more =>
          if !c.isDigit then
            ofScientific negative significand
              (if down then exponent - value else exponent + value) rest
          else if significand ≠ 0 ∧ !down then .error (.before .numberOutOfRange more)
          else .ok (.float (.zero negative), more.dropWhile Char.isDigit)
        | [] =>
          ofScientific negative significand
            (if down then exponent - value else exponent + value) rest

/-- Continue after all digits before the exponent. -/
def readScientific (negative : Bool) (significand : Nat) (exponent : Int) (text : List Char) :
    Except Fault (Number × List Char) :=
  match text with
  | 'e' :: rest | 'E' :: rest => readExponent negative significand exponent rest
  | rest => ofScientific negative significand exponent rest

/-- Read the digits after the point, of which there must be one. -/
def readFraction (negative : Bool) (significand : Nat) (exponent : Int) (text : List Char) :
    Except Fault (Number × List Char) :=
  match text with
  | [] => .error (.atNext .endInValue [])
  | c :: _ =>
    if !c.isDigit then .error (.atNext .invalidNumber text)
    else
      match appendDigits maxSignificand significand text with
      | (significand, count, rest) =>
        readScientific negative significand (exponent - count) (rest.dropWhile Char.isDigit)

/-- Read a number after its sign. -/
def readUnsigned (negative : Bool) (text : List Char) : Except Fault (Number × List Char) :=
  match text with
  | [] => .error (.atNext .endInValue [])
  | '0' :: c :: rest =>
    if c.isDigit then .error (.atNext .invalidNumber (c :: rest))
    else continueWith 0 0 (c :: rest)
  | c :: rest =>
    if !c.isDigit then .error (.atNext .invalidNumber (c :: rest))
    else
      match appendDigits maxSignificand 0 (c :: rest) with
      | (significand, _, rest) =>
        continueWith significand (rest.takeWhile Char.isDigit).length
          (rest.dropWhile Char.isDigit)
where
  /-- Continue after the integer part, some digits of which did not fit. -/
  continueWith (significand extra : Nat) (text : List Char) :
      Except Fault (Number × List Char) :=
    match text with
    | '.' :: rest => readFraction negative significand extra rest
    | 'e' :: rest | 'E' :: rest => readExponent negative significand extra rest
    | rest =>
      if extra = 0 then .ok (ofSignificand negative significand, rest)
      else ofScientific negative significand extra rest

/-- Read a number that starts with a sign or a digit. -/
def readNumber : List Char → Except Fault (Number × List Char)
  | '-' :: rest => readUnsigned true rest
  | text => readUnsigned false text

end KeyPath.Json
