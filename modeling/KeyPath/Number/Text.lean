import KeyPath.Number.Shortest
import KeyPath.Text.Numeral
/-!
# Floating point numbers as text

A number is written with the fewest digits that identify it, in positional notation for
moderate magnitudes and with an exponent otherwise. A format says where positional notation
ends and how the exceptional values are spelled.
-/

namespace KeyPath

open Text

/-- The choices that differ between the places where numbers are written. -/
structure FloatFormat where
  /-- The least decimal exponent of the first digit that is written positionally. -/
  leastPositional : Int
  /-- The greatest decimal exponent of the first digit that is written positionally. -/
  greatestPositional : Int
  signsExponent : Bool
  tie : Decimal.Tie
  nan : List Char
  infinity : List Char
  negativeInfinity : List Char

namespace FloatFormat

/-- Positional notation, with a digit on either side of the point. -/
def positional (digits : List Char) (exponent : Int) : List Char :=
  if 0 ≤ exponent then digits ++ List.replicate exponent.toNat '0' ++ ['.', '0']
  else
    let places := (-exponent).toNat
    if digits.length ≤ places then
      '0' :: '.' :: List.replicate (places - digits.length) '0' ++ digits
    else digits.take (digits.length - places) ++ '.' :: digits.drop (digits.length - places)

/-- Notation with one digit before the point and an exponent; the point stands only before
further digits. -/
def scientific (signsExponent : Bool) (digits : List Char) (leading : Int) : List Char :=
  let mantissa := match digits with
    | [] => []
    | [d] => [d]
    | d :: rest => d :: '.' :: rest
  let sign := if signsExponent ∧ 0 ≤ leading then ['+'] else []
  mantissa ++ 'e' :: sign ++ Numeral.writeInt leading

/-- Write the decimal of a positive number. -/
def writeDecimal (format : FloatFormat) (x : Decimal) : List Char :=
  let digits := Numeral.writeNat x.coefficient
  let leading := x.exponent + digits.length - 1
  if format.leastPositional ≤ leading ∧ leading ≤ format.greatestPositional then
    positional digits x.exponent
  else scientific format.signsExponent digits leading

def write (format : FloatFormat) : Binary64 → List Char
  | .nan => format.nan
  | .infinite false => format.infinity
  | .infinite true => format.negativeInfinity
  | .finite negative significand exponent _ =>
    let sign := if negative then ['-'] else []
    if significand = 0 then sign ++ ['0', '.', '0']
    else sign ++ format.writeDecimal (Decimal.shortest format.tie significand exponent)

/-- The inspect form: positional from `1e-4` to below `1e16`. -/
def inspect : FloatFormat where
  leastPositional := -4
  greatestPositional := 15
  signsExponent := false
  tie := .up
  nan := ['N', 'a', 'N']
  infinity := ['i', 'n', 'f']
  negativeInfinity := ['-', 'i', 'n', 'f']

/-- The JSON form: positional from `1e-5` to below `1e16`; JSON has no infinities and no NaN. -/
def json : FloatFormat where
  leastPositional := -5
  greatestPositional := 15
  signsExponent := true
  tie := .toEven
  nan := ['n', 'u', 'l', 'l']
  infinity := ['n', 'u', 'l', 'l']
  negativeInfinity := ['n', 'u', 'l', 'l']

end FloatFormat

end KeyPath
