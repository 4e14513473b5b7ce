import CommentDoc.Decimal.Numeral
import CommentDoc.Decimal.Shortest

/-! The binary number nearest to a written one; of two equally near ones, the one with an even
mantissa. -/

namespace CommentDoc

variable [Text.Edition]

namespace Decimal

def Fraction.nearest (f : Fraction) : Nat :=
  let below := f.num / f.den
  let rest := f.num % f.den
  if 2 * rest < f.den then below
  else if f.den < 2 * rest then below + 1
  else below + below % 2

def Fraction.halve (f : Fraction) (e : Int) : Fraction :=
  if 0 ≤ e then ⟨f.num, f.den * Nat.pow 2 e.toNat⟩ else ⟨f.num * Nat.pow 2 (-e).toNat, f.den⟩

def leadingBinary (f : Fraction) : Int :=
  let guess : Int := f.num.log2 - f.den.log2
  let scaled := f.halve guess
  if scaled.den ≤ scaled.num then guess else guess - 1

end Decimal

namespace Binary64

open Decimal (Fraction Numeral)

def exponentLimit : Int :=
  972

def fractionDigits : Int :=
  52

def normal (negative : Bool) (mantissa : Nat) (exponent : Int) : Binary64 :=
  let (mantissa, exponent) :=
    if mantissa = 2 * hidden then (hidden, exponent + 1) else (mantissa, exponent)
  if exponentLimit ≤ exponent then .infinite negative else .finite negative mantissa exponent

def ofFraction (negative : Bool) (f : Fraction) : Binary64 :=
  if f.num = 0 then .finite negative 0 leastExponent
  else
    let exponent := max (Decimal.leadingBinary f - fractionDigits) leastExponent
    normal negative (f.halve exponent).nearest exponent

def placeLimit : Int :=
  400

def ofNumeral : Numeral → Binary64
  | .nan => .nan
  | .infinite negative => .infinite negative
  | .finite negative digits exponent =>
    let places := exponent + Decimal.digitCount (digits.log2 + 1) digits
    if digits = 0 ∨ places < -placeLimit then .finite negative 0 leastExponent
    else if placeLimit < places then .infinite negative
    else ofFraction negative (Fraction.scaleDown ⟨digits, 1⟩ (-exponent))

def ofText? (s : String) : Option Binary64 :=
  (Numeral.ofText? s.toList).map ofNumeral

end Binary64

end CommentDoc
