import CommentDoc.Decimal.Binary

/-! The shortest decimal that reads back as a given binary number, and its layout as text. -/

namespace CommentDoc.Decimal

structure Scaled where
  digits : Nat
  exponent : Int
deriving DecidableEq, Repr

structure Fraction where
  num : Nat
  den : Nat

namespace Fraction

def ofBinary (n : Nat) (e : Int) : Fraction :=
  if 0 ≤ e then ⟨n * Nat.pow 2 e.toNat, 1⟩ else ⟨n, Nat.pow 2 (-e).toNat⟩

def scaleDown (f : Fraction) (e : Int) : Fraction :=
  if 0 ≤ e then ⟨f.num, f.den * Nat.pow 10 e.toNat⟩ else ⟨f.num * Nat.pow 10 (-e).toNat, f.den⟩

end Fraction

def digitCount : (fuel n : Nat) → Nat
  | 0, _ => 0
  | fuel + 1, n => if n = 0 then 0 else digitCount fuel (n / 10) + 1

def leadingExponent (f : Fraction) : Int :=
  let guess : Int := digitCount (f.num.log2 + 1) f.num - digitCount (f.den.log2 + 1) f.den
  let scaled := f.scaleDown guess
  if scaled.den ≤ scaled.num then guess else guess - 1

/-- The numbers that round to `mantissa * 2 ^ exponent`: between `low` and `high`, ends included
iff `closed`. -/
structure Interval where
  low : Fraction
  high : Fraction
  closed : Bool

def interval (mantissa : Nat) (exponent : Int) : Interval where
  low :=
    if mantissa = Binary64.hidden ∧ Binary64.leastExponent < exponent then
      .ofBinary (4 * mantissa - 1) (exponent - 2)
    else .ofBinary (2 * mantissa - 1) (exponent - 1)
  high := .ofBinary (2 * mantissa + 1) (exponent - 1)
  closed := mantissa % 2 = 0

def Interval.holds (i : Interval) (d : Scaled) : Bool :=
  let low := i.low.scaleDown d.exponent
  let high := i.high.scaleDown d.exponent
  if i.closed then low.num ≤ d.digits * low.den && d.digits * high.den ≤ high.num
  else low.num < d.digits * low.den && d.digits * high.den < high.num

def onGrid (f : Fraction) (i : Interval) (e : Int) : Option Scaled :=
  let scaled := f.scaleDown e
  let below : Scaled := ⟨scaled.num / scaled.den, e⟩
  let above : Scaled := ⟨below.digits + 1, e⟩
  let rest := scaled.num % scaled.den
  match i.holds below, i.holds above with
  | false, false => none
  | true, false => some below
  | false, true => some above
  | true, true =>
    if 2 * rest < scaled.den then some below
    else if scaled.den < 2 * rest then some above
    else if below.digits % 2 = 0 then some below else some above

/-- Tries ever finer grids; the seventeenth digit always suffices. -/
def search (f : Fraction) (i : Interval) : (grids : Nat) → Int → Scaled
  | 0, e => ⟨f.num / f.den, e⟩
  | grids + 1, e => (onGrid f i e).getD (search f i grids (e - 1))

def shortest (mantissa : Nat) (exponent : Int) : Scaled :=
  let f := Fraction.ofBinary mantissa exponent
  search f (interval mantissa exponent) 17 (leadingExponent f)

structure Layout where
  leastPositional : Int
  mostPositional : Int
  exponentWidth : Nat
  nan : String
  infinity : String

def dropTrailingZeros (s : List Char) : List Char :=
  (s.reverse.dropWhile (· == '0')).reverse

def padLeft (width : Nat) (s : List Char) : List Char :=
  List.replicate (width - s.length) '0' ++ s

namespace Layout

def exponent (l : Layout) (e : Int) : List Char :=
  (if e < 0 then '-' else '+') :: padLeft l.exponentWidth (Nat.toDigits 10 e.natAbs)

def positive (l : Layout) (ds : List Char) (e : Int) : List Char :=
  if l.leastPositional ≤ e ∧ e ≤ l.mostPositional then
    if e < 0 then '0' :: '.' :: List.replicate (-e - 1).toNat '0' ++ ds
    else
      let whole := (ds ++ List.replicate (e.toNat + 1 - ds.length) '0').take (e.toNat + 1)
      let part := ds.drop (e.toNat + 1)
      whole ++ '.' :: (if part.isEmpty then ['0'] else part)
  else
    match ds with
    | [] => []
    | [d] => d :: 'e' :: l.exponent e
    | d :: rest => d :: '.' :: rest ++ 'e' :: l.exponent e

def finite (l : Layout) (mantissa : Nat) (exponent : Int) : List Char :=
  if mantissa = 0 then ['0', '.', '0']
  else
    let d := shortest mantissa exponent
    let all := Nat.toDigits 10 d.digits
    l.positive (dropTrailingZeros all) (d.exponent + all.length - 1)

def text (l : Layout) : Binary64 → String
  | .nan => l.nan
  | .infinite negative => if negative then "-" ++ l.infinity else l.infinity
  | .finite negative mantissa exponent =>
    let body := String.ofList (l.finite mantissa exponent)
    if negative then "-" ++ body else body

end Layout

end CommentDoc.Decimal

namespace CommentDoc

/-- Numbers from one ten-thousandth to below ten thousand million millions are written
positionally, all others with an exponent of two digits or more. -/
def Binary64.layout : Decimal.Layout where
  leastPositional := -4
  mostPositional := 15
  exponentWidth := 2
  nan := "nan"
  infinity := "inf"

def Binary64.text (x : Binary64) : String :=
  layout.text x

end CommentDoc
