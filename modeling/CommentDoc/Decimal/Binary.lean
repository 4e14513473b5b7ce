namespace CommentDoc

/-- A finite number is `mantissa * 2 ^ exponent`, with the sign kept apart so that zero has two. -/
inductive Binary64 where
  | nan
  | infinite (negative : Bool)
  | finite (negative : Bool) (mantissa : Nat) (exponent : Int)
deriving DecidableEq, Repr

namespace Binary64

def leastExponent : Int :=
  -1074

def hidden : Nat :=
  0x10000000000000

def fields : Nat :=
  2048

def ofBits (bits : UInt64) : Binary64 :=
  let n := bits.toNat
  let negative := n / (hidden * fields) == 1
  let field := n / hidden % fields
  let fraction := n % hidden
  if field + 1 = fields then
    if fraction = 0 then .infinite negative else .nan
  else if field = 0 then .finite negative fraction leastExponent
  else .finite negative (hidden + fraction) (field + leastExponent - 1)

def toInt? : Binary64 → Option Int
  | .finite negative mantissa exponent =>
    let sign : Int := if negative then -1 else 1
    if 0 ≤ exponent then some (sign * (mantissa * Nat.pow 2 exponent.toNat : Nat))
    else
      let scale := Nat.pow 2 (-exponent).toNat
      if mantissa % scale = 0 then some (sign * (mantissa / scale : Nat)) else none
  | _ => none

end Binary64

end CommentDoc
