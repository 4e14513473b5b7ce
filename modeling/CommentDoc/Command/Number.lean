import CommentDoc.Decimal.Numeral
import CommentDoc.Text.Pieces

namespace CommentDoc.Number

open Decimal (Numeral)

variable [Text.Edition]

def isUnit (s : List Char) : Bool :=
  s = ['j'] || s = ['J']

def hasSign (s : List Char) : Bool :=
  s.head? = some '+' || s.head? = some '-'

def afterNumeral? (s : List Char) : Option (List Char) :=
  (Numeral.scan? s).map (·.2)

def isImaginaryPart (s : List Char) : Bool :=
  hasSign s && isUnit ((afterNumeral? s).getD (s.drop 1))

def isComplex (s : List Char) : Bool :=
  match Numeral.withoutUnderscores? (Numeral.plain s) with
  | none => false
  | some s =>
    match afterNumeral? s with
    | some rest => rest.isEmpty || isUnit rest || isImaginaryPart rest
    | none => isUnit (Numeral.sign s).2

def isBinary (c : Char) : Bool :=
  c == '0' || c == '1'

def isOctal (c : Char) : Bool :=
  '0' ≤ c && c ≤ '7'

def isHexadecimal (c : Char) : Bool :=
  c.isDigit || ('a' ≤ c && c ≤ 'f') || ('A' ≤ c && c ≤ 'F')

def digitsOf? (c : Char) : Option (Char → Bool) :=
  match c with
  | 'b' | 'B' => some isBinary
  | 'o' | 'O' => some isOctal
  | 'x' | 'X' => some isHexadecimal
  | _ => none

def isRow (isDigit : Char → Bool) (s : List Char) : Bool :=
  (Text.pieces (· == '_') s).all fun part => !part.isEmpty && part.all isDigit

def isBased (s : List Char) : Bool :=
  match (Numeral.sign (Numeral.plain s)).2 with
  | '0' :: c :: rest =>
    match digitsOf? c with
    | some isDigit => isRow isDigit (if rest.head? = some '_' then rest.drop 1 else rest)
    | none => false
  | _ => false

def isInteger (s : List Char) : Bool :=
  isRow Char.isDigit (Numeral.sign (Numeral.plain s)).2

def isRange (s : List Char) : Bool :=
  let bounds := Text.pieces (· == ':') s
  (bounds.length = 2 || bounds.length = 3) && bounds.all fun b => b.isEmpty || isInteger b

/-- Whether a token is a number. The imaginary unit with a minus sign is not: it is a flag. -/
def accepts (token : List Char) : Bool :=
  token ≠ ['-', 'j'] && token ≠ ['-', 'J'] &&
    (isComplex token || isBased token || isRange token)

end CommentDoc.Number
