import CommentDoc.Text.Blank
import CommentDoc.Text.Edition
import CommentDoc.Text.Pieces

namespace CommentDoc.Decimal

/-- A finite numeral stands for `digits * 10 ^ exponent`. -/
inductive Numeral where
  | nan
  | infinite (negative : Bool)
  | finite (negative : Bool) (digits : Nat) (exponent : Int)
deriving DecidableEq, Repr

namespace Numeral

variable [Text.Edition]

def plainChar (c : Char) : Char :=
  if c.toNat < 0x7F then c
  else if Text.isBlank c then ' '
  else
    match Text.decimalValue? c with
    | some n => Nat.digitChar n
    | none => c

def isSpace (c : Char) : Bool :=
  c == ' ' || (0x09 ≤ c.toNat && c.toNat ≤ 0x0D)

def plain (s : List Char) : List Char :=
  (((s.map plainChar).dropWhile isSpace).reverse.dropWhile isSpace).reverse

def withoutUnderscores? : List Char → Option (List Char)
  | a :: '_' :: b :: rest =>
    if a.isDigit && b.isDigit then (withoutUnderscores? (b :: rest)).map (a :: ·) else none
  | '_' :: _ => none
  | [_, '_'] => none
  | c :: rest => (withoutUnderscores? rest).map (c :: ·)
  | [] => some []

def natOf (digits : List Char) : Nat :=
  digits.foldl (fun n c => 10 * n + (c.toNat - '0'.toNat)) 0

def sign : List Char → Bool × List Char
  | '-' :: rest => (true, rest)
  | '+' :: rest => (false, rest)
  | s => (false, s)

def exponent (s : List Char) : Int × List Char :=
  match s with
  | c :: rest =>
    let (negative, rest) := sign rest
    let digits := rest.takeWhile Char.isDigit
    if (c = 'e' || c = 'E') && !digits.isEmpty then
      (if negative then -(natOf digits : Int) else natOf digits, rest.dropWhile Char.isDigit)
    else (0, s)
  | [] => (0, [])

def fraction (s : List Char) : List Char × List Char :=
  match s with
  | '.' :: rest => (rest.takeWhile Char.isDigit, rest.dropWhile Char.isDigit)
  | _ => ([], s)

def words : List (String × (Bool → Numeral)) :=
  [("infinity", .infinite), ("inf", .infinite), ("nan", fun _ => .nan)]

def word? (negative : Bool) (s : List Char) : Option (Numeral × List Char) :=
  words.findSome? fun (word, numeral) =>
    if (s.take word.length).map Char.toLower = word.toList then
      some (numeral negative, s.drop word.length)
    else none

def scan? (s : List Char) : Option (Numeral × List Char) :=
  let (negative, s) := sign s
  let whole := s.takeWhile Char.isDigit
  let (part, rest) := fraction (s.dropWhile Char.isDigit)
  if whole.isEmpty && part.isEmpty then word? negative s
  else
    let (e, rest) := exponent rest
    some (.finite negative (natOf (whole ++ part)) (e - part.length), rest)

def ofText? (s : List Char) : Option Numeral := do
  let s ← withoutUnderscores? (plain s)
  match ← scan? s with
  | (n, []) => some n
  | _ => none

end Numeral

end CommentDoc.Decimal
