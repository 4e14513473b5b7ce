import CommentDoc.Decimal.Nearest
import CommentDoc.Json.Basic

namespace CommentDoc.Json

structure Dialect where
  controls : Bool
  specials : Bool
deriving DecidableEq, Repr

namespace Reader

open Decimal (Numeral)

def isSpace (c : Char) : Bool :=
  c == ' ' || c == '\t' || c == '\n' || c == '\r'

def skip (s : List Char) : List Char :=
  s.dropWhile isSpace

def hexValue? (c : Char) : Option Nat :=
  if c.isDigit then some (c.toNat - '0'.toNat)
  else if 'a' ≤ c && c ≤ 'f' then some (c.toNat - 'a'.toNat + 10)
  else if 'A' ≤ c && c ≤ 'F' then some (c.toNat - 'A'.toNat + 10)
  else none

def unit? : List Char → Option (Nat × List Char)
  | a :: b :: c :: d :: rest => do
    let a ← hexValue? a
    let b ← hexValue? b
    let c ← hexValue? c
    let d ← hexValue? d
    return (((a * 16 + b) * 16 + c) * 16 + d, rest)
  | _ => none

def isHighSurrogate (n : Nat) : Bool :=
  0xD800 ≤ n && n < 0xDC00

def isLowSurrogate (n : Nat) : Bool :=
  0xDC00 ≤ n && n < 0xE000

/-- What stands for half of a pair without the other half. -/
def loneSurrogate : Char :=
  '\uFFFD'

def lowHalf? : List Char → Option (Nat × List Char)
  | '\\' :: 'u' :: rest => (unit? rest).filter fun (n, _) => isLowSurrogate n
  | _ => none

def coded? (s : List Char) : Option (Char × List Char) := do
  let (n, rest) ← unit? s
  if isHighSurrogate n then
    match lowHalf? rest with
    | some (low, rest) => return (.ofNat (0x10000 + (n - 0xD800) * 0x400 + (low - 0xDC00)), rest)
    | none => return (loneSurrogate, rest)
  else if isLowSurrogate n then return (loneSurrogate, rest)
  else return (.ofNat n, rest)

def escaped? : List Char → Option (Char × List Char)
  | '"' :: rest => some ('"', rest)
  | '\\' :: rest => some ('\\', rest)
  | '/' :: rest => some ('/', rest)
  | 'b' :: rest => some ('\x08', rest)
  | 'f' :: rest => some ('\x0c', rest)
  | 'n' :: rest => some ('\n', rest)
  | 'r' :: rest => some ('\r', rest)
  | 't' :: rest => some ('\t', rest)
  | 'u' :: rest => coded? rest
  | _ => none

def textFrom (d : Dialect) : (fuel : Nat) → (done : List Char) → List Char → Option (String × List Char)
  | 0, _, _ => none
  | fuel + 1, done, s =>
    match s with
    | [] => none
    | '"' :: rest => some (String.ofList done.reverse, rest)
    | '\\' :: rest =>
      match escaped? rest with
      | some (c, rest) => textFrom d fuel (c :: done) rest
      | none => none
    | c :: rest => if c.toNat < 0x20 && !d.controls then none else textFrom d fuel (c :: done) rest

def text? (d : Dialect) (fuel : Nat) (s : List Char) : Option (String × List Char) :=
  textFrom d fuel [] s

def unsigned? (negative : Bool) (s : List Char) : Option (Json × List Char) :=
  let whole := if s.head? = some '0' then ['0'] else s.takeWhile Char.isDigit
  if whole.isEmpty then none
  else
    let rest := s.drop whole.length
    let (part, rest) :=
      match Numeral.fraction rest with
      | ([], _) => ([], rest)
      | found => found
    let (e, after) := Numeral.exponent rest
    if part.isEmpty && after.length = rest.length then
      let n : Int := Numeral.natOf whole
      some (.int (if negative then -n else n), rest)
    else
      let numeral := .finite negative (Numeral.natOf (whole ++ part)) (e - part.length)
      some (.real (.ofNumeral numeral), after)

def words : List (String × Json) :=
  [("null", .null), ("true", .bool true), ("false", .bool false)]

def specials : List (String × Json) :=
  [("NaN", .real .nan), ("Infinity", .real (.infinite false)), ("-Infinity", .real (.infinite true))]

def wordsOf (d : Dialect) : List (String × Json) :=
  if d.specials then words ++ specials else words

def scalar? (d : Dialect) (fuel : Nat) (s : List Char) : Option (Json × List Char) :=
  let word := (wordsOf d).findSome? fun (word, v) => (Text.after? word.toList s).map (v, ·)
  match word, s with
  | some found, _ => some found
  | none, '"' :: rest => (text? d fuel rest).map fun (t, rest) => (.text t, rest)
  | none, '-' :: rest => unsigned? true rest
  | none, _ => unsigned? false s

mutual

def value? (d : Dialect) : (fuel : Nat) → List Char → Option (Json × List Char)
  | 0, _ => none
  | fuel + 1, s =>
    match s with
    | '[' :: rest =>
      match skip rest with
      | ']' :: rest => some (.array [], rest)
      | rest => (items? d fuel rest).map fun (vs, rest) => (.array vs, rest)
    | '\x7b' :: rest =>
      match skip rest with
      | '\x7d' :: rest => some (.object [], rest)
      | rest => (fields? d fuel rest).map fun (fs, rest) => (.object fs, rest)
    | _ => scalar? d fuel s

def items? (d : Dialect) : (fuel : Nat) → List Char → Option (List Json × List Char)
  | 0, _ => none
  | fuel + 1, s => do
    let (v, rest) ← value? d fuel s
    match skip rest with
    | ']' :: rest => return ([v], rest)
    | ',' :: rest =>
      let (vs, rest) ← items? d fuel (skip rest)
      return (v :: vs, rest)
    | _ => none

def fields? (d : Dialect) : (fuel : Nat) → List Char → Option (List (String × Json) × List Char)
  | 0, _ => none
  | fuel + 1, s => do
    let '"' :: rest := s | none
    let (name, rest) ← text? d fuel rest
    let ':' :: rest := skip rest | none
    let (v, rest) ← value? d fuel (skip rest)
    match skip rest with
    | '\x7d' :: rest => return ([(name, v)], rest)
    | ',' :: rest =>
      let (fs, rest) ← fields? d fuel (skip rest)
      return ((name, v) :: fs, rest)
    | _ => none

end

end Reader

/-- The tree that a text starts with, and what follows it. A value takes at most two steps for
each of its characters. -/
def read? (d : Dialect) (s : String) : Option (Json × List Char) :=
  let s := Reader.skip s.toList
  (Reader.value? d (2 * s.length + 1) s).map fun (v, rest) => (v, Reader.skip rest)

def parse? (s : String) : Option Json := do
  let (v, rest) ← read? ⟨false, true⟩ s
  if rest.isEmpty then some v else none

def decode? (s : String) : Option (Json × List Char) :=
  read? ⟨true, false⟩ s

end CommentDoc.Json
