import CommentDoc.Decimal.Shortest

/-! JSON trees and their compact text. Only the backslash, the double quote and seven control
characters are escaped; every other character, the newline included, is written as it is. -/

namespace CommentDoc

inductive Json where
  | null
  | bool (b : Bool)
  | int (n : Int)
  | real (x : Binary64)
  | text (s : String)
  | array (items : List Json)
  | object (fields : List (String × Json))

/-- The most digits that an integer may have to be written. A limit can be lowered to 640 digits,
or switched off. -/
structure DigitLimit where
  digits : Nat
  least_le : 640 ≤ digits
deriving DecidableEq, Repr

def DigitLimit.standard : DigitLimit :=
  ⟨4300, by decide⟩

namespace Json

def escape (c : Char) : List Char :=
  if c = '\\' then ['\\', '\\']
  else if c = '"' then ['\\', '"']
  else if c = '\x00' then ['\\', 'u', '0', '0', '0', '0']
  else if c = '\x07' then ['\\', 'u', '0', '0', '0', '7']
  else if c = '\x08' then ['\\', 'b']
  else if c = '\t' then ['\\', 't']
  else if c = '\x0b' then ['\\', 'u', '0', '0', '0', 'b']
  else if c = '\x0c' then ['\\', 'f']
  else if c = '\r' then ['\\', 'r']
  else [c]

def renderText (s : String) : List Char :=
  '"' :: s.toList.flatMap escape ++ ['"']

def renderInt (n : Int) : List Char :=
  if n < 0 then '-' :: Nat.toDigits 10 n.natAbs else Nat.toDigits 10 n.natAbs

def digitCount (n : Int) : Nat :=
  (Nat.toDigits 10 n.natAbs).length

mutual

def render : Json → List Char
  | .null => ['n', 'u', 'l', 'l']
  | .bool true => ['t', 'r', 'u', 'e']
  | .bool false => ['f', 'a', 'l', 's', 'e']
  | .int n => renderInt n
  | .real x => x.text.toList
  | .text s => renderText s
  | .array items => '[' :: renderItems items ++ [']']
  | .object fields => '\x7b' :: renderFields fields ++ ['\x7d']

def renderItems : List Json → List Char
  | [] => []
  | [v] => render v
  | v :: w :: rest => render v ++ ',' :: renderItems (w :: rest)

def renderFields : List (String × Json) → List Char
  | [] => []
  | [(k, v)] => renderText k ++ ':' :: render v
  | (k, v) :: f :: rest => renderText k ++ ':' :: render v ++ ',' :: renderFields (f :: rest)

end

def compact (v : Json) : String :=
  String.ofList v.render

end Json

def DigitLimit.Allows (limit : Option DigitLimit) (n : Int) : Prop :=
  ∀ l ∈ limit, Json.digitCount n ≤ l.digits

instance (limit : Option DigitLimit) (n : Int) : Decidable (DigitLimit.Allows limit n) :=
  inferInstanceAs (Decidable (∀ l ∈ limit, Json.digitCount n ≤ l.digits))

end CommentDoc
