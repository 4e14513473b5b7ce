import CommentDoc.Decimal.Numeral
import CommentDoc.Text.Utf8
import CommentDoc.Validation.Basic

namespace CommentDoc.Checked

def decoded? (bs : List UInt8) : Option (List Char) :=
  let s := Text.Utf8.decode bs
  if Text.Utf8.encode s = bs then some s else none

def string : Value → Checked String
  | .text s => .ok s
  | .choice m => .ok m.label
  | .octets bs =>
    match decoded? bs with
    | some s => .ok (String.ofList s)
    | none => fail .stringEncoding
  | _ => fail .stringType

def isNumberSpace (c : Char) : Bool :=
  Text.isBlank c && !(0x1C ≤ c.toNat && c.toNat ≤ 0x1F)

def trimNumber (s : List Char) : List Char :=
  ((s.dropWhile isNumberSpace).reverse.dropWhile isNumberSpace).reverse

/-- What follows the zeros in front of a number. Underscores may stand among them, and a minus
sign after them; of nothing but zeros the last one stays. -/
def afterZeros? (last : Char) : List Char → Option (List Char)
  | [] => some [last]
  | c :: rest =>
    if c = '0' || c = '_' then afterZeros? c rest
    else if c.isDigit || c = '-' then some (c :: rest)
    else if c = '.' then some (last :: c :: rest)
    else none

def withoutZeros? : List Char → Option (List Char)
  | [] => none
  | c :: rest =>
    if c = '0' then afterZeros? c rest
    else if c.isDigit || c = '-' then some (c :: rest)
    else none

def withoutZeroFraction (s : List Char) : List Char :=
  match s.dropWhile (· ≠ '.') with
  | _ :: d :: rest => if (d :: rest).all (· == '0') then s.takeWhile (· ≠ '.') else s
  | _ => s

def withoutUnderscores (s : List Char) : List Char :=
  let parts := Text.pieces (· == '_') s
  if parts.all (!·.isEmpty) then parts.flatten else s

def withoutPlus? : List Char → Option (List Char)
  | '+' :: rest => if rest.head? = some '-' then none else some rest
  | s => some s

def plainForm? (s : List Char) : Option (List Char) := do
  let s ← withoutZeros? (← withoutPlus? s)
  return withoutUnderscores (withoutZeroFraction s)

def digitLimit : Nat :=
  4300

def plainNatural (s : List Char) : Checked Nat :=
  let digits := s.takeWhile Char.isDigit
  if s.head? = some '0' && s.length ≠ 1 then fail .intParsing
  else if digitLimit < digits.length then fail .intParsingSize
  else if s.isEmpty || digits.length ≠ s.length then fail .intParsing
  else .ok (Decimal.Numeral.natOf s)

def plainInt : List Char → Checked Int
  | '-' :: s => (plainNatural s).map fun n => -(n : Int)
  | s => (plainNatural s).map fun n => (n : Int)

def writtenInt (s : List Char) : Checked Int :=
  let s := trimNumber s
  match plainInt s with
  | .error [⟨[], .intParsing⟩] =>
    match plainForm? s with
    | some t => plainInt t
    | none => fail .intParsing
  | result => result

def wholeLimit : Nat :=
  0x8000000000000000

def isWord (n : Int) : Bool :=
  -(wholeLimit : Int) ≤ n && n < wholeLimit

def int : Value → Checked Int
  | .int n => .ok n
  | .bool b => .ok (if b then 1 else 0)
  | .text s => writtenInt s.toList
  | .choice m => writtenInt m.label.toList
  | .octets bs =>
    match decoded? bs with
    | some s => writtenInt s
    | none => fail .intParsing
  | .real x =>
    match x with
    | .finite .. =>
      match x.toInt? with
      | some n => if n.natAbs < wholeLimit then .ok n else fail .intParsingSize
      | none => fail .intFromFloat
    | _ => fail .finiteNumber
  | _ => fail .intType

def trueWords : List String :=
  ["1", "on", "t", "true", "y", "yes"]

def falseWords : List String :=
  ["0", "off", "f", "false", "n", "no"]

def writtenBool (s : List Char) : Checked Bool :=
  let word := String.ofList (s.map Char.toLower)
  if word ∈ trueWords then .ok true
  else if word ∈ falseWords then .ok false
  else fail .boolParsing

def boolOfInt (n : Int) : Checked Bool :=
  if n = 0 then .ok false
  else if n = 1 then .ok true
  else if isWord n then fail .boolParsing
  else fail .boolType

def bool : Value → Checked Bool
  | .bool b => .ok b
  | .text s => writtenBool s.toList
  | .choice m => writtenBool m.label.toList
  | .octets bs =>
    match decoded? bs with
    | some s => writtenBool s
    | none => fail .boolParsing
  | .int n => boolOfInt n
  | .real x =>
    match x.toInt? with
    | some n => if n.natAbs < wholeLimit then boolOfInt n else fail .boolType
    | none => fail .boolType
  | _ => fail .boolType

def labelled {α : Type} [Labelled α] (s : String) : Checked α :=
  match Labelled.ofText? s with
  | some m => .ok m
  | none => fail .label

def label {α : Type} [Labelled α] : Value → Checked α
  | .text s => labelled s
  | .choice m => labelled m.label
  | .octets bs =>
    match (Labelled.members : List α).find? fun m => decoded? bs = some (Labelled.label m).toList with
    | some m => .ok m
    | none => fail .label
  | _ => fail .label

end CommentDoc.Checked

namespace CommentDoc

instance Scalars.lenient : Scalars where
  string := Checked.string
  int := Checked.int
  bool := Checked.bool
  label := Checked.label
  string_text _ := rfl
  int_int _ := rfl
  label_text h := by simp only [Checked.label, Checked.labelled, h]

end CommentDoc
