import CommentDoc.Json.Basic
import CommentDoc.Text.Quoted

namespace CommentDoc

variable [Text.Edition]

structure Choice where
  title : String
  name : String
  label : String
deriving DecidableEq, Repr, Inhabited

def Choice.literal (m : Choice) : String :=
  "<" ++ m.title ++ "." ++ m.name ++ ": " ++ quoted m.label ++ ">"

inductive Key where
  | null
  | bool (b : Bool)
  | int (n : Int)
  | real (x : Binary64)
  | text (s : String)
  | choice (m : Choice)
deriving DecidableEq, Repr, Inhabited

inductive Value where
  | null
  | bool (b : Bool)
  | int (n : Int)
  | real (x : Binary64)
  | text (s : String)
  | choice (m : Choice)
  | octets (bs : List UInt8)
  | list (items : List Value)
  | tuple (items : List Value)
  | set (items : List Value)
  | map (entries : List (Key × Value))
deriving Inhabited

namespace Key

def label : Key → String
  | .null => "None"
  | .bool b => if b then "True" else "False"
  | .int n => toString n
  | .real x => x.text
  | .text s => s
  | .choice m => m.label

def literal : Key → String
  | .text s => quoted s
  | .choice m => m.literal
  | k => k.label

def toInt? : Key → Option Int
  | .bool b => some (if b then 1 else 0)
  | .int n => some n
  | .real x => x.toInt?
  | _ => none

def toText? : Key → Option String
  | .text s => some s
  | .choice m => some m.label
  | _ => none

/-- Two keys name the same entry when they are equal as texts or as numbers; nothing equals a
number that is not one. -/
def same (a b : Key) : Bool :=
  match a.toInt?, b.toInt?, a.toText?, b.toText? with
  | some m, some n, _, _ => m = n
  | none, none, some s, some t => s = t
  | none, none, none, none => a = b && a ≠ .real .nan
  | _, _, _, _ => false

end Key

namespace Value

def insert (entries : List (Key × Value)) (k : Key) (v : Value) : List (Key × Value) :=
  match entries with
  | [] => [(k, v)]
  | (k', v') :: rest => if k'.same k then (k', v) :: rest else (k', v') :: insert rest k v

def ofPairs (pairs : List (Key × Value)) : Value :=
  .map (pairs.foldl (fun entries p => insert entries p.1 p.2) [])

def field? (name : String) : List (Key × Value) → Option Value
  | [] => none
  | (k, v) :: rest => if k.same (.text name) then some v else field? name rest

def key? : Value → Option Key
  | .null => some .null
  | .bool b => some (.bool b)
  | .int n => some (.int n)
  | .real x => some (.real x)
  | .text s => some (.text s)
  | .choice m => some (.choice m)
  | _ => none

mutual

def same : Value → Value → Bool
  | .tuple items, .tuple others => sameItems items others
  | .octets bs, .octets cs => bs = cs
  | v, w =>
    match v.key?, w.key? with
    | some k, some l => k.same l
    | _, _ => false

def sameItems : List Value → List Value → Bool
  | [], [] => true
  | v :: rest, w :: others => same v w && sameItems rest others
  | _, _ => false

end

def typeName : Value → String
  | .null => "NoneType"
  | .bool _ => "bool"
  | .int _ => "int"
  | .real _ => "float"
  | .text _ => "str"
  | .choice m => m.title
  | .octets _ => "bytes"
  | .list _ => "list"
  | .tuple _ => "tuple"
  | .set _ => "set"
  | .map _ => "dict"

mutual

def unfit? : Value → Option Value
  | .list items => some (.list items)
  | .set items => some (.set items)
  | .map entries => some (.map entries)
  | .tuple items => unfitItem? items
  | _ => none

def unfitItem? : List Value → Option Value
  | [] => none
  | v :: rest => (unfit? v).or (unfitItem? rest)

end

def unfitMessage (v : Value) : String :=
  "unhashable type: " ++ quoted v.typeName

def addItem (items : List Value) (v : Value) : List Value :=
  if items.any (same v) then items else items ++ [v]

def integersInOrder (items : List Value) : List Value :=
  let integer? (v : Value) := v.key?.bind Key.toInt?
  if items.all fun v => (integer? v).isSome then
    items.mergeSort fun v w => (integer? v).getD 0 ≤ (integer? w).getD 0
  else items

def ofItems (items : List Value) : Value :=
  .set (integersInOrder (items.foldl addItem []))

inductive EncodeError where
  | setNotEncodable
  | tooManyDigits (limit : DigitLimit)
deriving DecidableEq, Repr

def EncodeError.message : EncodeError → String
  | .setNotEncodable => "cannot encode set as JSON"
  | .tooManyDigits limit =>
    "Exceeds the limit (" ++ toString limit.digits ++ " digits) for integer string conversion; " ++
      "use sys.set_int_max_str_digits() to increase the limit"

def checkDigits (limit : Option DigitLimit) (n : Int) : Except EncodeError Unit :=
  match limit with
  | some l => if Json.digitCount n ≤ l.digits then .ok () else .error (.tooManyDigits l)
  | none => .ok ()

def fieldName (limit : Option DigitLimit) (k : Key) : Except EncodeError String :=
  match k with
  | .int n => (checkDigits limit n).map fun _ => k.label
  | _ => .ok k.label

section

variable (limit : Option DigitLimit)

mutual

def toJson : Value → Except EncodeError Json
  | .null => .ok .null
  | .bool b => .ok (.bool b)
  | .int n => do
    checkDigits limit n
    return .int n
  | .real x => .ok (.real x)
  | .text s => .ok (.text s)
  | .choice m => .ok (.text m.label)
  | .octets bs => .ok (.array (bs.map fun b => .int b.toNat))
  | .list items => do return .array (← listToJson items)
  | .tuple items => do return .array (← listToJson items)
  | .set _ => .error .setNotEncodable
  | .map entries => do return .object (← entriesToJson entries)

def listToJson : List Value → Except EncodeError (List Json)
  | [] => .ok []
  | v :: rest => do return (← toJson v) :: (← listToJson rest)

def entriesToJson : List (Key × Value) → Except EncodeError (List (String × Json))
  | [] => .ok []
  | (k, v) :: rest => do
    let name ← fieldName limit k
    return (name, ← toJson v) :: (← entriesToJson rest)

end

def encode (v : Value) : Except EncodeError String := do
  return (← v.toJson limit).compact

end

mutual

def ofJson : Json → Value
  | .null => .null
  | .bool b => .bool b
  | .int n => .int n
  | .real x => .real x
  | .text s => .text s
  | .array items => .list (ofJsonItems items)
  | .object fields => .ofPairs (ofJsonFields fields)

def ofJsonItems : List Json → List Value
  | [] => []
  | v :: rest => ofJson v :: ofJsonItems rest

def ofJsonFields : List (String × Json) → List (Key × Value)
  | [] => []
  | (name, v) :: rest => (.text name, ofJson v) :: ofJsonFields rest

end

def quotedOctet (quote : Char) (b : UInt8) : List Char :=
  let c := Char.ofNat b.toNat
  if 0x7F ≤ b.toNat then '\\' :: 'x' :: Text.Quoted.hex 2 b.toNat else Text.Quoted.escape quote c

def quotedOctets (bs : List UInt8) : String :=
  let quote := Text.Quoted.delimiter (bs.map fun b => Char.ofNat b.toNat)
  String.ofList ('b' :: quote :: bs.flatMap (quotedOctet quote) ++ [quote])

mutual

def literal : Value → String
  | .null => "None"
  | .bool b => if b then "True" else "False"
  | .int n => toString n
  | .real x => x.text
  | .text s => quoted s
  | .choice m => m.literal
  | .octets bs => quotedOctets bs
  | .list items => "[" ++ ", ".intercalate (literalItems items) ++ "]"
  | .tuple [v] => "(" ++ literal v ++ ",)"
  | .tuple items => "(" ++ ", ".intercalate (literalItems items) ++ ")"
  | .set [] => "set()"
  | .set (v :: rest) => "\x7b" ++ ", ".intercalate (literalItems (v :: rest)) ++ "\x7d"
  | .map entries => "\x7b" ++ ", ".intercalate (literalEntries entries) ++ "\x7d"

def literalItems : List Value → List String
  | [] => []
  | v :: rest => literal v :: literalItems rest

def literalEntries : List (Key × Value) → List String
  | [] => []
  | (k, v) :: rest => (k.literal ++ ": " ++ literal v) :: literalEntries rest

end

def plain : Value → String
  | .text s => s
  | .choice m => m.label
  | v => v.literal

end Value

end CommentDoc
