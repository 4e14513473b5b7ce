import CommentDoc.Value

namespace CommentDoc

def at? {α : Type} (items : List α) (index : Int) : Option α :=
  let position := if index < 0 then index + items.length else index
  if position < 0 then none else items[position.toNat]?

inductive IndexError where
  | outOfRange
  | tooLarge
  | notInteger (type : String)
deriving DecidableEq, Repr

def IndexError.message (container : String) : IndexError → String
  | .outOfRange => container ++ " index out of range"
  | .tooLarge => "cannot fit 'int' into an index-sized integer"
  | .notInteger type => container ++ " indices must be integers or slices, not " ++ type

def indexLimit : Int :=
  0x8000000000000000

def itemAt {α : Type} (items : List α) (index : Int) : Except IndexError α :=
  if index < -indexLimit ∨ indexLimit ≤ index then .error .tooLarge
  else
    match at? items index with
    | some a => .ok a
    | none => .error .outOfRange

def item {α : Type} (items : List α) : Value → Except IndexError α
  | .int n => itemAt items n
  | .bool b => itemAt items (if b then 1 else 0)
  | v => .error (.notInteger v.typeName)

end CommentDoc
