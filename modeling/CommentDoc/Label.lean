import CommentDoc.Text.Blank
import CommentDoc.Text.Case
import CommentDoc.Text.Pieces
import CommentDoc.Text.Quoted

namespace CommentDoc

class Labelled (α : Type) where
  title : String
  members : List α
  name : α → String

namespace Labelled

variable {α : Type} [Labelled α]

def label (m : α) : String :=
  String.ofList ((name m).toList.map Char.toLower)

def isSeparator (c : Char) : Bool :=
  c == '-' || c == '_' || c == ' '

def parts (s : List Char) : List (List Char) :=
  (Text.pieces isSeparator (Text.lower (Text.trim s))).filter (!·.isEmpty)

def capitalised : List Char → List Char
  | [] => []
  | c :: rest => c.toUpper :: rest

def heading (m : α) : String :=
  String.ofList (Text.join [' '] ((parts (name m).toList).map capitalised))

def ofText? (s : String) : Option α :=
  let lowered := Text.lower s.toList
  match (members : List α).find? fun m => Text.lower (name m).toList = lowered with
  | some m => some m
  | none => (members : List α).find? fun m => parts (name m).toList = parts s.toList

end Labelled

inductive LabelError where
  | unknown (title text : String)
  | invalid (title literal : String)
deriving DecidableEq, Repr

def LabelError.message : LabelError → String
  | .unknown title text => text ++ " is not a valid " ++ title ++ " member"
  | .invalid title literal => literal ++ " is not a valid " ++ title

namespace Labelled

variable [Text.Edition] {α : Type} [Labelled α]

def ofText (s : String) : Except LabelError α :=
  match ofText? s with
  | some m => .ok m
  | none => .error (.unknown (title α) s)

def ofLabel (s : String) : Except LabelError α :=
  match (members : List α).find? fun m => label m = s with
  | some m => .ok m
  | none =>
    match ofText? s with
    | some m => .ok m
    | none => .error (.invalid (title α) (quoted s))

end Labelled

end CommentDoc
