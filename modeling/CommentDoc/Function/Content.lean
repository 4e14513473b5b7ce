import CommentDoc.Function.Body

namespace CommentDoc

variable [Text.Edition]

structure FunctionContent where
  name : String
  shortDescription : String
  members : List Member
  description : List Paragraph
deriving DecidableEq, Repr

inductive ContentFault where
  | blank
  | header (fault : Header.Fault) (index : Nat)
deriving DecidableEq, Repr

namespace FunctionContent

def isBlankLine (line : List Char) : Bool :=
  line.all Text.isBlank

def ofHeader (header : List Char) (body : List (List Char)) :
    Except Header.Fault FunctionContent := do
  let name ← Header.name header
  let body := Body.parse body
  return {
    name := String.ofList name
    shortDescription := String.ofList (Header.shortDescription header)
    members := body.members
    description := body.paragraphs }

def parse (captured : List String) : Except ContentFault FunctionContent :=
  let lines := captured.map String.toList
  match lines.dropWhile isBlankLine with
  | [] => .error .blank
  | header :: body =>
    (ofHeader (Text.trim header) body).mapError (.header · (lines.takeWhile isBlankLine).length)

end FunctionContent

end CommentDoc
