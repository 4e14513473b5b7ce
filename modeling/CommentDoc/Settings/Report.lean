import CommentDoc.Settings.Sources
import CommentDoc.Validation.Basic

namespace CommentDoc

variable [Text.Edition]

def fitting : (room : Nat) → (s : List Char) → List Char
  | _, [] => []
  | room, c :: rest => if c.utf8Size ≤ room then c :: fitting (room - c.utf8Size) rest else []

def abbreviated (s : String) : String :=
  if s.utf8ByteSize ≤ 50 then s
  else
    String.ofList (fitting 25 s.toList) ++ "..." ++
      String.ofList (fitting 24 s.toList.reverse).reverse

namespace Settings

def issueMessage : IssueKind → String
  | .label => "Input should be 'all', 'function' or 'generic'"
  | .boolParsing => "Input should be a valid boolean, unable to interpret input"
  | .intParsing => "Input should be a valid integer, unable to parse string as an integer"
  | .intParsingSize => "Unable to parse input string as an integer, exceeded maximum size"
  | .custom message => "Value error, " ++ message
  | kind => kind.name

def stepName : Step → String
  | .field name => name
  | .index n => toString n

def issueText (sources : Sources) (issue : Issue) : String :=
  let place := ".".intercalate (issue.place.map stepName)
  let value := ((sources.value? place).map Value.literal).getD "None"
  "\n" ++ place ++ "\n  " ++ issueMessage issue.kind ++ " [type=" ++ issue.kind.name ++
    ", input_value=" ++ abbreviated value ++ ", input_type=str]"

def invalidText (sources : Sources) (invalid : Invalid) : String :=
  let count := invalid.issues.length
  let noun := if count = 1 then " validation error for " else " validation errors for "
  toString count ++ noun ++ invalid.model ++ String.join (invalid.issues.map (issueText sources))

end Settings

end CommentDoc
