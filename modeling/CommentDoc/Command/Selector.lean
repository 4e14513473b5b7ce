namespace CommentDoc.Selector

def functionFlags : List String :=
  ["-f", "--functions"]

def genericFlags : List String :=
  ["-g", "--generics"]

def isSelector (token : String) : Bool :=
  token ∈ functionFlags || token ∈ genericFlags

def endOfOptions : String :=
  "--"

def dropEarlier : List String → List String
  | [] => []
  | token :: rest =>
    if isSelector token && rest.any isSelector then dropEarlier rest else token :: dropEarlier rest

def keepLast (tokens : List String) : List String :=
  dropEarlier (tokens.takeWhile (· ≠ endOfOptions)) ++ tokens.dropWhile (· ≠ endOfOptions)

end CommentDoc.Selector
