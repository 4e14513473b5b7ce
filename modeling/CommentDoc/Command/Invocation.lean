namespace CommentDoc

structure Options where
  paths : List (Option String)
  functions : Bool
  generics : Bool
  output : Option String
  filetype : Option String
  quiet : Bool
deriving DecidableEq, Repr

inductive Invocation where
  | help
  | version
  | usageError
  | extract (options : Options)
deriving DecidableEq, Repr

end CommentDoc
