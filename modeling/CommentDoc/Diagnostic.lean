import CommentDoc.Label

namespace CommentDoc

inductive Severity where
  | warning
  | error
deriving DecidableEq, Repr

instance : Labelled Severity where
  title := "Severity"
  members := [.warning, .error]
  name
    | .warning => "WARNING"
    | .error => "ERROR"

structure Diagnostic where
  severity : Severity
  message : String
  file : String
  line : Nat
deriving DecidableEq, Repr

def Diagnostic.text (d : Diagnostic) : String :=
  d.file ++ ":" ++ toString d.line ++ ": " ++ d.message

end CommentDoc
