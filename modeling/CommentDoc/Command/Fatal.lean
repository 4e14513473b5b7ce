import CommentDoc.Command.Packages
import CommentDoc.Run.Basic

namespace CommentDoc

variable [Text.Edition] [Packages]

inductive Fatal where
  | settings (sources : Settings.Sources) (invalid : Invalid)
  | exclusiveSelectors
  | noInputFiles
  | noFile (path : String)
  | noOutput (path : String)
  | unreadable (error : ReadError)

namespace Fatal

def message : Fatal → String
  | .settings sources invalid => Packages.invalidText sources invalid
  | .exclusiveSelectors => "--functions and --generics are mutually exclusive"
  | .noInputFiles => "no input files"
  | .noFile path => "file does not exist: " ++ path
  | .noOutput path => "unable to create output file: " ++ path
  | .unreadable e => e.message

def shown (f : Fatal) : String :=
  Packages.shown "procdoc fatal: " f.message ++ "\n"

end Fatal

end CommentDoc
