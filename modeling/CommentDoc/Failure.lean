import CommentDoc.Value

namespace CommentDoc

variable [Text.Edition]

inductive FailureKind where
  | any
  | configuration
  | extraction
  | sourceRead
  | blockContent
  | missingTitle
  | nonFunctionBlock
deriving DecidableEq, Repr

namespace FailureKind

def all : List FailureKind :=
  [.any, .configuration, .extraction, .sourceRead, .blockContent, .missingTitle, .nonFunctionBlock]

def name : FailureKind → String
  | .any => "ProcdocError"
  | .configuration => "ConfigurationError"
  | .extraction => "ExtractionError"
  | .sourceRead => "SourceReadError"
  | .blockContent => "BlockContentError"
  | .missingTitle => "MissingTitleError"
  | .nonFunctionBlock => "NonFunctionBlockError"

def ofName? (s : String) : Option FailureKind :=
  all.find? (·.name = s)

def ancestry : FailureKind → List FailureKind
  | .any => [.any]
  | .configuration => [.configuration, .any]
  | .extraction => [.extraction, .any]
  | .sourceRead => [.sourceRead, .extraction, .any]
  | .blockContent => [.blockContent, .extraction, .any]
  | .missingTitle => [.missingTitle, .blockContent, .extraction, .any]
  | .nonFunctionBlock => [.nonFunctionBlock, .blockContent, .extraction, .any]

end FailureKind

structure Failure where
  kind : FailureKind
  message : String
  details : List (String × Value)

namespace Failure

def shownDetails : List (String × String) :=
  [("file_path", "file"), ("line_number", "line number"), ("block_id", "block id"),
    ("filetype", "filetype")]

def detailTexts (f : Failure) : List String :=
  shownDetails.filterMap fun (key, title) =>
    (f.details.lookup key).map fun v => title ++ ": " ++ v.plain

def text (f : Failure) : String :=
  match f.detailTexts with
  | [] => f.message
  | texts => f.message ++ " (" ++ ", ".intercalate texts ++ ")"

end Failure

end CommentDoc
