import CommentDoc.Label

namespace CommentDoc

inductive BlockKind where
  | generic
  | function
deriving DecidableEq, Repr

inductive Selection where
  | all
  | function
  | generic
deriving DecidableEq, Repr

instance : Labelled BlockKind where
  title := "BlockKind"
  members := [.generic, .function]
  name
    | .generic => "GENERIC"
    | .function => "FUNCTION"

instance : Labelled Selection where
  title := "BlockSelection"
  members := [.all, .function, .generic]
  name
    | .all => "ALL"
    | .function => "FUNCTION"
    | .generic => "GENERIC"

def Selection.admits : Selection → BlockKind → Bool
  | .all, _ => true
  | .function, k => k = .function
  | .generic, k => k = .generic

end CommentDoc
