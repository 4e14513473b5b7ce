import CommentDoc.Text.Pieces

/-! File paths in their normal form: repeated slashes, dot components and a trailing slash vanish,
and two dots stay. -/

namespace CommentDoc

structure Path where
  root : String
  parts : List String
deriving DecidableEq, Repr

namespace Path

def rootOf (s : List Char) : String :=
  match (s.takeWhile (· == '/')).length with
  | 0 => ""
  | 2 => "//"
  | _ => "/"

def ofString (s : String) : Path where
  root := rootOf s.toList
  parts := ((Text.pieces (· == '/') s.toList).filter fun p => !p.isEmpty && p ≠ ['.']).map String.ofList

def text (p : Path) : String :=
  match p.root, p.parts with
  | "", [] => "."
  | root, parts => root ++ "/".intercalate parts

def name (p : Path) : String :=
  p.parts.getLast?.getD ""

def extensionOf (name : List Char) : List Char :=
  let ending := (name.reverse.takeWhile (· ≠ '.')).reverse
  let stem := name.length - ending.length
  if 1 < stem && !ending.isEmpty then ending else []

def extension (p : Path) : String :=
  String.ofList (extensionOf p.name.toList)

end Path

end CommentDoc
