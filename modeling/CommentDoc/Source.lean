import CommentDoc.Text.Blank
import CommentDoc.Text.Pieces
import CommentDoc.Text.Utf8

/-! Only the newline ends a line; a last line without one counts, and an empty one does not. -/

namespace CommentDoc.Source

open Text.Utf8 (Octets)

def withoutEmptyLast {α : Type} [DecidableEq α] (ls : List (List α)) : List (List α) :=
  if ls.getLast? = some [] then ls.dropLast else ls

def splitLines (s : List Char) : List (List Char) :=
  withoutEmptyLast (Text.pieces (· == '\n') s)

def lines (octets : Octets) : List String :=
  (splitLines (Text.Utf8.decode octets)).map String.ofList

structure Line where
  number : Nat
  text : String
deriving DecidableEq, Repr

def numbered (octets : Octets) : List Line :=
  ((lines octets).zipIdx 1).map fun (text, number) => ⟨number, text⟩

def unindented (line : String) : List Char :=
  line.toList.dropWhile Text.isIndent

def ended (octets : Octets) : Octets :=
  (octets.reverse.dropWhile (· ≠ 0x0A)).reverse

def afterLines : (n : Nat) → Octets → Octets
  | 0, bs => bs
  | n + 1, bs => afterLines n ((bs.dropWhile (· ≠ 0x0A)).drop 1)

end CommentDoc.Source
