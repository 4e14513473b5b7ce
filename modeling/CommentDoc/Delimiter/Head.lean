import CommentDoc.Text.Blank
import CommentDoc.Text.Pieces

namespace CommentDoc

inductive CommentStyle where
  | hash
  | star
deriving DecidableEq, Repr

namespace CommentStyle

def marker : CommentStyle → List Char
  | .hash => ['#', '#']
  | .star => ['/', '*', '*']

def leadChar : CommentStyle → Char
  | .hash => '#'
  | .star => '*'

end CommentStyle

namespace Head

def isTagChar (c : Char) : Bool :=
  c ≠ '!' && !Text.isBlank c

def isEnding : List Char → Bool
  | '!' :: s => (s.dropWhile isTagChar).all Text.isBlank
  | s => s.all Text.isBlank

def accepts (style : CommentStyle) (line : List Char) : Bool :=
  match Text.after? style.marker line with
  | some rest => isEnding rest
  | none => false

def tag? (line : List Char) : Option (List Char) :=
  let backwards := line.reverse.dropWhile Text.isBlank
  let tag := backwards.takeWhile isTagChar
  match tag, backwards.dropWhile isTagChar with
  | _ :: _, '!' :: _ => some tag.reverse
  | _, _ => none

end Head

namespace Lead

/-- The text after the lead: the lead is followed by a space, or ends the line. -/
def strip? (style : CommentStyle) : List Char → Option (List Char)
  | [] => none
  | c :: rest =>
    if c = style.leadChar then
      match rest with
      | ' ' :: text => some text
      | [] => some []
      | ['\n'] => some ['\n']
      | _ => none
    else none

end Lead

end CommentDoc
