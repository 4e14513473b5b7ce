import CommentDoc.Path
import CommentDoc.Text.Quoted

/-! A name is a row of code points, and halves of pairs may stand alone in it. Those from `0xDC80`
on stand for octets that are no text; with any other half there is no file of that name. -/

namespace CommentDoc

/-- Halves of pairs in a name that stand for no octets: where the first is, which it is, and how
many halves there are from there on. -/
structure Stray where
  position : Nat
  code : Nat
  count : Nat
deriving DecidableEq, Repr

structure Input where
  file : String
  path : Path
  stray : Option Stray
deriving DecidableEq, Repr

namespace Input

def verbatim (s : String) : Input :=
  ⟨s, Path.ofString s, none⟩

def normal (s : String) : Input :=
  ⟨(Path.ofString s).text, Path.ofString s, none⟩

def isHalf (code : Nat) : Bool :=
  0xD800 ≤ code && code < 0xE000

def isOctet (code : Nat) : Bool :=
  0xDC80 ≤ code && code < 0xDD00

def textOf (name : List Nat) : List Char :=
  name.map fun code => if isHalf code then '\uFFFD' else .ofNat code

def partOf (name : List Nat) : List Char :=
  name.flatMap fun code => if isHalf code then '/' :: Text.Quoted.hex 4 code else [.ofNat code]

def pathOf (name : List Nat) : Path where
  root := Path.rootOf (textOf name)
  parts :=
    ((Text.pieces (· == '/'.toNat) name).filter fun p => !p.isEmpty && p ≠ ['.'.toNat]).map fun p =>
      String.ofList (partOf p)

def positionAfter (name : List Nat) : Nat :=
  (Path.ofString (String.ofList (textOf name ++ ['x']))).text.length - 1

def stray? (name : List Nat) : Option Stray :=
  let isStray (code : Nat) := isHalf code && !isOctet code
  match name.dropWhile (!isStray ·) with
  | [] => none
  | code :: rest =>
    some ⟨positionAfter (name.takeWhile (!isStray ·)), code, 1 + (rest.takeWhile isHalf).length⟩

def ofName (name : List Nat) : Input :=
  ⟨String.ofList (textOf name), pathOf name, stray? name⟩

end Input

end CommentDoc
