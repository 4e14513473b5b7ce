import CommentDoc.Function.Header
import CommentDoc.Text.Edition

/-! The body of a function block: members, each introduced by a line `@name: ...`, and paragraphs,
each of which may begin with a heading. -/

namespace CommentDoc

variable [Text.Edition]

structure Member where
  name : String
  description : String
deriving DecidableEq, Repr

structure Paragraph where
  heading : String
  paragraph : String
deriving DecidableEq, Repr

structure Body where
  members : List Member
  paragraphs : List Paragraph
deriving DecidableEq, Repr

namespace Body

def empty : Body :=
  ⟨[], []⟩

def append (a b : Body) : Body :=
  ⟨a.members ++ b.members, a.paragraphs ++ b.paragraphs⟩

def isMemberChar (c : Char) : Bool :=
  c ≠ ':' && !Text.isBlank c

def member? : List Char → Option (List Char × List Char)
  | '@' :: line =>
    match line.takeWhile isMemberChar, line.dropWhile isMemberChar with
    | c :: name, ':' :: rest => (Header.restOfLine? rest).map ((c :: name, ·))
    | _, _ => none
  | _ => none

def isHeadingChar (c : Char) : Bool :=
  Text.isWord c || c == ' '

def heading? (line : List Char) : Option (List Char × List Char) :=
  match line.takeWhile isHeadingChar, line.dropWhile isHeadingChar with
  | c :: heading, ':' :: rest => (Header.restOfLine? rest).map ((c :: heading, ·))
  | _, _ => none

def joined (pieces : List (List Char)) : String :=
  String.ofList (Text.join [' '] (pieces.filter (!·.isEmpty)))

def returnName : List Char :=
  ['r', 'e', 't', 'u', 'r', 'n']

def memberName (name : List Char) : String :=
  String.ofList (if name = returnName then '@' :: name else name)

def runs (lines : List (List Char)) : List (List (List Char)) :=
  (Text.pieces List.isEmpty (lines.map Text.trim)).filter (!·.isEmpty)

def membersOf : List (List Char) → List (List Char) × List Member
  | [] => ([], [])
  | line :: rest =>
    let (lines, members) := membersOf rest
    match member? line with
    | some (name, text) => ([], ⟨memberName name, joined (Text.trim text :: lines)⟩ :: members)
    | none => (line :: lines, members)

def paragraphOf (line : List Char) (rest : List (List Char)) : Paragraph :=
  match heading? line with
  | some (heading, text) =>
    ⟨String.ofList (Text.trim heading), joined (Text.trim text :: rest)⟩
  | none => ⟨"", joined (line :: rest)⟩

def ofRun : List (List Char) → Body
  | [] => empty
  | line :: rest =>
    match member? line with
    | some _ => ⟨(membersOf (line :: rest)).2, []⟩
    | none => ⟨[], [paragraphOf line rest]⟩

def parse (lines : List (List Char)) : Body :=
  (runs lines).foldr (fun run body => (ofRun run).append body) empty

end Body

end CommentDoc
