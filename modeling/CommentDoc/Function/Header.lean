import CommentDoc.Delimiter.Foot

namespace CommentDoc.Header

def restOfLine? (s : List Char) : Option (List Char) :=
  match s.dropWhile (· ≠ '\n') with
  | [] => some s
  | ['\n'] => some (s.takeWhile (· ≠ '\n'))
  | _ => none

def isNameChar (c : Char) : Bool :=
  c.isAlphanum || c == ':' || c == '_' || c == '+' || c == '-'

def declared? (header : List Char) : Option (List Char) :=
  match header.takeWhile Char.isAlpha, Foot.afterBlanks? (header.dropWhile Char.isAlpha) with
  | c :: word, some (d :: _) => if Foot.isNameStart d then some (c :: word) else none
  | _, _ => none

inductive Fault where
  | notFunction
  | noName
deriving DecidableEq, Repr

def leadingName (s : List Char) : Except Fault (List Char) :=
  match s.takeWhile isNameChar with
  | [] => .error .noName
  | name => .ok name

def name (header : List Char) : Except Fault (List Char) :=
  match declared? header with
  | none => leadingName header
  | some word =>
    if word = Foot.functionWord then leadingName (Text.trimStart (header.drop word.length))
    else .error .notFunction

def separated? : List Char → Option (List Char)
  | '-' :: rest =>
    match rest.takeWhile Text.isBlank, rest.dropWhile Text.isBlank with
    | b :: blanks, c :: text => (restOfLine? (c :: text)).map fun line => '-' :: b :: blanks ++ line
    | _, _ => none
  | _ => none

def separator? : List Char → Option (List Char)
  | [] => none
  | c :: rest => (if Text.isBlank c then separated? rest else none).or (separator? rest)

/-- The short description; of the separator, only a dash with one space is left out. -/
def shortDescription (header : List Char) : List Char :=
  match separator? header with
  | none => []
  | some ('-' :: ' ' :: text) => text
  | some text => text

end CommentDoc.Header
