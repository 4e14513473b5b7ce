import CommentDoc.Text.Blank
import CommentDoc.Text.Pieces

/-! Foot lines: a closing mark alone on its line, or the first line of a function's definition. -/

namespace CommentDoc

inductive Foot where
  | mark (text : List Char)
  | scriptFunction
  | shellFunction
deriving DecidableEq, Repr

namespace Foot

def afterName? (first other : Char → Bool) : List Char → Option (List Char)
  | [] => none
  | c :: rest => if first c then some (rest.dropWhile other) else none

def afterBlanks? : List Char → Option (List Char)
  | [] => none
  | c :: rest => if Text.isBlank c then some (Text.trimStart rest) else none

def isNameStart (c : Char) : Bool :=
  c.isAlpha || c == '_'

def isScriptName (c : Char) : Bool :=
  c.isAlphanum || c == '_'

def isShellName (c : Char) : Bool :=
  c.isAlphanum || c == '_' || c == '.' || c == ':' || c == '+' || c == '-'

def beginsWith (c : Char) (s : List Char) : Bool :=
  s.head? == some c

def isScriptDefinition (s : List Char) : Bool :=
  match afterName? isNameStart isScriptName s with
  | some rest => beginsWith '(' (Text.trimStart rest)
  | none => false

def isShellDefinition (s : List Char) : Bool :=
  match afterName? isNameStart isShellName s with
  | some rest =>
    match Text.trimStart rest with
    | '(' :: inner => beginsWith ')' (Text.trimStart inner)
    | _ => false
  | none => false

def isDeclared (word : List Char) (rest : List Char → Bool) (s : List Char) : Bool :=
  match (Text.after? word s).bind afterBlanks? with
  | some s' => rest s'
  | none => false

def functionWord : List Char :=
  ['f', 'u', 'n', 'c', 't', 'i', 'o', 'n']

def funcWord : List Char :=
  ['f', 'u', 'n', 'c']

def accepts : Foot → List Char → Bool
  | .mark text, line =>
    match Text.after? text line with
    | some rest => rest.all Text.isBlank
    | none => false
  | .scriptFunction, line =>
    isDeclared functionWord isScriptDefinition line || isDeclared funcWord isScriptDefinition line
  | .shellFunction, line =>
    isDeclared functionWord isShellDefinition line || isShellDefinition line

end Foot

end CommentDoc
