import CommentDoc.Text.Edition

namespace CommentDoc.Text.Quoted

variable [Edition]

def delimiter (s : List Char) : Char :=
  if s.contains '\'' && !s.contains '"' then '"' else '\''

def hexDigit (n : Nat) : Char :=
  Nat.digitChar (n % 16)

def hex : (width n : Nat) → List Char
  | 0, _ => []
  | width + 1, n => hex width (n / 16) ++ [hexDigit n]

def escape (quote c : Char) : List Char :=
  if c = '\\' || c = quote then ['\\', c]
  else if c = '\n' then ['\\', 'n']
  else if c = '\r' then ['\\', 'r']
  else if c = '\t' then ['\\', 't']
  else if isPrintable c then [c]
  else if c.toNat < 0x100 then '\\' :: 'x' :: hex 2 c.toNat
  else if c.toNat < 0x10000 then '\\' :: 'u' :: hex 4 c.toNat
  else '\\' :: 'U' :: hex 8 c.toNat

def encode (s : List Char) : List Char :=
  let quote := delimiter s
  quote :: s.flatMap (escape quote) ++ [quote]

end CommentDoc.Text.Quoted

namespace CommentDoc

def quoted [Text.Edition] (s : String) : String :=
  String.ofList (Text.Quoted.encode s.toList)

end CommentDoc
