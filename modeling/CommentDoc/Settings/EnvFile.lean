import CommentDoc.Settings.Sources
import CommentDoc.Text.Blank

/-! Files of assignments `NAME=value`. Where a statement cannot be read, the rest of that line is
passed over. A value may refer to those assigned above it, and to the environment. -/

namespace CommentDoc.EnvFile

def normalLines : List Char → List Char
  | '\r' :: '\n' :: rest => '\n' :: normalLines rest
  | '\r' :: rest => '\n' :: normalLines rest
  | c :: rest => c :: normalLines rest
  | [] => []

def isInnerBlank (c : Char) : Bool :=
  Text.isBlank c && c != '\n'

def skipBlanks (s : List Char) : List Char :=
  s.dropWhile isInnerBlank

def afterLine (s : List Char) : List Char :=
  (s.dropWhile (· ≠ '\n')).drop 1

abbrev Reading (α : Type) := Except (List Char) (α × List Char)

def exportWord : List Char :=
  ['e', 'x', 'p', 'o', 'r', 't']

def afterExport (s : List Char) : List Char :=
  if s.take exportWord.length = exportWord then
    match s.drop exportWord.length with
    | c :: rest => if isInnerBlank c then skipBlanks rest else s
    | [] => s
  else s

def isNameChar (c : Char) : Bool :=
  c ≠ '=' && c ≠ '#' && !Text.isBlank c

def name (s : List Char) : Reading (Option (List Char)) :=
  match s with
  | '#' :: _ => .ok (none, s)
  | '\'' :: rest =>
    match rest.takeWhile (· ≠ '\''), rest.dropWhile (· ≠ '\'') with
    | c :: name, _ :: after => .ok (some (c :: name), after)
    | _, _ => .error s
  | _ =>
    match s.takeWhile isNameChar with
    | [] => .error s
    | name => .ok (some name, s.dropWhile isNameChar)

/-- The text up to a closing quote, and what follows the quote. The character after a backslash
never closes it. -/
def untilQuote? (quote : Char) : List Char → Option (List Char × List Char)
  | [] => none
  | ['\\'] => none
  | '\\' :: c :: rest => (untilQuote? quote rest).map fun (s, after) => ('\\' :: c :: s, after)
  | c :: rest =>
    if c = quote then some ([], rest)
    else (untilQuote? quote rest).map fun (s, after) => (c :: s, after)

def escaped? (c : Char) : Option Char :=
  match c with
  | '\\' | '\'' | '"' => some c
  | 'a' => some '\x07'
  | 'b' => some '\x08'
  | 'f' => some '\x0c'
  | 'n' => some '\n'
  | 'r' => some '\r'
  | 't' => some '\t'
  | 'v' => some '\x0b'
  | _ => none

def singleEscaped? (c : Char) : Option Char :=
  if c = '\\' || c = '\'' then some c else none

def unescape (escaped? : Char → Option Char) : List Char → List Char
  | '\\' :: c :: rest =>
    match escaped? c with
    | some d => d :: unescape escaped? rest
    | none => '\\' :: unescape escaped? (c :: rest)
  | c :: rest => c :: unescape escaped? rest
  | [] => []

def withoutComment : List Char → List Char
  | [] => []
  | c :: rest =>
    if Text.isBlank c && (rest.dropWhile Text.isBlank).head? == some '#' then []
    else c :: withoutComment rest

def quotedValue (quote : Char) (escaped? : Char → Option Char) (s : List Char) :
    Reading (List Char) :=
  match untilQuote? quote (s.drop 1) with
  | some (value, after) => .ok (unescape escaped? value, after)
  | none => .error s

def bareValue (s : List Char) : List Char × List Char :=
  (Text.trimEnd (withoutComment (s.takeWhile (· ≠ '\n'))), s.dropWhile (· ≠ '\n'))

def value (s : List Char) : Reading (List Char) :=
  let start := skipBlanks s
  match start with
  | '\'' :: _ => quotedValue '\'' singleEscaped? start
  | '"' :: _ => quotedValue '"' escaped? start
  | '#' :: _ => .ok (if start.length < s.length then ([], start) else bareValue start)
  | _ => .ok (bareValue start)

def optionalValue (s : List Char) : Reading (Option (List Char)) :=
  match skipBlanks s with
  | '=' :: rest => (value rest).map fun (v, after) => (some v, after)
  | rest => .ok (none, rest)

def ending (s : List Char) : Except (List Char) (List Char) :=
  match skipBlanks s with
  | [] => .ok []
  | c :: rest => if c = '#' || c = '\n' then .ok (afterLine (c :: rest)) else .error s

def statement (s : List Char) : Except (List Char) (Option Assignment × List Char) := do
  let (name?, rest) ← name (afterExport s)
  let (value?, rest) ← optionalValue rest
  let rest ← ending rest
  return (name?.map fun n => (String.ofList n, value?.map String.ofList), rest)

def assignmentsFrom : (fuel : Nat) → List Char → List Assignment
  | 0, _ => []
  | fuel + 1, s =>
    match Text.trimStart s with
    | [] => []
    | start =>
      match statement start with
      | .ok (assignment?, rest) => assignment?.toList ++ assignmentsFrom fuel rest
      | .error place => assignmentsFrom fuel (afterLine place)

def assignments (s : List Char) : List Assignment :=
  let s := normalLines s
  assignmentsFrom s.length s

def reference? (s : List Char) : Option (String × String × List Char) :=
  let name := String.ofList (s.takeWhile fun c => c ≠ '\x7d' && c ≠ ':')
  match s.dropWhile fun c => c ≠ '\x7d' && c ≠ ':' with
  | '\x7d' :: rest => some (name, "", rest)
  | ':' :: '-' :: rest =>
    match rest.dropWhile (· ≠ '\x7d') with
    | _ :: after => some (name, String.ofList (rest.takeWhile (· ≠ '\x7d')), after)
    | [] => none
  | _ => none

def expandFrom (value? : String → Option String) : (fuel : Nat) → List Char → List Char
  | 0, _ => []
  | _, [] => []
  | fuel + 1, '$' :: '\x7b' :: rest =>
    match reference? rest with
    | some (name, default, after) =>
      ((value? name).getD default).toList ++ expandFrom value? fuel after
    | none => '$' :: expandFrom value? fuel ('\x7b' :: rest)
  | fuel + 1, c :: rest => c :: expandFrom value? fuel rest

def expand (value? : String → Option String) (s : String) : String :=
  String.ofList (expandFrom value? s.length s.toList)

def referencesFrom : (fuel : Nat) → List Char → List String
  | 0, _ => []
  | _, [] => []
  | fuel + 1, '$' :: '\x7b' :: rest =>
    match reference? rest with
    | some (name, _, after) => name :: referencesFrom fuel after
    | none => referencesFrom fuel ('\x7b' :: rest)
  | fuel + 1, _ :: rest => referencesFrom fuel rest

def references (s : String) : List String :=
  referencesFrom s.length s.toList

def assign (table : List Assignment) (name : String) (value : Option String) : List Assignment :=
  match table with
  | [] => [(name, value)]
  | (n, v) :: rest => if n = name then (n, value) :: rest else (n, v) :: assign rest name value

/-- What a reference stands for: a value in the file counts before the environment, and a name
without one is empty. -/
def lookup (environment : List (String × String)) (table : List Assignment) (name : String) :
    Option String :=
  match table.lookup name with
  | some value => some (value.getD "")
  | none => environment.lookup name

def table (environment : List (String × String)) (assignments : List Assignment) :
    List Assignment :=
  assignments.foldl (fun table (name, value) =>
    assign table name (value.map (expand (lookup environment table)))) []

end CommentDoc.EnvFile
