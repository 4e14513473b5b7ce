import CommentDoc.Command.Invocation
import CommentDoc.Command.Number
import CommentDoc.Command.Selector
import CommentDoc.Json.Reader
import CommentDoc.Value

/-! Options may stand before, between and after the paths. A token that is a JSON list stands for
the paths in it. -/

namespace CommentDoc

variable [Text.Edition]

inductive OptionName where
  | functions
  | generics
  | output
  | filetype
  | quiet
deriving DecidableEq, Repr

namespace OptionName

def all : List OptionName :=
  [.functions, .generics, .output, .filetype, .quiet]

def long : OptionName → String
  | .functions => "--functions"
  | .generics => "--generics"
  | .output => "--output"
  | .filetype => "--type"
  | .quiet => "--quiet"

def short : OptionName → Char
  | .functions => 'f'
  | .generics => 'g'
  | .output => 'o'
  | .filetype => 't'
  | .quiet => 'q'

def takesValue : OptionName → Bool
  | .output => true
  | .filetype => true
  | _ => false

def ofShort? (c : Char) : Option OptionName :=
  all.find? (·.short = c)

def ofToken? (token : String) : Option OptionName :=
  all.find? fun o => token = o.long || token.toList = ['-', o.short]

end OptionName

namespace Options

structure Draft where
  left : List String
  given : List (OptionName × String)

def Draft.give? (d : Draft) (o : OptionName) (value : String) : Option Draft :=
  if (d.given.lookup o).isSome then none else some { d with given := d.given ++ [(o, value)] }

def Draft.leave (d : Draft) (token : String) : Draft :=
  { d with left := d.left ++ [token] }

def looksLikeOption (token : String) : Bool :=
  token.toList.head? = some '-' && !Number.accepts token.toList

def setFlag : String :=
  "true"

abbrev Pending := Option OptionName

def cluster (d : Draft) : List Char → Option (Draft × Pending)
  | [] => some (d, none)
  | c :: rest =>
    match OptionName.ofShort? c with
    | none => cluster (d.leave (String.ofList ['-', c])) rest
    | some o =>
      if o.takesValue then
        if rest.isEmpty then some (d, some o)
        else (d.give? o (String.ofList rest)).map (·, none)
      else
        match d.give? o setFlag with
        | some d => cluster d rest
        | none => none

def cut (token : String) : String × Option String :=
  match token.toList.dropWhile (· ≠ '=') with
  | '=' :: value => (String.ofList (token.toList.takeWhile (· ≠ '=')), some (String.ofList value))
  | _ => (token, none)

def readOption (d : Draft) (token : String) : Option (Draft × Pending) :=
  let (name, value) := cut token
  match OptionName.ofToken? name, value with
  | some o, some value => (d.give? o value).map (·, none)
  | some o, none => if o.takesValue then some (d, some o) else (d.give? o setFlag).map (·, none)
  | none, _ =>
    match token.toList with
    | '-' :: c :: e :: rest =>
      if c = '-' then some (d.leave token, none) else cluster d (c :: e :: rest)
    | _ => some (d.leave token, none)

def read (d : Draft) : Pending → List String → Option Draft
  | none, [] => some d
  | some _, [] => none
  | some o, token :: rest =>
    if looksLikeOption token then none
    else
      match d.give? o token with
      | some d => read d none rest
      | none => none
  | none, token :: rest =>
    if looksLikeOption token then
      match readOption d token with
      | some (d, pending) => read d pending rest
      | none => none
    else read (d.leave token) none rest

def flag? (given : List (OptionName × String)) (o : OptionName) : Option Bool :=
  match given.lookup o with
  | none => some false
  | some value =>
    let word := String.ofList (value.toList.map Char.toLower)
    if word ∈ ["yes", "y", "1", "true", "t"] then some true
    else if word ∈ ["no", "n", "0", "false", "f"] then some false
    else none

def pathTokens? (tokens : List String) : Option (List String) :=
  let before := tokens.takeWhile (· ≠ Selector.endOfOptions)
  if before.any looksLikeOption then none
  else some (before ++ (tokens.dropWhile (· ≠ Selector.endOfOptions)).drop 1)

/-- A path in a list may be any value, which is then written out. -/
def listedPath : Value → Option String
  | .null => none
  | v => some v.plain

def pathsOf? (token : String) : Option (List (Option String)) :=
  if (Text.trim token.toList).head? = some '[' then
    match Json.parse? token with
    | some (.array items) => some (items.map fun v => listedPath (.ofJson v))
    | _ => none
  else some [some token]

def paths? (tokens : List String) : Option (List (Option String)) := do
  let paths ← tokens.mapM pathsOf?
  if paths.flatten.isEmpty && !tokens.isEmpty then none else some paths.flatten

def parse? (tokens : List String) : Option Options := do
  let before := tokens.takeWhile (· ≠ Selector.endOfOptions)
  let d ← read ⟨[], []⟩ none before
  let paths ← pathTokens? (d.left ++ tokens.drop before.length)
  return {
    paths := ← paths? paths
    functions := ← flag? d.given .functions
    generics := ← flag? d.given .generics
    output := d.given.lookup .output
    filetype := d.given.lookup .filetype
    quiet := ← flag? d.given .quiet }

end Options

namespace Invocation

def helpFlags : List String :=
  ["--help", "-h"]

def versionFlags : List String :=
  ["--version", "-v"]

def read (tokens : List String) : Invocation :=
  let options := tokens.takeWhile (· ≠ Selector.endOfOptions)
  if options.any (· ∈ helpFlags) then .help
  else if options.any (· ∈ versionFlags) then .version
  else
    match Options.parse? tokens with
    | some options => .extract options
    | none => .usageError

def parse (tokens : List String) : Invocation :=
  read (Selector.keepLast tokens)

end Invocation

end CommentDoc
