import CommentDoc.Block.Kind
import CommentDoc.Delimiter.Foot
import CommentDoc.Delimiter.Head
import CommentDoc.Path

namespace CommentDoc

variable [Text.Edition]

inductive Family where
  | script
  | shell
  | cLike
  | fallback
deriving DecidableEq, Repr

instance : Labelled Family where
  title := "FiletypeFamily"
  members := [.script, .shell, .cLike, .fallback]
  name
    | .script => "SCRIPT"
    | .shell => "SHELL"
    | .cLike => "C_LIKE"
    | .fallback => "DEFAULT"

structure Marks where
  style : CommentStyle
  foot : Foot
deriving DecidableEq, Repr

/-- The marks of both kinds of block. Without function marks, no function block is ever opened or
closed by its own marks. -/
structure Delimiters where
  family : Family
  generic : Marks
  function : Option Marks
deriving DecidableEq, Repr

namespace Family

def filetypes : Family → List String
  | .script => ["awk", "gawk", "mawk", "nawk"]
  | .shell => ["sh", "ash", "bash", "dash", "ksh", "mksh", "zsh", "bats"]
  | .cLike =>
    ["c", "h", "cc", "cpp", "cxx", "c++", "hh", "hpp", "hxx", "h++", "m", "mm", "java", "js", "mjs",
      "cjs", "ts", "cs", "php", "css"]
  | .fallback => []

def withoutNewline (s : List Char) : List Char :=
  if s.getLast? = some '\n' then s.dropLast else s

def claims (family : Family) (filetype : String) : Bool :=
  family = .fallback ||
    family.filetypes.any fun known => known.toList = Text.fold (withoutNewline filetype.toList)

def hashMarks : Marks where
  style := .hash
  foot := .mark ['#', '#']

def delimiters (family : Family) : Delimiters where
  family := family
  generic :=
    match family with
    | .cLike => ⟨.star, .mark ['*', '*', '/']⟩
    | _ => hashMarks
  function :=
    match family with
    | .script => some ⟨.hash, .scriptFunction⟩
    | .shell => some ⟨.hash, .shellFunction⟩
    | .cLike => some ⟨.star, .mark ['*', '/']⟩
    | .fallback => none

end Family

/-- Rows are tried in order, and the fallback family stands behind the last one. -/
structure Table where
  rows : List Family
deriving DecidableEq, Repr

namespace Table

def standard : Table where
  rows := [.script, .shell, .cLike, .fallback]

def family (t : Table) (filetype : String) : Family :=
  (t.rows.find? (·.claims filetype)).getD .fallback

def delimiters (t : Table) (filetype : String) : Delimiters :=
  (t.family filetype).delimiters

def unknownFiletype : String :=
  "unknown"

def resolve (t : Table) (path : Path) (default : String) : String :=
  let extension := path.extension
  if extension ≠ "" ∧ t.family extension ≠ .fallback then extension
  else if default ≠ "" then default
  else unknownFiletype

end Table

namespace Delimiters

def marks? (d : Delimiters) : BlockKind → Option Marks
  | .generic => some d.generic
  | .function => d.function

def isHead (d : Delimiters) (kind : BlockKind) (line : List Char) : Bool :=
  match d.marks? kind with
  | some marks => Head.accepts marks.style line
  | none => false

def isFoot (d : Delimiters) (kind : BlockKind) (line : List Char) : Bool :=
  match d.marks? kind with
  | some marks => marks.foot.accepts line
  | none => false

def strip? (d : Delimiters) (kind : BlockKind) (line : List Char) : Option (List Char) :=
  (d.marks? kind).bind fun marks => Lead.strip? marks.style line

def tag? (kind : BlockKind) (line : List Char) : Option (List Char) :=
  match kind with
  | .generic => Head.tag? line
  | .function => none

def kinds : List BlockKind :=
  [.generic, .function]

def headKind? (d : Delimiters) (line : List Char) : Option BlockKind :=
  kinds.find? (d.isHead · line)

def footKind? (d : Delimiters) (line : List Char) : Option BlockKind :=
  kinds.find? (d.isFoot · line)

end Delimiters

inductive DelimiterChoice where
  | ofFiletype (filetype : String)
  | mixed (generic function family : String)
deriving DecidableEq, Repr

def DelimiterChoice.resolve : DelimiterChoice → Except LabelError Delimiters
  | .ofFiletype filetype => .ok (Table.standard.delimiters filetype)
  | .mixed generic function family => do
    let family ← Labelled.ofLabel family
    return {
      family
      generic := (Table.standard.delimiters generic).generic
      function := (Table.standard.delimiters function).function }

end CommentDoc
