import CommentDoc.Delimiter.Family
import CommentDoc.Source

/-! Cutting a file's lines into documentation blocks. The line that ends a block belongs to it. -/

namespace CommentDoc

inductive ScanWarning where
  | unclosed
  | taggedFunction
deriving DecidableEq, Repr

def ScanWarning.message : ScanWarning → String
  | .unclosed => "unclosed block"
  | .taggedFunction => "function blocks may not have a markup tag"

def noMarkup : String :=
  "none"

def functionMarkup : String :=
  "function"

structure Found where
  kind : BlockKind
  markup : String
  initial : Nat
  captured : List String
  warning : Option (ScanWarning × Nat)
deriving DecidableEq, Repr

structure Draft where
  kind : BlockKind
  markup : String
  initial : Nat
  captured : List String
deriving DecidableEq, Repr

namespace Draft

def open? (d : Delimiters) (n : Nat) (line : String) : Option Draft :=
  let content := Source.unindented line
  (d.headKind? content).map fun kind =>
    { kind
      markup := ((Delimiters.tag? kind content).map String.ofList).getD noMarkup
      initial := n
      captured := [] }

def push (b : Draft) (text : List Char) : Draft :=
  { b with captured := b.captured ++ [String.ofList text] }

def settle (b : Draft) (kind : BlockKind) (warning : Option (ScanWarning × Nat)) : Found where
  kind := kind
  markup := if kind = .function then functionMarkup else b.markup
  initial := b.initial
  captured := b.captured
  warning := warning

def close (b : Draft) (foot : BlockKind) (n : Nat) : Found :=
  let kind := if b.markup = functionMarkup then .function else foot
  if kind = .function ∧ b.markup ≠ functionMarkup ∧ b.markup ≠ noMarkup then
    b.settle kind (some (.taggedFunction, n))
  else b.settle kind none

def abandon (b : Draft) (n : Nat) : Found :=
  b.settle b.kind (some (.unclosed, n))

def finish (b : Draft) : Found :=
  b.settle b.kind none

def read (d : Delimiters) (b : Draft) (n : Nat) (line : String) : Draft ⊕ Found :=
  let content := Source.unindented line
  match d.footKind? content with
  | some foot => .inr (b.close foot n)
  | none =>
    match d.strip? b.kind content with
    | some text => .inl (b.push text)
    | none => .inr (b.abandon n)

end Draft

namespace Scan

def blocksFrom (d : Delimiters) : (n : Nat) → (b : Option Draft) → List String → List Found
  | _, none, [] => []
  | _, some b, [] => [b.finish]
  | n, none, line :: rest => blocksFrom d (n + 1) (Draft.open? d n line) rest
  | n, some b, line :: rest =>
    match b.read d n line with
    | .inl b => blocksFrom d (n + 1) (some b) rest
    | .inr found => found :: blocksFrom d (n + 1) none rest

def blocks (d : Delimiters) (lines : List String) : List Found :=
  blocksFrom d 1 none lines

def endedFrom (d : Delimiters) : (n : Nat) → (b : Option Draft) → List String → List Found
  | _, _, [] => []
  | n, none, line :: rest => endedFrom d (n + 1) (Draft.open? d n line) rest
  | n, some b, line :: rest =>
    match b.read d n line with
    | .inl b => endedFrom d (n + 1) (some b) rest
    | .inr found => found :: endedFrom d (n + 1) none rest

/-- The blocks of lines after which reading breaks off. One that is still open then is lost. -/
def ended (d : Delimiters) (lines : List String) : List Found :=
  endedFrom d 1 none lines

structure Search (σ β : Type) where
  state : σ
  answer : Option β
  read : Nat
  exhausted : Bool

def Search.afterLine {σ β : Type} (s : Search σ β) : Search σ β :=
  { s with read := s.read + 1 }

/-- Shows every block of the lines from number `n` on to `visit`, until `visit` has an answer.
Only lines that are all of the file end a block that is open after them. -/
def seek {σ β : Type} (d : Delimiters) (visit : σ → Found → σ × Option β) (whole : Bool) :
    (state : σ) → (n : Nat) → (b : Option Draft) → List String → Search σ β
  | state, _, none, [] => ⟨state, none, 0, true⟩
  | state, _, some b, [] =>
    if whole then ⟨(visit state b.finish).1, (visit state b.finish).2, 0, true⟩
    else ⟨state, none, 0, true⟩
  | state, n, none, line :: rest =>
    (seek d visit whole state (n + 1) (Draft.open? d n line) rest).afterLine
  | state, n, some b, line :: rest =>
    match b.read d n line with
    | .inl b => (seek d visit whole state (n + 1) (some b) rest).afterLine
    | .inr found =>
      match visit state found with
      | (state, some answer) => ⟨state, some answer, 1, false⟩
      | (state, none) => (seek d visit whole state (n + 1) none rest).afterLine

end Scan

end CommentDoc
