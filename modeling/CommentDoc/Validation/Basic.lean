import CommentDoc.Label
import CommentDoc.Value

/-! A check succeeds or gives every issue that it found, in the order of the fields. How single
values are checked is left open, but for values that are of the type already. -/

namespace CommentDoc

inductive IssueKind where
  | missing
  | modelType
  | stringType
  | stringEncoding
  | stringTooShort
  | tupleType
  | intType
  | intParsing
  | intParsingSize
  | intFromFloat
  | finiteNumber
  | greaterThan
  | greaterThanEqual
  | label
  | boolType
  | boolParsing
  | frozen
  | custom (message : String)
deriving DecidableEq, Repr

def IssueKind.name : IssueKind → String
  | .missing => "missing"
  | .modelType => "model_type"
  | .stringType => "string_type"
  | .stringEncoding => "string_unicode"
  | .stringTooShort => "string_too_short"
  | .tupleType => "tuple_type"
  | .intType => "int_type"
  | .intParsing => "int_parsing"
  | .intParsingSize => "int_parsing_size"
  | .intFromFloat => "int_from_float"
  | .finiteNumber => "finite_number"
  | .greaterThan => "greater_than"
  | .greaterThanEqual => "greater_than_equal"
  | .label => "enum"
  | .boolType => "bool_type"
  | .boolParsing => "bool_parsing"
  | .frozen => "frozen_instance"
  | .custom _ => "value_error"

inductive Step where
  | field (name : String)
  | index (n : Nat)
deriving DecidableEq, Repr

structure Issue where
  place : List Step
  kind : IssueKind
deriving DecidableEq, Repr

namespace Issue

def under (step : Step) (i : Issue) : Issue :=
  { i with place := step :: i.place }

def message? (i : Issue) : Option String :=
  match i.kind with
  | .custom message => some ("Value error, " ++ message)
  | _ => none

end Issue

structure Invalid where
  model : String
  issues : List Issue
deriving DecidableEq, Repr

abbrev Checked (α : Type) := Except (List Issue) α

namespace Checked

variable {α β : Type}

def fail (kind : IssueKind) : Checked α :=
  .error [⟨[], kind⟩]

def under (step : Step) (c : Checked α) : Checked α :=
  c.mapError (·.map (Issue.under step))

def and (f : Checked (α → β)) (c : Checked α) : Checked β :=
  match f, c with
  | .ok f, .ok a => .ok (f a)
  | .ok _, .error es => .error es
  | .error es, .ok _ => .error es
  | .error es, .error fs => .error (es ++ fs)

def items (check : Value → Checked α) : (n : Nat) → List Value → Checked (List α)
  | _, [] => .ok []
  | n, v :: rest =>
    and (and (.ok List.cons) (under (.index n) (check v))) (items check (n + 1) rest)

abbrev Entries := List (Key × Value)

def required (entries : Entries) (name : String) (check : Value → Checked α) : Checked α :=
  under (.field name)
    (match Value.field? name entries with
    | some v => check v
    | none => fail .missing)

def withDefault (entries : Entries) (name : String) (default : α) (check : Value → Checked α) :
    Checked α :=
  match Value.field? name entries with
  | some v => under (.field name) (check v)
  | none => .ok default

def model (check : Entries → Checked α) : Value → Checked α
  | .map entries => check entries
  | _ => fail .modelType

def list (check : Value → Checked α) : Value → Checked (List α)
  | .list vs => items check 0 vs
  | .tuple vs => items check 0 vs
  | .set vs => items check 0 vs
  | _ => fail .tupleType

def validate (name : String) (check : Value → Checked α) (v : Value) : Except Invalid α :=
  (check v).mapError (⟨name, ·⟩)

end Checked

class Scalars where
  string : Value → Checked String
  int : Value → Checked Int
  bool : Value → Checked Bool
  label {α : Type} [Labelled α] : Value → Checked α
  string_text (s : String) : string (.text s) = .ok s
  int_int (n : Int) : int (.int n) = .ok n
  label_text {α : Type} [Labelled α] {m : α} (h : Labelled.ofText? (Labelled.label m) = some m) :
    label (.text (Labelled.label m)) = .ok m

namespace Checked

variable [Scalars]

def nonemptyString (v : Value) : Checked String := do
  let s ← Scalars.string v
  if s = "" then fail .stringTooShort else return s

def nonNegative (v : Value) : Checked Nat := do
  let n ← Scalars.int v
  if 0 ≤ n then return n.toNat else fail .greaterThanEqual

def positive (v : Value) : Checked Nat := do
  let n ← Scalars.int v
  if 0 < n then return n.toNat else fail .greaterThan

end Checked

end CommentDoc
