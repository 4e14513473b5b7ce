import CommentDoc.Block.Record
import CommentDoc.Validation.Basic

namespace CommentDoc

open Checked (required withDefault model nonemptyString nonNegative positive list)
open Scalars (string label)

variable [Text.Edition] [Scalars]

def Diagnostic.check : Value → Checked Diagnostic :=
  model fun entries =>
    Checked.and (Checked.and (Checked.and (Checked.and (.ok Diagnostic.mk)
      (required entries "severity" label))
      (required entries "message" string))
      (required entries "file" string))
      (required entries "line" nonNegative)

def LineSpan.check : Value → Checked LineSpan :=
  model fun entries =>
    Checked.and (Checked.and (.ok LineSpan.mk)
      (required entries "initial" positive))
      (required entries "total" nonNegative)

namespace Block

def consistent (b : Block) : Checked Block :=
  if b.lines.total ≠ b.captured.length then
    Checked.fail (.custom ("lines.total (" ++ toString b.lines.total ++ ") does not match " ++
      toString b.captured.length ++ " captured lines"))
  else if b.kind = .function ∧ b.markup ≠ functionMarkup then
    Checked.fail (.custom ("function blocks must have markup " ++ quoted functionMarkup))
  else .ok b

def check (v : Value) : Checked Block := do
  let b ← model (fun entries =>
    Checked.and (Checked.and (Checked.and (Checked.and (Checked.and (Checked.and (.ok Block.mk)
      (required entries "id" nonNegative))
      (required entries "type" label))
      (required entries "markup" string))
      (required entries "file" string))
      (required entries "lines" LineSpan.check))
      (required entries "captured" (list string))) v
  b.consistent

end Block

def Member.check : Value → Checked Member :=
  model fun entries =>
    Checked.and (Checked.and (.ok Member.mk)
      (required entries "name" string))
      (required entries "description" string)

def Paragraph.check : Value → Checked Paragraph :=
  model fun entries =>
    Checked.and (Checked.and (.ok Paragraph.mk)
      (withDefault entries "heading" "" string))
      (required entries "paragraph" string)

def FunctionContent.shortDescriptionKey (entries : Checked.Entries) : String :=
  if (Value.field? "short-description" entries).isSome then "short-description"
  else "short_description"

def FunctionContent.check : Value → Checked FunctionContent :=
  model fun entries =>
    Checked.and (Checked.and (Checked.and (Checked.and (.ok FunctionContent.mk)
      (required entries "name" nonemptyString))
      (withDefault entries (shortDescriptionKey entries) "" string))
      (withDefault entries "members" [] (list Member.check)))
      (withDefault entries "description" [] (list Paragraph.check))

/-- Content is a function's if it is a map and generic if it is a list; what is neither has the
issues of both. -/
def Content.check (v : Value) : Checked Content :=
  match FunctionContent.check v, list string v with
  | .ok content, _ => .ok (.function content)
  | .error _, .ok lines => .ok (.generic lines)
  | .error es, .error fs =>
    .error (es.map (Issue.under (.field "FunctionContent")) ++
      fs.map (Issue.under (.field "GenericContent")))

def Record.check : Value → Checked Record :=
  model fun entries =>
    Checked.and (Checked.and (Checked.and (Checked.and (Checked.and (Checked.and (.ok Record.mk)
      (required entries "id" nonNegative))
      (required entries "type" label))
      (required entries "markup" string))
      (required entries "file" string))
      (required entries "lines" LineSpan.check))
      (required entries "content" Content.check)

def Diagnostic.toJson (d : Diagnostic) : Json :=
  .object [
    ("severity", .text (Labelled.label d.severity)),
    ("message", .text d.message),
    ("file", .text d.file),
    ("line", .int d.line)]

def Block.toJson (b : Block) : Json :=
  .object [
    ("id", .int b.id),
    ("type", .text (Labelled.label b.kind)),
    ("markup", .text b.markup),
    ("file", .text b.file),
    ("lines", b.lines.toJson),
    ("captured", .array (b.captured.map .text))]

inductive Model where
  | diagnostic
  | lineSpan
  | block
  | member
  | paragraph
  | functionContent
  | genericContent
  | record
deriving DecidableEq, Repr

namespace Model

def all : List Model :=
  [.diagnostic, .lineSpan, .block, .member, .paragraph, .functionContent, .genericContent, .record]

def name : Model → String
  | .diagnostic => "Diagnostic"
  | .lineSpan => "LineSpan"
  | .block => "Block"
  | .member => "Member"
  | .paragraph => "Paragraph"
  | .functionContent => "FunctionContent"
  | .genericContent => "GenericContent"
  | .record => "BlockRecord"

def ofName? (s : String) : Option Model :=
  all.find? (·.name = s)

inductive Instance where
  | diagnostic (d : Diagnostic)
  | lineSpan (l : LineSpan)
  | block (b : Block)
  | member (m : Member)
  | paragraph (p : Paragraph)
  | functionContent (c : FunctionContent)
  | genericContent (lines : List String)
  | record (r : Record)
deriving DecidableEq, Repr

def check : Model → Value → Checked Instance
  | .diagnostic, v => (Diagnostic.check v).map .diagnostic
  | .lineSpan, v => (LineSpan.check v).map .lineSpan
  | .block, v => (Block.check v).map .block
  | .member, v => (Member.check v).map .member
  | .paragraph, v => (Paragraph.check v).map .paragraph
  | .functionContent, v => (FunctionContent.check v).map .functionContent
  | .genericContent, v => (list string v).map .genericContent
  | .record, v => (Record.check v).map .record

def validate (m : Model) (v : Value) : Except Invalid Instance :=
  Checked.validate m.name m.check v

/-- Nothing made from values can be changed afterwards; only a name of one's own, with an
underscore in front, can be given a value. -/
def assign (m : Model) (field : String) : Except Invalid Unit :=
  if field.toList.head? = some '_' then .ok ()
  else .error ⟨m.name, [⟨[.field field], .frozen⟩]⟩

def Instance.toJson : Instance → Json
  | .diagnostic d => d.toJson
  | .lineSpan l => l.toJson
  | .block b => b.toJson
  | .member m => m.toJson
  | .paragraph p => p.toJson
  | .functionContent c => c.toJson
  | .genericContent lines => .array (lines.map .text)
  | .record r => r.toJson

end Model

def Content.typeName : Content → String
  | .function _ => Model.functionContent.name
  | .generic _ => Model.genericContent.name

def Record.validateAll : List Value → Except Invalid (List Record)
  | [] => .ok []
  | v :: rest => do
    let r ← Checked.validate Model.record.name Record.check v
    return r :: (← validateAll rest)

end CommentDoc
