import CommentDoc.Block.Scan
import CommentDoc.Diagnostic
import CommentDoc.Failure
import CommentDoc.Function.Content
import CommentDoc.Json.Basic

namespace CommentDoc

variable [Text.Edition]

structure LineSpan where
  initial : Nat
  total : Nat
deriving DecidableEq, Repr

structure Block where
  id : Nat
  kind : BlockKind
  markup : String
  file : String
  lines : LineSpan
  captured : List String
deriving DecidableEq, Repr

inductive Content where
  | function (content : FunctionContent)
  | generic (lines : List String)
deriving DecidableEq, Repr

structure Record where
  id : Nat
  kind : BlockKind
  markup : String
  file : String
  lines : LineSpan
  content : Content
deriving DecidableEq, Repr

def Found.toBlock (f : Found) (id : Nat) (file : String) : Block where
  id := id
  kind := f.kind
  markup := f.markup
  file := file
  lines := ⟨f.initial, f.captured.length⟩
  captured := f.captured

def Found.diagnostics (f : Found) (file : String) : List Diagnostic :=
  match f.warning with
  | some (warning, line) => [⟨.warning, warning.message, file, line⟩]
  | none => []

namespace ContentFault

def line (initial : Nat) : ContentFault → Nat
  | .blank => initial
  | .header _ index => initial + 1 + index

def severity : ContentFault → Severity
  | .header .notFunction _ => .warning
  | _ => .error

def message : ContentFault → String
  | .header .notFunction _ => "ignoring non-function block"
  | _ => "missing title in function block"

def failure (fault : ContentFault) (file : String) (initial : Nat) : Failure where
  kind :=
    match fault with
    | .header .notFunction _ => .nonFunctionBlock
    | _ => .missingTitle
  message := fault.message
  details := [("file_path", .text file), ("line_number", .int (fault.line initial))]

def remarks (fault : ContentFault) (file : String) (initial : Nat) : List Diagnostic :=
  match fault with
  | .blank => [⟨.warning, "empty function block", file, initial⟩]
  | .header .. => []

def diagnostics (fault : ContentFault) (file : String) (initial : Nat) : List Diagnostic :=
  fault.remarks file initial ++ [⟨fault.severity, fault.message, file, fault.line initial⟩]

end ContentFault

namespace Block

def documentation (b : Block) : Except Failure FunctionContent × List Diagnostic :=
  match FunctionContent.parse b.captured with
  | .ok content => (.ok content, [])
  | .error fault => (.error (fault.failure b.file b.lines.initial), fault.remarks b.file b.lines.initial)

def content (b : Block) : Except ContentFault Content :=
  match b.kind with
  | .function => (FunctionContent.parse b.captured).map .function
  | .generic => .ok (.generic b.captured)

def withContent (b : Block) (content : Content) : Record where
  id := b.id
  kind := b.kind
  markup := b.markup
  file := b.file
  lines := b.lines
  content := content

def record (b : Block) : Except ContentFault Record :=
  b.content.map b.withContent

end Block

def LineSpan.toJson (l : LineSpan) : Json :=
  .object [("initial", .int l.initial), ("total", .int l.total)]

def Member.toJson (m : Member) : Json :=
  .object [("name", .text m.name), ("description", .text m.description)]

def Paragraph.toJson (p : Paragraph) : Json :=
  .object [("heading", .text p.heading), ("paragraph", .text p.paragraph)]

def FunctionContent.toJson (c : FunctionContent) : Json :=
  .object [
    ("name", .text c.name),
    ("short-description", .text c.shortDescription),
    ("members", .array (c.members.map Member.toJson)),
    ("description", .array (c.description.map Paragraph.toJson))]

def Content.toJson : Content → Json
  | .function content => content.toJson
  | .generic lines => .array (lines.map .text)

namespace Record

def toJson (r : Record) : Json :=
  .object [
    ("id", .int r.id),
    ("type", .text (Labelled.label r.kind)),
    ("markup", .text r.markup),
    ("file", .text r.file),
    ("lines", r.lines.toJson),
    ("content", r.content.toJson)]

def line (r : Record) : String :=
  r.toJson.compact

/-- The line, unless an integer of the record has more digits than may be written. -/
def serialize (limit : Option DigitLimit) (r : Record) : Except Value.EncodeError String :=
  (Value.ofJson r.toJson).encode limit

def writeAll (records : List Record) : String :=
  String.join (records.map fun r => r.line ++ "\n")

end Record

structure Written where
  pieces : List String
  count : Nat
deriving DecidableEq, Repr

namespace Written

def nothing : Written :=
  ⟨[], 0⟩

def add (w : Written) (line : String) : Written :=
  ⟨w.pieces ++ [line, "\n"], w.count + 1⟩

def text (w : Written) : String :=
  String.join w.pieces

def write (limit : Option DigitLimit) (w : Written) : List Record → Written × Option Value.EncodeError
  | [] => (w, none)
  | r :: rest =>
    match r.serialize limit with
    | .ok line => (w.add line).write limit rest
    | .error e => (w, some e)

end Written

end CommentDoc
