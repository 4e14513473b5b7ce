import CommentDoc.Block.Kind
import CommentDoc.Text.Case
import CommentDoc.Text.Edition
import CommentDoc.Validation.Basic

namespace CommentDoc

variable [Text.Edition] [Scalars]

structure Settings where
  defaultFiletype : String
  blocks : Selection
  logLevel : Int
  richLogging : Bool
deriving DecidableEq, Repr

namespace Settings

def levelNames : List (String × Int) :=
  [("CRITICAL", 50), ("FATAL", 50), ("ERROR", 40), ("WARN", 30), ("WARNING", 30), ("INFO", 20),
    ("DEBUG", 10), ("NOTSET", 0)]

def warningLevel : Int :=
  30

def writtenLevel (s : String) : Checked Int :=
  let trimmed := Text.trim s.toList
  if !trimmed.isEmpty && trimmed.all Text.isDigit then Scalars.int (.text s)
  else
    match levelNames.lookup (String.ofList (Text.upper trimmed)) with
    | some level => .ok level
    | none => Checked.fail (.custom ("unknown log level: " ++ s))

def checkLevel : Value → Checked Int
  | .text s => writtenLevel s
  | .choice m => writtenLevel m.label
  | v => Scalars.int v

def field {α : Type} (value? : String → Option Value) (name : String) (default : α)
    (check : Value → Checked α) :
    Checked α :=
  match value? name with
  | some v => Checked.under (.field name) (check v)
  | none => .ok default

def check (value? : String → Option Value) : Checked Settings :=
  Checked.and (Checked.and (Checked.and (Checked.and (.ok Settings.mk)
    (field value? "default_filetype" "" Scalars.string))
    (field value? "blocks" .all Scalars.label))
    (field value? "log_level" warningLevel checkLevel))
    (field value? "rich_logging" true Scalars.bool)

def load (value? : String → Option Value) : Except Invalid Settings :=
  (check value?).mapError (⟨"ProcdocSettings", ·⟩)

def fields (s : Settings) : List (String × Value) :=
  [("default_filetype", .text s.defaultFiletype), ("blocks", .text (Labelled.label s.blocks)),
    ("log_level", .int s.logLevel), ("rich_logging", .bool s.richLogging)]

def isNull : Value → Bool
  | .null => true
  | _ => false

def shown (name : String) (v : Value) : Value :=
  if name = "blocks" then .text v.plain else v

def override (s : Settings) (values : List (String × Value)) : List (String × Value) :=
  s.fields.map fun (name, v) =>
    match values.lookup name with
    | some new => if isNull new then (name, v) else (name, shown name new)
    | none => (name, v)

end Settings

end CommentDoc
