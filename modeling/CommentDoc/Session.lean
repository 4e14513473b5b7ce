import CommentDoc.Index
import CommentDoc.Run.Scanner
import CommentDoc.Validation.Model

/-! One run driven command by command, with scanners and streams kept by name and the files
changing in between. -/

namespace CommentDoc

open Text.Utf8 (Octets)

variable [Text.Edition] [Scalars]

namespace Session

inductive Command where
  | putFile (path : Path) (octets : Octets)
  | putDirectory (path : Path)
  | delete (name : String)
  | openScanner (name : String) (input : Input) (delimiters : Option DelimiterChoice)
  | next (scanner : String)
  | rest (scanner : String)
  | close (scanner : String)
  | scan (input : Input)
  | write (inputs : List Input)
  | extract (name : String) (inputs : List Input)
  | pull (stream : String)
  | configure (defaultFiletype : Option String) (selection : Option String)
  | add (kind : String) (markup file initial : Value) (captured : List Value)
  | parse (index : Value)
  | report (severity : Severity) (message file line : Value)

inductive Reply where
  | done
  | opened (scanner : Scanner)
  | scanned (status : ScanStatus) (block : Option Block) (error : Option ReadError)
  | block (block : Block)
  | blocks (blocks : List Block)
  | written (extraction : Run.Extraction)
  | record (record : Option Record)
  | reported (diagnostic : Diagnostic)

inductive Fault where
  | scan (error : ScanError)
  | label (error : LabelError)
  | invalid (error : Invalid)
  | index (error : IndexError)
  | unknownName (name : String)
  | file (error : FileError) (name : String)
deriving DecidableEq, Repr

def Fault.message : Fault → String
  | .scan e => e.message
  | .label e => e.message
  | .invalid e => e.model
  | .index e => e.message "list"
  | .unknownName name => quoted name
  | .file e name => e.describe name

end Session

structure Session where
  disk : Disk
  run : Run
  scanners : List (String × Scanner)
  streams : List (String × Stream)

namespace Session

def start (disk : Disk) (run : Run) : Session :=
  ⟨disk, run, [], []⟩

def keep {α : Type} (name : String) (a : α) (kept : List (String × α)) : List (String × α) :=
  (name, a) :: kept.filter (·.1 ≠ name)

abbrev Result := Session × Except Fault Reply

def withScanner (s : Session) (name : String) (f : Scanner → Result) : Result :=
  match s.scanners.lookup name with
  | some scanner => f scanner
  | none => (s, .error (.unknownName name))

def keepScanner (s : Session) (name : String) (scanner : Scanner) : Session :=
  { s with scanners := keep name scanner s.scanners }

def delete (s : Session) (name : String) : Result :=
  match s.disk.find (Path.ofString name) with
  | .ok place =>
    if s.disk.node? place = some .directory then (s, .error (.file .isDirectory name))
    else ({ s with disk := s.disk.remove place }, .ok .done)
  | .error e => (s, .error (.file e name))

def nextReply : Except ScanError (Option Block) → Except Fault Reply
  | .ok (some block) => .ok (.scanned .block (some block) none)
  | .ok none => .ok (.scanned .eof none none)
  | .error (.unreadable (.failed file cause)) =>
    .ok (.scanned .ioError none (some (.failed file cause)))
  | .error e => .error (.scan e)

def writeReply (e : Run.Extraction) : Except Fault Reply :=
  match e.failure with
  | none => .ok (.written e)
  | some (.failed ..) => .ok (.written e)
  | some cause => .error (.scan (.unreadable cause))

def configure (s : Session) (defaultFiletype selection : Option String) : Result :=
  let run := { s.run with defaultFiletype := defaultFiletype.getD s.run.defaultFiletype }
  match selection with
  | none => ({ s with run }, .ok .done)
  | some text =>
    match Labelled.ofText text with
    | .ok selection => ({ s with run := { run with selection } }, .ok .done)
    | .error e => ({ s with run }, .error (.label e))

def newBlock (run : Run) (kind : String) (markup file initial : Value) (captured : List Value) :
    Except Fault Block := do
  let kind : BlockKind ← (Labelled.ofText kind).mapError Fault.label
  let lines := Value.map [(.text "initial", initial), (.text "total", .int captured.length)]
  let _ ← (Checked.validate Model.lineSpan.name LineSpan.check lines).mapError Fault.invalid
  let value := Value.map [
    (.text "id", .int run.nextId), (.text "type", .text (Labelled.label kind)),
    (.text "markup", markup), (.text "file", file), (.text "lines", lines),
    (.text "captured", .tuple captured)]
  (Checked.validate Model.block.name Block.check value).mapError Fault.invalid

def parse (s : Session) (index : Value) : Result :=
  match item s.run.blocks index with
  | .error e => (s, .error (.index e))
  | .ok block =>
    let (run, record) := s.run.parse block
    ({ s with run }, .ok (.record record))

def report (s : Session) (severity : Severity) (message file line : Value) : Result :=
  let value := Value.map [
    (.text "severity", .text (Labelled.label severity)), (.text "message", message),
    (.text "file", file), (.text "line", line)]
  match Checked.validate Model.diagnostic.name Diagnostic.check value with
  | .ok diagnostic => ({ s with run := s.run.report [diagnostic] }, .ok (.reported diagnostic))
  | .error e => (s, .error (.invalid e))

def step (s : Session) : Command → Result
  | .putFile path octets => ({ s with disk := s.disk.addFile path octets }, .ok .done)
  | .putDirectory path => ({ s with disk := s.disk.addDirectory path }, .ok .done)
  | .delete name => s.delete name
  | .openScanner name input choice =>
    match choice.mapM DelimiterChoice.resolve with
    | .ok delimiters =>
      let scanner := Scanner.make s.run input delimiters
      (s.keepScanner name scanner, .ok (.opened scanner))
    | .error e => (s, .error (.label e))
  | .next name =>
    s.withScanner name fun scanner =>
      let (run, scanner, result) := scanner.next s.disk s.run
      ({ s with run }.keepScanner name scanner, nextReply result)
  | .rest name =>
    s.withScanner name fun scanner =>
      let (run, scanner, result) := scanner.rest s.disk s.run
      ({ s with run }.keepScanner name scanner, (result.map .blocks).mapError .scan)
  | .close name =>
    s.withScanner name fun scanner => (s.keepScanner name scanner.close, .ok .done)
  | .scan input =>
    let (run, _, result) := (Scanner.make s.run input none).rest s.disk s.run
    ({ s with run }, (result.map .blocks).mapError .scan)
  | .write inputs =>
    let extraction := s.run.extract s.disk inputs
    ({ s with run := extraction.run }, writeReply extraction)
  | .extract name inputs =>
    ({ s with streams := keep name (.start inputs) s.streams }, .ok .done)
  | .pull name =>
    match s.streams.lookup name with
    | none => (s, .error (.unknownName name))
    | some stream =>
      let (run, stream, result) := stream.pull s.disk s.run
      ({ s with run, streams := keep name stream s.streams }, (result.map .record).mapError .scan)
  | .configure defaultFiletype selection => s.configure defaultFiletype selection
  | .add kind markup file initial captured =>
    match newBlock s.run kind markup file initial captured with
    | .ok block =>
      ({ s with run := { s.run with blocks := s.run.blocks ++ [block] } }, .ok (.block block))
    | .error e => (s, .error e)
  | .parse index => s.parse index
  | .report severity message file line => s.report severity message file line

structure Outcome where
  result : Except Fault Reply
  nextId : Nat
  diagnostics : List Diagnostic

def outcome (before after : Session) (result : Except Fault Reply) : Outcome where
  result := result
  nextId := after.run.nextId
  diagnostics := after.run.diagnostics.drop before.run.diagnostics.length

def play (s : Session) : List Command → List Outcome
  | [] => []
  | command :: rest =>
    let (after, result) := s.step command
    outcome s after result :: after.play rest

end Session

end CommentDoc
