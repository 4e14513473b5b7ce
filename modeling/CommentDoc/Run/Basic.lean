import CommentDoc.Block.Record
import CommentDoc.Disk
import CommentDoc.Failure
import CommentDoc.Input

/-! A run over a list of files. The positions of its blocks are their ids. -/

namespace CommentDoc

open Text.Utf8 (Octets)

variable [Text.Edition]

inductive LogEntry where
  | scanning (file filetype : String) (family : Family)
  | report (diagnostic : Diagnostic)
deriving DecidableEq, Repr

def LogEntry.diagnostic? : LogEntry → Option Diagnostic
  | .report d => some d
  | .scanning .. => none

inductive ReadError where
  | failed (file : String) (cause : FileError)
  | nullInName
  | notEncodable (half : Stray)
deriving DecidableEq, Repr

def Stray.message (s : Stray) : String :=
  let place :=
    if s.count = 1 then
      "character '\\u" ++ String.ofList (Text.Quoted.hex 4 s.code) ++ "' in position " ++ toString s.position
    else
      "characters in position " ++ toString s.position ++ "-" ++ toString (s.position + s.count - 1)
  "'utf-8' codec can't encode " ++ place ++ ": surrogates not allowed"

def ReadError.message : ReadError → String
  | .failed file cause =>
    Failure.text ⟨.sourceRead, "unable to read file: " ++ cause.message, [("file_path", .text file)]⟩
  | .nullInName => "embedded null byte"
  | .notEncodable half => half.message

structure Run where
  defaultFiletype : String
  selection : Selection
  table : Table
  blocks : List Block
  log : List LogEntry
deriving DecidableEq, Repr

namespace Run

def start (defaultFiletype : String) (selection : Selection) (table : Table) : Run where
  defaultFiletype := defaultFiletype
  selection := selection
  table := table
  blocks := []
  log := []

def diagnostics (run : Run) : List Diagnostic :=
  run.log.filterMap LogEntry.diagnostic?

def note (run : Run) (entry : LogEntry) : Run :=
  { run with log := run.log ++ [entry] }

def report (run : Run) (ds : List Diagnostic) : Run :=
  { run with log := run.log ++ ds.map .report }

def nextId (run : Run) : Nat :=
  run.blocks.length

def register (run : Run) (file : String) (found : Found) : Run × Block :=
  let block := found.toBlock run.nextId file
  let run := run.report (found.diagnostics file)
  ({ run with blocks := run.blocks ++ [block] }, block)

def parse (run : Run) (block : Block) : Run × Option Record :=
  match block.record with
  | .ok record => (run, some record)
  | .error fault => (run.report (fault.diagnostics block.file block.lines.initial), none)

def take (run : Run) (file : String) (found : Found) : Run × Option Record :=
  let (run, block) := run.register file found
  if run.selection.admits block.kind then run.parse block else (run, none)

def filetype (run : Run) (input : Input) : String :=
  run.table.resolve input.path run.defaultFiletype

def delimiters (run : Run) (input : Input) : Delimiters :=
  run.table.delimiters (run.filetype input)

def noteScanning (run : Run) (input : Input) : Run :=
  run.note (.scanning input.file (run.filetype input) (run.delimiters input).family)

structure Extraction where
  run : Run
  records : List Record
  failure : Option ReadError
deriving DecidableEq, Repr

def isNull (c : Char) : Bool :=
  c.toNat = 0

def open? (disk : Disk) (input : Input) : Except ReadError Nat :=
  match input.stray with
  | some half => .error (.notEncodable half)
  | none =>
    if input.path.text.toList.any isNull then .error .nullInName
    else (disk.openFile input.path).mapError (.failed input.file)

/-- The octets of a file that are read: reading that breaks off gives whole lines only. -/
def legible (disk : Disk) (identity : Nat) : Octets :=
  match disk.readingFault? identity with
  | some _ => Source.ended (disk.content identity)
  | none => disk.content identity

def octets (disk : Disk) (input : Input) : Except ReadError Octets :=
  match open? disk input with
  | .error e => .error e
  | .ok identity =>
    match disk.readingFault? identity with
    | some cause => .error (.failed input.file cause)
    | none => .ok (disk.content identity)

def lines (disk : Disk) (input : Input) : Except ReadError (List String) :=
  (octets disk input).map Source.lines

def founds (disk : Disk) (delimiters : Delimiters) (input : Input) : List Found × Option ReadError :=
  match open? disk input with
  | .error e => ([], some e)
  | .ok identity =>
    let ls := Source.lines (legible disk identity)
    match disk.readingFault? identity with
    | some cause => (Scan.ended delimiters ls, some (.failed input.file cause))
    | none => (Scan.blocks delimiters ls, none)

def takeAll (run : Run) (file : String) : List Found → Run × List Record
  | [] => (run, [])
  | found :: rest =>
    let (run, record?) := run.take file found
    let (run, records) := run.takeAll file rest
    (run, record?.toList ++ records)

def extract (disk : Disk) (run : Run) : List Input → Extraction
  | [] => ⟨run, [], none⟩
  | input :: rest =>
    let delimiters := run.delimiters input
    let run := run.noteScanning input
    let (founds, failure) := founds disk delimiters input
    let (run, records) := run.takeAll input.file founds
    match failure with
    | some e => ⟨run, records, some e⟩
    | none =>
      let later := run.extract disk rest
      { later with records := records ++ later.records }

/-- What is written of the records. They are numbered by the blocks of the run, so that no limit
of digits is ever reached. -/
def Extraction.written (e : Extraction) : Written :=
  (Written.nothing.write none e.records).1

def Extraction.text (e : Extraction) : String :=
  e.written.text

def Extraction.count (e : Extraction) : Except ReadError Nat :=
  match e.failure with
  | some e => .error e
  | none => .ok e.written.count

def registerAll (run : Run) (file : String) : List Found → Run × List Block
  | [] => (run, [])
  | found :: rest =>
    let (run, block) := run.register file found
    let (run, blocks) := run.registerAll file rest
    (run, block :: blocks)

end Run

end CommentDoc
