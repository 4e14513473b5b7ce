import CommentDoc.Run.Basic

namespace CommentDoc

open Text.Utf8 (Octets)

variable [Text.Edition]

inductive ScanState where
  | skipping
  | capturing
deriving DecidableEq, Repr

inductive ScanStatus where
  | block
  | eof
  | ioError
deriving DecidableEq, Repr

instance : Labelled ScanState where
  title := "ScanState"
  members := [.skipping, .capturing]
  name
    | .skipping => "SKIPPING"
    | .capturing => "CAPTURING"

instance : Labelled ScanStatus where
  title := "ScanStatus"
  members := [.block, .eof, .ioError]
  name
    | .block => "BLOCK"
    | .eof => "EOF"
    | .ioError => "IO_ERROR"

/-- An open file. What has been fetched from the disk is not affected by later writes to the file. -/
structure Reader where
  identity : Nat
  fetched : Octets
  offset : Nat
deriving DecidableEq, Repr

namespace Reader

def start (identity : Nat) : Reader :=
  ⟨identity, [], 0⟩

def chunk : Nat :=
  8192

def ahead (r : Reader) (disk : Disk) : Octets :=
  r.fetched ++ (disk.content r.identity).drop r.offset

def fault? (r : Reader) (disk : Disk) : Option FileError :=
  disk.readingFault? r.identity

def lines (r : Reader) (disk : Disk) : List String :=
  match r.fault? disk with
  | some _ => Source.lines (Source.ended (r.ahead disk))
  | none => Source.lines (r.ahead disk)

def afterLines (r : Reader) (disk : Disk) (n : Nat) : Reader :=
  let rest := Source.afterLines n (r.ahead disk)
  let read := (r.ahead disk).length - rest.length
  if read ≤ r.fetched.length then { r with fetched := r.fetched.drop read }
  else
    let chunks := (read - r.fetched.length + chunk - 1) / chunk
    let offset := min (r.offset + chunks * chunk) (disk.content r.identity).length
    { r with
      fetched := rest.take (r.fetched.length + (offset - r.offset) - read)
      offset := offset }

end Reader

inductive Phase where
  | unopened
  | reading (reader : Reader) (line : Nat)
  | closed
  | exhausted
deriving DecidableEq, Repr

structure Scanner where
  input : Input
  filetype : String
  delimiters : Delimiters
  phase : Phase
deriving DecidableEq, Repr

inductive ScanError where
  | unreadable (cause : ReadError)
  | closedFile
deriving DecidableEq, Repr

def ScanError.message : ScanError → String
  | .unreadable cause => cause.message
  | .closedFile => "I/O operation on closed file."

namespace Scanner

def make (run : Run) (input : Input) (delimiters : Option Delimiters) : Scanner where
  input := input
  filetype := run.filetype input
  delimiters := delimiters.getD (run.delimiters input)
  phase := .unopened

def state (_ : Scanner) : ScanState :=
  .skipping

def close (s : Scanner) : Scanner :=
  match s.phase with
  | .reading .. => { s with phase := .closed }
  | _ => s

def opened (s : Scanner) (disk : Disk) (run : Run) : Run × Scanner × Option ScanError :=
  match s.phase with
  | .unopened =>
    let run := run.note (.scanning s.input.file s.filetype s.delimiters.family)
    match Run.open? disk s.input with
    | .ok identity => (run, { s with phase := .reading (.start identity) 1 }, none)
    | .error (.failed file cause) =>
      (run, { s with phase := .exhausted }, some (.unreadable (.failed file cause)))
    | .error e => (run, s, some (.unreadable e))
  | .closed => (run, { s with phase := .exhausted }, some .closedFile)
  | _ => (run, s, none)

/-- Shows the coming blocks to `visit` until it has an answer. A file that breaks off before that
is given up. -/
def seek {σ β : Type} (s : Scanner) (disk : Disk) (visit : σ → Found → σ × Option β) (state : σ) :
    σ × Scanner × Except ScanError (Option β) :=
  match s.phase with
  | .reading reader line =>
    let fault? := reader.fault? disk
    let search := Scan.seek s.delimiters visit fault?.isNone state line none (reader.lines disk)
    if search.exhausted then
      let result :=
        match fault? with
        | some cause => .error (.unreadable (.failed s.input.file cause))
        | none => .ok search.answer
      (search.state, { s with phase := .exhausted }, result)
    else
      let phase := .reading (reader.afterLines disk search.read) (line + search.read)
      (search.state, { s with phase }, .ok search.answer)
  | _ => (state, s, .ok none)

def next (s : Scanner) (disk : Disk) (run : Run) : Run × Scanner × Except ScanError (Option Block) :=
  match s.opened disk run with
  | (run, s, some e) => (run, s, .error e)
  | (run, s, none) =>
    let visit (run : Run) (found : Found) :=
      let (run, block) := run.register s.input.file found
      (run, some block)
    s.seek disk visit run

def rest (s : Scanner) (disk : Disk) (run : Run) : Run × Scanner × Except ScanError (List Block) :=
  match s.opened disk run with
  | (run, s, some e) => (run, s, .error e)
  | (run, s, none) =>
    let visit (state : Run × List Block) (found : Found) : (Run × List Block) × Option Unit :=
      let (run, block) := state.1.register s.input.file found
      ((run, state.2 ++ [block]), none)
    let (state, s, result) := s.seek disk visit (run, [])
    (state.1, s, result.map fun _ => state.2)

def nextRecord (s : Scanner) (disk : Disk) (run : Run) :
    Run × Scanner × Except ScanError (Option Record) :=
  match s.opened disk run with
  | (run, s, some e) => (run, s, .error e)
  | (run, s, none) => s.seek disk (fun run found => run.take s.input.file found) run

end Scanner

structure Stream where
  current : Option Scanner
  inputs : List Input
deriving DecidableEq, Repr

namespace Stream

def start (inputs : List Input) : Stream :=
  ⟨none, inputs⟩

def finished : Stream :=
  ⟨none, []⟩

def pullInputs (disk : Disk) (run : Run) : List Input → Run × Stream × Except ScanError (Option Record)
  | [] => (run, finished, .ok none)
  | input :: rest =>
    match (Scanner.make run input none).nextRecord disk run with
    | (run, _, .error e) => (run, finished, .error e)
    | (run, _, .ok none) => pullInputs disk run rest
    | (run, s, .ok (some record)) => (run, ⟨some s, rest⟩, .ok (some record))

def pull (st : Stream) (disk : Disk) (run : Run) : Run × Stream × Except ScanError (Option Record) :=
  match st.current with
  | none => pullInputs disk run st.inputs
  | some s =>
    match s.nextRecord disk run with
    | (run, _, .error e) => (run, finished, .error e)
    | (run, _, .ok none) => pullInputs disk run st.inputs
    | (run, s, .ok (some record)) => (run, ⟨some s, st.inputs⟩, .ok (some record))

end Stream

end CommentDoc
