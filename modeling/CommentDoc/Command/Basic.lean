import CommentDoc.Command.Fatal
import CommentDoc.Command.Log
import CommentDoc.Command.Selector
import CommentDoc.Settings.Basic
import CommentDoc.Text.Utf8.Fault

/-! The command looks at its settings and its paths before it touches anything. -/

namespace CommentDoc

open Text.Utf8 (Octets)

variable [Text.Edition] [Scalars] [Packages]

def version : String :=
  "0.1.0"

structure World where
  disk : Disk
  environment : List (String × String)

structure Effect where
  status : Nat
  stdout : String
  stderr : String
  disk : Disk
deriving DecidableEq, Repr

inductive EnvFailure where
  | refused (cause : FileError)
  | brokenOff (cause : FileError)
  | notUtf8 (fault : Text.Utf8.Fault)
deriving DecidableEq, Repr

inductive Outcome where
  | help
  | version
  | usageError
  | finished (effect : Effect)
  | noEnvironment (failure : EnvFailure)
  | refused (error : FileError) (name : String)
  | nullInName
  | noPath
deriving DecidableEq, Repr

namespace Command

def envFile : Path :=
  Path.ofString ".env"

end Command

def EnvFailure.message : EnvFailure → String
  | .refused cause => cause.describe Command.envFile.text
  | .brokenOff cause => cause.text
  | .notUtf8 fault => fault.message

namespace Command

def hasNull (s : String) : Bool :=
  s.toList.any Run.isNull

def isFile (disk : Disk) (p : Path) : Except FileError Bool :=
  if hasNull p.text then .ok false
  else
    match disk.fileAt p with
    | .ok _ => .ok true
    | .error e => if e.isAbsence then .ok false else .error e

def readText (disk : Disk) (p : Path) : Except EnvFailure (List Char) :=
  match disk.openFile p with
  | .error e => .error (.refused e)
  | .ok identity =>
    match disk.readingFault? identity with
    | some cause => .error (.brokenOff cause)
    | none => (Text.Utf8.read (disk.content identity)).mapError .notUtf8

def envAssignments (w : World) : Except EnvFailure (List EnvFile.Assignment) :=
  match isFile w.disk envFile with
  | .error e => .error (.refused e)
  | .ok false => .ok []
  | .ok true => (readText w.disk envFile).map Packages.assignments

def sources (w : World) (assignments : List EnvFile.Assignment) : Settings.Sources where
  given := []
  environment := w.environment
  file := Packages.table w.environment assignments

def selection? (o : Options) : Except Fatal (Option Selection) :=
  if o.functions && o.generics then .error .exclusiveSelectors
  else if o.functions then .ok (some .function)
  else if o.generics then .ok (some .generic)
  else .ok none

def settings (sources : Settings.Sources) (o : Options) : Except Fatal Settings := do
  let s ← (Settings.load (Packages.value? sources)).mapError (.settings sources)
  let selection ← selection? o
  return { s with
    defaultFiletype := o.filetype.getD s.defaultFiletype
    blocks := selection.getD s.blocks }

def gaveUp (w : World) (f : Fatal) : Effect :=
  ⟨1, "", f.shown, w.disk⟩

inductive Obstacle where
  | noFile (path : String)
  | refused (error : FileError) (path : String)
  | noPath
deriving DecidableEq, Repr

def noPathMessage : String :=
  "'NoneType' object has no attribute 'is_file'"

def obstacle? (disk : Disk) : List (Option String) → Option Obstacle
  | [] => none
  | none :: _ => some .noPath
  | some p :: rest =>
    let path := Path.ofString p
    match isFile disk path with
    | .error e => some (.refused e path.text)
    | .ok false => some (.noFile path.text)
    | .ok true => obstacle? disk rest

inductive Destination where
  | stdout
  | file (place : Place)

def destination (disk : Disk) : Option String → Except FileError Destination
  | none => .ok .stdout
  | some "-" => .ok .stdout
  | some p => (disk.target (Path.ofString p)).map .file

/-- A destination is emptied before any input is read. -/
def prepare (disk : Disk) : Destination → Disk
  | .stdout => disk
  | .file place => disk.putAt place []

def logged (style : LogStyle) (e : Run.Extraction) : String :=
  style.render e.run.log ++
    match e.failure with
    | some failure => (Fatal.unreadable failure).shown
    | none => ""

def effect (disk : Disk) (style : LogStyle) (d : Destination) (e : Run.Extraction) : Effect where
  status := if e.failure.isSome then 1 else 0
  stdout :=
    match d with
    | .stdout => e.text
    | .file _ => ""
  stderr := logged style e
  disk :=
    match d with
    | .stdout => disk
    | .file place => disk.putAt place (Text.Utf8.encode e.text.toList)

def extract (w : World) (o : Options) (s : Settings) : Outcome :=
  let style := LogStyle.ofSettings s o.quiet
  if o.paths.isEmpty then .finished (gaveUp w .noInputFiles)
  else
    match obstacle? w.disk o.paths with
    | some (.refused e name) => .refused e name
    | some (.noFile path) => .finished (gaveUp w (.noFile path))
    | some .noPath => .noPath
    | none =>
      if (o.output.map hasNull).getD false then .nullInName
      else
        match destination w.disk o.output with
        | .error _ => .finished (gaveUp w (.noOutput (o.output.getD "")))
        | .ok d =>
          let disk := prepare w.disk d
          let run := Run.start s.defaultFiletype s.blocks Table.standard
          .finished (effect disk style d (run.extract disk (o.paths.filterMap (·.map Input.normal))))

def invocation (tokens : List String) : Invocation :=
  Packages.invocation (Selector.keepLast tokens)

def run (w : World) (tokens : List String) : Outcome :=
  match invocation tokens with
  | .help => .help
  | .version => .version
  | .usageError => .usageError
  | .extract o =>
    match envAssignments w with
    | .error failure => .noEnvironment failure
    | .ok assignments =>
      match settings (sources w assignments) o with
      | .error f => .finished (gaveUp w f)
      | .ok s => extract w o s

end Command

end CommentDoc
