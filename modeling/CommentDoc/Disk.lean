import CommentDoc.Path
import CommentDoc.Text.Quoted
import CommentDoc.Text.Utf8

/-! A tree of directories and files below a working directory. Files have identities of their own:
one that is written again keeps its identity, and one that is removed can still be read by whoever
has it open. -/

namespace CommentDoc

open Text.Utf8 (Octets)

variable [Text.Edition]

abbrev Place := List String

inductive FileError where
  | noEntry
  | inputOutput
  | permissionDenied
  | notDirectory
  | isDirectory
  | nameTooLong
  | tooManyLinks
  | other (number : Nat) (message : String)
deriving DecidableEq, Repr

namespace FileError

def message : FileError → String
  | .noEntry => "No such file or directory"
  | .inputOutput => "Input/output error"
  | .permissionDenied => "Permission denied"
  | .notDirectory => "Not a directory"
  | .isDirectory => "Is a directory"
  | .nameTooLong => "File name too long"
  | .tooManyLinks => "Too many levels of symbolic links"
  | .other _ message => message

def number : FileError → Nat
  | .noEntry => 2
  | .inputOutput => 5
  | .permissionDenied => 13
  | .notDirectory => 20
  | .isDirectory => 21
  | .nameTooLong => 36
  | .tooManyLinks => 40
  | .other number _ => number

/-- Whether the error only says that no file is there; number 9 is that of a bad descriptor. -/
def isAbsence : FileError → Bool
  | .noEntry => true
  | .notDirectory => true
  | .isDirectory => true
  | .tooManyLinks => true
  | .other number _ => number = 9
  | _ => false

def text (e : FileError) : String :=
  "[Errno " ++ toString e.number ++ "] " ++ e.message

def describe (e : FileError) (name : String) : String :=
  e.text ++ ": " ++ quoted name

end FileError

inductive Node where
  | directory
  | file (identity : Nat)
  | blocked (cause : FileError)
deriving DecidableEq, Repr

/-- What is wrong with a file: the errors of opening it to be read, of reading it and of opening
it to be written. A file that breaks off when it is read is said to hold what comes before. -/
structure Faults where
  opening : Option FileError
  reading : Option FileError
  writing : Option FileError
deriving DecidableEq, Repr

structure Disk where
  nodes : List (Place × Node)
  contents : List Octets
  faults : List (Nat × Faults)
deriving DecidableEq, Repr

namespace Disk

def home : Place :=
  ["home"]

def empty : Disk :=
  ⟨[([], .directory), (home, .directory)], [], []⟩

def node? (d : Disk) (p : Place) : Option Node :=
  d.nodes.lookup p

def content (d : Disk) (identity : Nat) : Octets :=
  (d.contents[identity]?).getD []

def openingFault? (d : Disk) (identity : Nat) : Option FileError :=
  (d.faults.lookup identity).bind Faults.opening

def readingFault? (d : Disk) (identity : Nat) : Option FileError :=
  (d.faults.lookup identity).bind Faults.reading

def writingFault? (d : Disk) (identity : Nat) : Option FileError :=
  (d.faults.lookup identity).bind Faults.writing

def nameLimit : Nat :=
  255

def pathLimit : Nat :=
  4095

def step (here : Place) (name : String) : Place :=
  if name = ".." then here.dropLast else here ++ [name]

def walk (d : Disk) : Place → List String → Except FileError Place
  | here, [] => .ok here
  | here, name :: rest =>
    match d.node? here with
    | some .directory =>
      if nameLimit < name.utf8ByteSize then .error .nameTooLong
      else
        match d.node? (step here name) with
        | some (.blocked cause) => .error cause
        | some _ => d.walk (step here name) rest
        | none => .error .noEntry
    | _ => .error .notDirectory

def start (p : Path) : Place :=
  if p.root = "" then home else []

def placeOf (p : Path) : Place :=
  p.parts.foldl step (start p)

def find (d : Disk) (p : Path) : Except FileError Place :=
  if pathLimit < p.text.utf8ByteSize then .error .nameTooLong else d.walk (start p) p.parts

def fileAt (d : Disk) (p : Path) : Except FileError Nat := do
  let place ← d.find p
  match d.node? place with
  | some (.file identity) => return identity
  | _ => .error .isDirectory

def openFile (d : Disk) (p : Path) : Except FileError Nat := do
  let identity ← d.fileAt p
  match d.openingFault? identity with
  | some cause => .error cause
  | none => return identity

def read (d : Disk) (p : Path) : Except FileError Octets :=
  (d.fileAt p).map d.content

def putAt (d : Disk) (p : Place) (octets : Octets) : Disk :=
  match d.node? p with
  | some (.file identity) => { d with contents := d.contents.set identity octets }
  | some _ => d
  | none =>
    { d with nodes := d.nodes ++ [(p, .file d.contents.length)], contents := d.contents ++ [octets] }

def makeDirectory (d : Disk) (p : Place) : Disk :=
  match d.node? p with
  | some _ => d
  | none => { d with nodes := d.nodes ++ [(p, .directory)] }

def makeDirectories (d : Disk) (here : Place) : List String → Disk
  | [] => d
  | name :: rest => (d.makeDirectory (step here name)).makeDirectories (step here name) rest

def target (d : Disk) (p : Path) : Except FileError Place :=
  match p.parts.getLast? with
  | none => .error .isDirectory
  | some name => do
    if pathLimit < p.text.utf8ByteSize then .error .nameTooLong
    let directory ← d.walk (start p) p.parts.dropLast
    match d.node? directory with
    | some .directory =>
      if name = ".." then .error .isDirectory
      else if nameLimit < name.utf8ByteSize then .error .nameTooLong
      else
        match d.node? (directory ++ [name]) with
        | some .directory => .error .isDirectory
        | some (.blocked cause) => .error cause
        | some (.file identity) =>
          match d.writingFault? identity with
          | some cause => .error cause
          | none => return directory ++ [name]
        | none => return directory ++ [name]
    | _ => .error .notDirectory

def remove (d : Disk) (p : Place) : Disk :=
  { d with nodes := d.nodes.filter (·.1 ≠ p) }

def addFile (d : Disk) (p : Path) (octets : Octets) : Disk :=
  (d.makeDirectories (start p) p.parts.dropLast).putAt (placeOf p) octets

def addFaulty (d : Disk) (p : Path) (octets : Octets) (faults : Faults) : Disk :=
  let d := d.addFile p octets
  match d.node? (placeOf p) with
  | some (.file identity) => { d with faults := (identity, faults) :: d.faults }
  | _ => d

def addDirectory (d : Disk) (p : Path) : Disk :=
  d.makeDirectories (start p) p.parts

def files (d : Disk) : List (Place × Octets) :=
  d.nodes.filterMap fun
    | (p, .file identity) => some (p, d.content identity)
    | _ => none

def relative (p : Place) : String :=
  if home.isPrefixOf p then "/".intercalate (p.drop home.length) else "/" ++ "/".intercalate p

def changes (before after : Disk) : List (String × Octets) :=
  (after.files.filter (· ∉ before.files)).map fun (p, octets) => (relative p, octets)

end Disk

end CommentDoc
