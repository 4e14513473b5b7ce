import CommentDoc.Command.Basic
import CommentDoc.Command.Standard
import CommentDoc.Text.Unicode

namespace CommentDoc.Main

def usage : String :=
  "Usage: procdoc [OPTIONS] PATHS...\n\n" ++
  "Extract documentation blocks from source files as JSON Lines.\n\n" ++
  "  -f, --functions    Output only function blocks.\n" ++
  "  -g, --generics     Output only generic blocks.\n" ++
  "  -o, --output FILE  Write output to this file.\n" ++
  "  -t, --type TYPE    Use this as the default filetype.\n" ++
  "  -q, --quiet        Only report errors, not warnings.\n" ++
  "  -h, --help         Display this message and exit.\n" ++
  "  -v, --version      Display the version and exit.\n"

def variableNames : List String :=
  ["PROCDOC_DEFAULT_FILETYPE", "PROCDOC_BLOCKS", "PROCDOC_LOG_LEVEL", "PROCDOC_RICH_LOGGING"]

def references (disk : Disk) : List String :=
  match Command.envAssignments ⟨disk, []⟩ with
  | .ok assignments => assignments.flatMap fun (_, value) => (value.map Packages.references).getD []
  | .error _ => []

def environment (names : List String) : IO (List (String × String)) :=
  names.filterMapM fun name => return (← IO.getEnv name).map (name, ·)

def load (disk : Disk) (path : Path) : IO Disk := do
  match ← (IO.FS.readBinFile path.text).toBaseIO with
  | .ok octets => return disk.addFile path octets.toList
  | .error (.inappropriateType _ number _) =>
    return if number.toNat = FileError.isDirectory.number then disk.addDirectory path else disk
  | .error (.permissionDenied ..) =>
    return disk.addFaulty path [] ⟨some .permissionDenied, none, none⟩
  | .error (.hardwareFault ..) => return disk.addFaulty path [] ⟨none, some .inputOutput, none⟩
  | .error _ => return disk

def parent (path : Path) : Path :=
  { path with parts := path.parts.dropLast }

def output? (tokens : List String) : Option Path :=
  match Command.invocation tokens with
  | .extract options => options.output.map Path.ofString
  | _ => none

def paths (tokens : List String) : List Path :=
  let output := (output? tokens).toList
  match Command.invocation tokens with
  | .extract options =>
    Command.envFile :: options.paths.filterMap (·.map Path.ofString) ++ output.map parent ++ output
  | _ => []

def store (output : Option Path) (before after : Disk) : IO Unit := do
  if before.files ≠ after.files then
    output.forM fun path =>
      match after.read path with
      | .ok octets => IO.FS.writeBinFile path.text ⟨octets.toArray⟩
      | .error _ => return

def report (outcome : Outcome) (output : Option Path) (before : Disk) : IO UInt32 := do
  match outcome with
  | .help => IO.print usage; return 0
  | .version => IO.println ("procdoc version " ++ version); return 0
  | .usageError => IO.eprint usage; return 1
  | .finished effect =>
    store output before effect.disk
    IO.print effect.stdout
    IO.eprint effect.stderr
    return UInt32.ofNat effect.status
  | .noEnvironment failure => IO.eprintln failure.message; return 1
  | .refused error name => IO.eprintln (error.describe name); return 1
  | .nullInName => IO.eprintln ReadError.nullInName.message; return 1
  | .noPath => IO.eprintln Command.noPathMessage; return 1

end CommentDoc.Main

open CommentDoc in
def main (tokens : List String) : IO UInt32 := do
  let disk ← (Main.paths tokens).foldlM Main.load Disk.empty
  let world : World := ⟨disk, ← Main.environment (Main.variableNames ++ Main.references disk)⟩
  Main.report (Command.run world tokens) (Main.output? tokens) disk
