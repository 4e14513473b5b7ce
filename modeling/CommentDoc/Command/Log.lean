import CommentDoc.Command.Packages
import CommentDoc.Run.Basic
import CommentDoc.Settings.Basic

namespace CommentDoc

variable [Text.Edition] [Packages]

namespace LogEntry

def level : LogEntry → Int
  | .scanning .. => 10
  | .report d => if d.severity = .warning then 30 else 40

def levelName : LogEntry → String
  | .scanning .. => "DEBUG"
  | .report d => Labelled.name d.severity

def message : LogEntry → String
  | .scanning file filetype family =>
    "Scanning " ++ file ++ " as filetype " ++ quoted filetype ++ " (" ++ Labelled.heading family ++
      " family)"
  | .report d => d.text

end LogEntry

structure LogStyle where
  rich : Bool
  threshold : Int
deriving DecidableEq, Repr

namespace LogStyle

def errorLevel : Int :=
  40

/-- Level zero leaves the choice to the surroundings, which show warnings. -/
def effective (level : Int) : Int :=
  if level = 0 then Settings.warningLevel else level

def ofSettings (settings : Settings) (quiet : Bool) : LogStyle where
  rich := settings.richLogging
  threshold := effective (if quiet then max settings.logLevel errorLevel else settings.logLevel)

def levelWidth : Nat :=
  9

def line (style : LogStyle) (e : LogEntry) : String :=
  if style.rich then Packages.beside levelWidth e.levelName e.message
  else e.levelName ++ ": " ++ e.message ++ "\n"

def render (style : LogStyle) (log : List LogEntry) : String :=
  String.join ((log.filter fun e => style.threshold ≤ e.level).map style.line)

end LogStyle

end CommentDoc
