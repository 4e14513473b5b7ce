import CommentDoc.Command.Console
import CommentDoc.Command.Options
import CommentDoc.Command.Packages
import CommentDoc.Settings.EnvFile
import CommentDoc.Settings.Report
import CommentDoc.Validation.Scalar

namespace CommentDoc

instance Packages.standard [Text.Edition] : Packages where
  invocation := Invocation.read
  assignments := EnvFile.assignments
  references := EnvFile.references
  table := EnvFile.table
  value? := Settings.Sources.value?
  invalidText := Settings.invalidText
  isSymbol := Text.Emoji.isSymbol
  shown := Console.shown
  beside := Console.beside

end CommentDoc
