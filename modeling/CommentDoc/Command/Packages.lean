import CommentDoc.Command.Invocation
import CommentDoc.Settings.Sources
import CommentDoc.Validation.Basic

/-! What the command has others do. -/

namespace CommentDoc

class Packages where
  /-- What the tokens ask for, in which selectors are not repeated. -/
  invocation : List String → Invocation
  assignments : List Char → List EnvFile.Assignment
  /-- The names to which a value in an environment file refers. -/
  references : String → List String
  /-- The names of an environment file with their last values, references resolved. -/
  table : (environment : List (String × String)) → List EnvFile.Assignment → List EnvFile.Assignment
  value? : Settings.Sources → (field : String) → Option Value
  invalidText : Settings.Sources → Invalid → String
  /-- Whether a name between two colons stands for a symbol in a message. -/
  isSymbol : List Char → Bool
  shown : (lead message : String) → String
  beside : (width : Nat) → (heading message : String) → String

end CommentDoc
