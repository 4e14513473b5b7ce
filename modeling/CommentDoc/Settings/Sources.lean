import CommentDoc.Text.Case
import CommentDoc.Value

namespace CommentDoc

namespace EnvFile

abbrev Assignment := String × Option String

end EnvFile

namespace Settings

structure Sources where
  given : List (String × Value)
  environment : List (String × String)
  file : List EnvFile.Assignment

def namesField (field name : String) : Bool :=
  Text.lower name.toList = "procdoc_".toList ++ field.toList

def lastValue? {α : Type} (field : String) (assignments : List (String × α)) : Option α :=
  (assignments.reverse.find? fun (name, _) => namesField field name).map (·.2)

def Sources.value? (s : Sources) (field : String) : Option Value :=
  match s.given.lookup field with
  | some v => some v
  | none =>
    match lastValue? field s.environment with
    | some text => some (.text text)
    | none => (lastValue? field s.file).join.map .text

end Settings

end CommentDoc
