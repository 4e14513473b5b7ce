import CommentDoc.Text.Quoted

namespace CommentDoc

variable [Text.Edition]

inductive Package where
  | core
  | engine
  | cli
deriving DecidableEq, Repr

namespace Package

def name : Package → String
  | .core => "core"
  | .engine => "engine"
  | .cli => "cli"

def ofName? (s : String) : Option Package :=
  [.core, .engine, .cli].find? (·.name = s)

def exports : Package → List String
  | .core =>
    ["BASEDMODEL_CONFIG", "BaseEnum", "BasedModel", "Block", "BlockKind", "BlockRecord",
      "BlockSelection", "DelimiterSet", "Diagnostic", "FROZEN_BASEDMODEL_CONFIG", "FUNCTION_MARKUP",
      "FamilyDelimiters", "FiletypeFamily", "FunctionContent", "GenericContent", "LineSpan", "Member",
      "NEVER_MATCH", "NO_HEADING", "NO_MARKUP", "Paragraph", "RootedRoot", "Severity",
      "create_lazy_getattr"]
  | .engine =>
    ["BlockScanner", "DELIMITER_TABLE", "DelimiterTable", "FunctionContentParser",
      "GenericContentParser", "Run", "ScanResult", "ScanState", "ScanStatus", "get_delimiters",
      "parse_block", "serialize_record", "write_records"]
  | .cli => ["app", "extract", "keep_last_selector", "main"]

def builtin : List String :=
  ["MappingProxyType", "__all__", "__builtins__", "__cached__", "__dict__", "__dir__", "__doc__",
    "__file__", "__getattr__", "__loader__", "__name__", "__package__", "__path__", "__spec__",
    "_dynamic_imports", "create_lazy_getattr"]

def universal : List String :=
  ["__annotations__", "__class__", "__delattr__", "__eq__", "__format__", "__ge__",
    "__getattribute__", "__getstate__", "__gt__", "__hash__", "__init__", "__init_subclass__",
    "__le__", "__lt__", "__ne__", "__new__", "__reduce__", "__reduce_ex__", "__repr__",
    "__setattr__", "__sizeof__", "__str__", "__subclasshook__"]

def parts : Package → List String
  | .core => ["blocks", "types", "utils"]
  | .engine =>
    ["TYPE_CHECKING", "annotations", "delimiters", "parsers", "run", "scanner", "serializer"]
  | .cli => ["TYPE_CHECKING", "__main__"]

def has (p : Package) (s : String) : Bool :=
  s ∈ p.exports || s ∈ p.parts || s ∈ builtin || s ∈ universal

def missingMessage (p : Package) (s : String) : String :=
  "module " ++ quoted ("procdoc." ++ p.name) ++ " has no attribute " ++ quoted s

end Package

end CommentDoc
