import CommentDoc.Command.Packages
import CommentDoc.Command.Selector
import CommentDoc.Text.Blank
import Mathlib.Data.List.Infix

/-! What the command may rely on in what it has others do. Nothing is said of how they do it. -/

namespace CommentDoc

def quietFlags : List String :=
  ["-q", "--quiet"]

def Invocation.aloud : Invocation → Invocation
  | .extract o => .extract { o with quiet := false }
  | invocation => invocation

namespace EnvFile

/-- Of a name it is told whether a reference to it may depend on some variables. After an
assignment a reference to its name depends on them if a reference in its value does. -/
def dependsAfter (references : String → List String) (depends : String → Bool) (a : Assignment)
    (name : String) : Bool :=
  if name = a.1 then ((a.2.map references).getD []).any depends else depends name

def depends (references : String → List String) (hidden : String → Bool) (as : List Assignment) :
    String → Bool :=
  as.foldl (dependsAfter references) hidden

end EnvFile

namespace Console

def NamesSymbol (isSymbol : List Char → Bool) (s : List Char) : Prop :=
  ∃ body, ':' :: (body ++ [':']) <:+: s ∧ ':' ∉ body ∧ (∀ c ∈ body, Text.isBlank c = false) ∧
    isSymbol body = true

def movers : List Char :=
  ['\t', '\x07', '\x08', '\x0b', '\x0c', '\r']

def Still (s : List Char) : Prop :=
  ∀ c ∈ s, c ∉ movers

instance (s : List Char) : Decidable (Still s) :=
  List.decidableBAll (fun c => c ∉ movers) s

section

variable {isSymbol : List Char → Bool} {s t : List Char}

lemma NamesSymbol.mono (h : NamesSymbol isSymbol s) (hs : s <:+: t) : NamesSymbol isSymbol t := by
  obtain ⟨body, hbody, hrest⟩ := h
  exact ⟨body, hbody.trans hs, hrest⟩

lemma Still.append (hs : Still s) (ht : Still t) : Still (s ++ t) := by
  intro c hc
  exact (List.mem_append.mp hc).elim (hs c) (ht c)

end

/-- Nothing in the text is read as anything but itself. -/
structure Plain (isSymbol : List Char → Bool) (s : List Char) : Prop where
  symbols : ¬ NamesSymbol isSymbol s
  escapes : ¬ ['\\', '['] <:+: s
  ending : s.getLast? ≠ some '\\'
  controls : Still s

end Console

class LawfulPackages [Packages] : Prop where
  /-- The flag for quiet sets nothing but the flag, wherever it stands among the options. -/
  aloud_insert {before after : List String} {flag : String} :
    flag ∈ quietFlags → Selector.endOfOptions ∉ before →
      Packages.invocation (before ++ after) ≠ .usageError →
      Packages.invocation (before ++ flag :: after) ≠ .usageError →
      (Packages.invocation (before ++ flag :: after)).aloud = (Packages.invocation (before ++ after)).aloud
  /-- A value depends on the variables to which it refers, by itself or by way of other names. -/
  table_congr {hidden : String → Bool} {environment environment' : List (String × String)}
    (as : List EnvFile.Assignment) :
    (∀ name, hidden name = false → environment.lookup name = environment'.lookup name) →
      (Packages.table environment as).filter (fun a => !EnvFile.depends Packages.references hidden as a.1) =
        (Packages.table environment' as).filter fun a => !EnvFile.depends Packages.references hidden as a.1
  /-- The value of a setting is that of a variable with its name. -/
  value?_congr {sources sources' : Settings.Sources} {field : String} :
    sources.given.lookup field = sources'.given.lookup field →
      (sources.environment.filter fun v => Settings.namesField field v.1) =
        (sources'.environment.filter fun v => Settings.namesField field v.1) →
      (sources.file.filter fun v => Settings.namesField field v.1) =
        (sources'.file.filter fun v => Settings.namesField field v.1) →
      Packages.value? sources field = Packages.value? sources' field
  /-- A plain message is shown as it is. -/
  shown_plain {lead message : String} :
    Console.Still lead.toList → Console.Plain Packages.isSymbol message.toList →
      Packages.shown lead message = lead ++ message

end CommentDoc
