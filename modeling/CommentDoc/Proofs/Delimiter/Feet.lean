import CommentDoc.Proofs.Function.Outcome
import CommentDoc.Proofs.Scan.Marks

/-! The grammar of feet. A definition is read part by part, each as long as it gets; this finds
every definition of the grammar, since no part can go on with what begins the next. -/

namespace CommentDoc

namespace Foot

open Text (Blanks)

def Letter (c : Char) : Prop :=
  'a' ≤ c ∧ c ≤ 'z' ∨ 'A' ≤ c ∧ c ≤ 'Z'

def Digit (c : Char) : Prop :=
  '0' ≤ c ∧ c ≤ '9'

def NameStart (c : Char) : Prop :=
  Letter c ∨ c = '_'

def NameChar (marks : String) (c : Char) : Prop :=
  NameStart c ∨ Digit c ∨ c ∈ marks.toList

inductive Name (marks : String) : List Char → Prop
  | intro {c : Char} {cs : List Char} : NameStart c → (∀ d ∈ cs, NameChar marks d) → Name marks (c :: cs)

inductive Keyword (word : String) : List Char → Prop
  | intro {gap : List Char} : gap ≠ [] → Blanks gap → Keyword word (word.toList ++ gap)

section Characters

variable {c : Char}

lemma isUpper_iff : c.isUpper = true ↔ 'A' ≤ c ∧ c ≤ 'Z' :=
  decide_eq_true_iff

lemma isLower_iff : c.isLower = true ↔ 'a' ≤ c ∧ c ≤ 'z' :=
  Bool.and_eq_true_iff.trans (and_congr decide_eq_true_iff decide_eq_true_iff)

lemma isDigit_iff : c.isDigit = true ↔ Digit c :=
  Bool.and_eq_true_iff.trans (and_congr decide_eq_true_iff decide_eq_true_iff)

lemma isAlpha_iff : c.isAlpha = true ↔ Letter c :=
  Bool.or_eq_true_iff.trans ((or_congr isUpper_iff isLower_iff).trans or_comm)

lemma isNameStart_iff : isNameStart c = true ↔ NameStart c := by
  simp only [isNameStart, NameStart, Bool.or_eq_true, isAlpha_iff, beq_iff_eq]

lemma isScriptName_iff : isScriptName c = true ↔ NameChar "" c := by
  simp [isScriptName, NameChar, NameStart, Char.isAlphanum, isAlpha_iff, isDigit_iff, or_right_comm]

lemma isShellName_iff : isShellName c = true ↔ NameChar ".:+-" c := by
  simp only [isShellName, NameChar, NameStart, Char.isAlphanum, isAlpha_iff, isDigit_iff,
    Bool.or_eq_true, beq_iff_eq]
  simp only [String.reduceToList, List.mem_cons, List.not_mem_nil]
  grind

lemma isBlank_of_isShellName (h : isShellName c = true) : Text.isBlank c = false := by
  simp only [isShellName, Bool.or_eq_true, beq_iff_eq] at h
  rcases h with ((((h | rfl) | rfl) | rfl) | rfl) | rfl
  · exact Header.isBlank_of_isAlphanum h
  all_goals decide

lemma isShellName_of_isScriptName (h : isScriptName c = true) : isShellName c = true := by
  simp only [isShellName, isScriptName] at h ⊢
  simp [h]

end Characters

section Parts

variable {s rest : List Char} {marks : String} {other : Char → Bool}

lemma exists_blanks_trimStart (s : List Char) : ∃ gap, Blanks gap ∧ s = gap ++ Text.trimStart s :=
  ⟨s.takeWhile Text.isBlank, fun _ hc => List.mem_takeWhile_imp hc, List.takeWhile_append_dropWhile.symm⟩

lemma trimStart_blanks {gap : List Char} (hgap : Blanks gap) {c : Char} (hc : Text.isBlank c = false)
    (rest : List Char) :
    Text.trimStart (gap ++ c :: rest) = c :: rest := by
  apply Text.dropWhile_append_stop hgap
  rintro _ ⟨⟩
  exact hc

lemma beginsWith_trimStart_iff {c : Char} (hc : Text.isBlank c = false) :
    beginsWith c (Text.trimStart s) = true ↔ ∃ gap rest, Blanks gap ∧ s = gap ++ c :: rest := by
  constructor
  · intro h
    obtain ⟨gap, hgap, hs⟩ := exists_blanks_trimStart s
    obtain ⟨rest, hrest⟩ := List.head?_eq_some_iff.mp (beq_iff_eq.mp h)
    rw [hrest] at hs
    exact ⟨gap, rest, hgap, hs⟩
  · rintro ⟨gap, rest, hgap, rfl⟩
    rw [trimStart_blanks hgap hc]
    exact beq_self_eq_true (some c)

lemma name_of_afterName? (hother : ∀ c, other c = true ↔ NameChar marks c)
    (h : afterName? isNameStart other s = some rest) :
    ∃ name, Name marks name ∧ s = name ++ rest := by
  cases s with
  | nil => cases h
  | cons c s =>
    rw [afterName?] at h
    split at h
    next hstart =>
      obtain rfl := Option.some.inj h
      refine ⟨c :: s.takeWhile other, .intro (isNameStart_iff.mp hstart) ?_, ?_⟩
      · exact fun d hd => (hother d).mp (List.mem_takeWhile_imp hd)
      · rw [List.cons_append, List.takeWhile_append_dropWhile]
    next => cases h

lemma afterName?_name (hother : ∀ c, other c = true ↔ NameChar marks c) {name : List Char}
    (hname : Name marks name)
    (hrest : ∀ c ∈ rest.head?, other c = false) :
    afterName? isNameStart other (name ++ rest) = some rest := by
  cases hname with
  | intro hstart hname =>
    have hdrop := Text.dropWhile_append_stop (fun d hd => (hother d).mpr (hname d hd)) hrest
    rw [List.cons_append, afterName?, if_pos (isNameStart_iff.mpr hstart), hdrop]

-- neither blanks nor the parenthesis can be part of the name before them
lemma stops_opening (hother : ∀ c, other c = true → isShellName c = true) {gap : List Char}
    (hgap : Blanks gap)
    (rest : List Char) : ∀ c ∈ (gap ++ '(' :: rest).head?, other c = false := by
  intro c hc
  apply Bool.eq_false_iff.mpr
  intro h
  have hname := hother c h
  cases gap with
  | nil =>
    obtain rfl : '(' = c := Option.some.inj hc
    exact absurd hname (by decide)
  | cons b gap =>
    obtain rfl : b = c := Option.some.inj hc
    have hblank := hgap b List.mem_cons_self
    rw [isBlank_of_isShellName hname] at hblank
    cases hblank

end Parts

lemma isScriptDefinition_iff {s : List Char} : isScriptDefinition s = true ↔
    ∃ name gap rest, Name "" name ∧ Blanks gap ∧ s = name ++ (gap ++ '(' :: rest) := by
  have hopen : Text.isBlank '(' = false := by decide
  constructor
  · intro h
    rw [isScriptDefinition] at h
    split at h
    next rest hafter =>
      obtain ⟨name, hname, rfl⟩ := name_of_afterName? (fun _ => isScriptName_iff) hafter
      obtain ⟨gap, rest, hgap, rfl⟩ := (beginsWith_trimStart_iff hopen).mp h
      exact ⟨name, gap, rest, hname, hgap, rfl⟩
    next => cases h
  · rintro ⟨name, gap, rest, hname, hgap, rfl⟩
    have hstop := stops_opening (fun _ => isShellName_of_isScriptName) hgap rest
    rw [isScriptDefinition, afterName?_name (fun _ => isScriptName_iff) hname hstop]
    exact (beginsWith_trimStart_iff hopen).mpr ⟨gap, rest, hgap, rfl⟩

lemma isShellDefinition_iff {s : List Char} : isShellDefinition s = true ↔
    ∃ name gap inside rest, Name ".:+-" name ∧ Blanks gap ∧ Blanks inside ∧
      s = name ++ (gap ++ '(' :: (inside ++ ')' :: rest)) := by
  have hclose : Text.isBlank ')' = false := by decide
  constructor
  · intro h
    rw [isShellDefinition] at h
    split at h
    next rest hafter =>
      obtain ⟨name, hname, rfl⟩ := name_of_afterName? (fun _ => isShellName_iff) hafter
      obtain ⟨gap, hgap, hrest⟩ := exists_blanks_trimStart rest
      split at h
      next inner hinner =>
        obtain ⟨inside, rest', hinside, rfl⟩ := (beginsWith_trimStart_iff hclose).mp h
        rw [hinner] at hrest
        exact ⟨name, gap, inside, rest', hname, hgap, hinside, congrArg (name ++ ·) hrest⟩
      next => cases h
    next => cases h
  · rintro ⟨name, gap, inside, rest, hname, hgap, hinside, rfl⟩
    have hstop := stops_opening (fun _ => id) hgap (inside ++ ')' :: rest)
    have hopen : Text.trimStart (gap ++ '(' :: (inside ++ ')' :: rest)) = _ :=
      trimStart_blanks hgap (by decide) _
    rw [isShellDefinition, afterName?_name (fun _ => isShellName_iff) hname hstop]
    simp only [hopen]
    exact (beginsWith_trimStart_iff hclose).mpr ⟨inside, rest, hinside, rfl⟩

lemma isBlank_of_name {marks : String} {name : List Char} (h : Name marks name) (rest : List Char) :
    ∀ c ∈ (name ++ rest).head?, Text.isBlank c = false := by
  cases h with
  | intro hstart _ =>
    rintro _ ⟨⟩
    exact Header.isBlank_of_isNameChar (Header.isNameChar_of_isNameStart (isNameStart_iff.mpr hstart))

-- a definition begins with a name, so that all blanks behind the word belong to the gap
lemma isDeclared_iff (word : String) {definition : List Char → Bool} {s : List Char}
    (hdefinition : ∀ t, definition t = true → ∀ c ∈ t.head?, Text.isBlank c = false) :
    isDeclared word.toList definition s = true ↔
      ∃ keyword t, Keyword word keyword ∧ definition t = true ∧ s = keyword ++ t := by
  constructor
  · intro h
    rw [isDeclared] at h
    split at h
    next t hafter =>
      obtain ⟨u, hword, hblanks⟩ := Option.bind_eq_some_iff.mp hafter
      obtain rfl := Text.after?_eq_some_iff.mp hword
      obtain ⟨gap, hne, hgap, rfl⟩ := Header.eq_append_of_afterBlanks? hblanks
      exact ⟨word.toList ++ gap, t, .intro hne hgap, h, (List.append_assoc ..).symm⟩
    next => cases h
  · rintro ⟨keyword, t, hkeyword, ht, rfl⟩
    cases hkeyword with
    | @intro gap hne hgap =>
      have hword : Text.after? word.toList (word.toList ++ gap ++ t) = some (gap ++ t) :=
        Text.after?_eq_some_iff.mpr (List.append_assoc ..)
      rw [isDeclared, hword, Option.bind_some, Header.afterBlanks?_blanks hne hgap (hdefinition t ht)]
      exact ht

lemma accepts_scriptFunction_iff {s : List Char} : accepts .scriptFunction s = true ↔
    ∃ keyword name gap rest, (Keyword "func" keyword ∨ Keyword "function" keyword) ∧ Name "" name ∧
      Blanks gap ∧
      s = keyword ++ (name ++ (gap ++ '(' :: rest)) := by
  have hblank : ∀ t, isScriptDefinition t = true → ∀ c ∈ t.head?, Text.isBlank c = false := by
    intro t ht
    obtain ⟨name, gap, rest, hname, -, rfl⟩ := isScriptDefinition_iff.mp ht
    exact isBlank_of_name hname _
  have hfunction : isDeclared functionWord isScriptDefinition s = true ↔ _ := isDeclared_iff "function" hblank
  have hfunc : isDeclared funcWord isScriptDefinition s = true ↔ _ := isDeclared_iff "func" hblank
  rw [accepts, Bool.or_eq_true, hfunction, hfunc]
  constructor
  · rintro (⟨keyword, t, hkeyword, ht, rfl⟩ | ⟨keyword, t, hkeyword, ht, rfl⟩) <;>
      obtain ⟨name, gap, rest, hname, hgap, rfl⟩ := isScriptDefinition_iff.mp ht
    · exact ⟨keyword, name, gap, rest, Or.inr hkeyword, hname, hgap, rfl⟩
    · exact ⟨keyword, name, gap, rest, Or.inl hkeyword, hname, hgap, rfl⟩
  · rintro ⟨keyword, name, gap, rest, hkeyword, hname, hgap, rfl⟩
    have ht := isScriptDefinition_iff.mpr ⟨name, gap, rest, hname, hgap, rfl⟩
    rcases hkeyword with hkeyword | hkeyword
    · exact Or.inr ⟨keyword, _, hkeyword, ht, rfl⟩
    · exact Or.inl ⟨keyword, _, hkeyword, ht, rfl⟩

lemma accepts_shellFunction_iff {s : List Char} : accepts .shellFunction s = true ↔
    ∃ keyword name gap inside rest, (keyword = [] ∨ Keyword "function" keyword) ∧ Name ".:+-" name ∧
      Blanks gap ∧
      Blanks inside ∧ s = keyword ++ (name ++ (gap ++ '(' :: (inside ++ ')' :: rest))) := by
  have hblank : ∀ t, isShellDefinition t = true → ∀ c ∈ t.head?, Text.isBlank c = false := by
    intro t ht
    obtain ⟨name, gap, inside, rest, hname, -, -, rfl⟩ := isShellDefinition_iff.mp ht
    exact isBlank_of_name hname _
  have hfunction : isDeclared functionWord isShellDefinition s = true ↔ _ := isDeclared_iff "function" hblank
  rw [accepts, Bool.or_eq_true, hfunction]
  constructor
  · rintro (⟨keyword, t, hkeyword, ht, rfl⟩ | ht) <;>
      obtain ⟨name, gap, inside, rest, hname, hgap, hinside, rfl⟩ := isShellDefinition_iff.mp ht
    · exact ⟨keyword, name, gap, inside, rest, Or.inr hkeyword, hname, hgap, hinside, rfl⟩
    · exact ⟨[], name, gap, inside, rest, Or.inl rfl, hname, hgap, hinside, rfl⟩
  · rintro ⟨keyword, name, gap, inside, rest, hkeyword, hname, hgap, hinside, rfl⟩
    have ht := isShellDefinition_iff.mpr ⟨name, gap, inside, rest, hname, hgap, hinside, rfl⟩
    rcases hkeyword with rfl | hkeyword
    · exact Or.inr ht
    · exact Or.inl ⟨keyword, _, hkeyword, ht, rfl⟩

end Foot

open Foot (Keyword Name)
open Text (Blanks)

theorem feet_follow_grammar (s : List Char) :
    (Family.shell.delimiters.isFoot .function s = true ↔
      ∃ keyword name gap inside rest, (keyword = [] ∨ Keyword "function" keyword) ∧ Name ".:+-" name ∧
        Blanks gap ∧
        Blanks inside ∧ s = keyword ++ (name ++ (gap ++ '(' :: (inside ++ ')' :: rest)))) ∧
    (Family.script.delimiters.isFoot .function s = true ↔
      ∃ keyword name gap rest, (Keyword "func" keyword ∨ Keyword "function" keyword) ∧ Name "" name ∧
        Blanks gap ∧
        s = keyword ++ (name ++ (gap ++ '(' :: rest))) ∧
    (Family.cLike.delimiters.isFoot .function s = true ↔
      ∃ blanks, Blanks blanks ∧ s = "*/".toList ++ blanks) ∧
    (Family.cLike.delimiters.isFoot .generic s = true ↔
      ∃ blanks, Blanks blanks ∧ s = "**/".toList ++ blanks) :=
  ⟨Foot.accepts_shellFunction_iff, Foot.accepts_scriptFunction_iff, Foot.accepts_mark_iff,
    Foot.accepts_mark_iff⟩

-- the word is a name where no other one follows
example : ["function ()", "function f\t( )", "function f"].map
    (fun s => Family.shell.delimiters.isFoot .function s.toList) =
    [true, true, false] := by
  decide

end CommentDoc
