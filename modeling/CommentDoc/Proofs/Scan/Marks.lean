import CommentDoc.Block.Scan
import CommentDoc.Proofs.Text.Trimming

namespace CommentDoc

lemma Foot.accepts_mark_iff {text s : List Char} :
    accepts (.mark text) s = true ↔ ∃ blanks, Text.Blanks blanks ∧ s = text ++ blanks := by
  constructor
  · intro h
    rw [accepts] at h
    split at h
    next rest hafter => exact ⟨rest, List.all_eq_true.mp h, Text.after?_eq_some_iff.mp hafter⟩
    next => cases h
  · rintro ⟨blanks, hblanks, rfl⟩
    have hafter : Text.after? text (text ++ blanks) = some blanks := Text.after?_eq_some_iff.mpr rfl
    rw [accepts, hafter]
    exact List.all_eq_true.mpr hblanks

lemma Lead.strip?_eq_some_iff {style : CommentStyle} {s text : List Char} :
    strip? style s = some text ↔ s = style.leadChar :: ' ' :: text ∨
      s = style.leadChar :: text ∧ (text = [] ∨ text = ['\n']) := by
  constructor
  · intro h
    unfold strip? at h
    split at h
    next => cases h
    next c rest =>
      split at h
      next hc =>
        subst hc
        split at h
        next =>
          obtain rfl := Option.some.inj h
          exact Or.inl rfl
        next =>
          obtain rfl := Option.some.inj h
          exact Or.inr ⟨rfl, Or.inl rfl⟩
        next =>
          obtain rfl := Option.some.inj h
          exact Or.inr ⟨rfl, Or.inr rfl⟩
        next => cases h
      next => cases h
  · rintro (rfl | ⟨rfl, rfl | rfl⟩) <;> cases style <;> rfl

lemma Lead.strip?_eq_some_iff_of_notMem {style : CommentStyle} {s text : List Char} (hone : '\n' ∉ s) :
    strip? style s = some text ↔ s = style.leadChar :: ' ' :: text ∨ text = [] ∧ s = [style.leadChar] := by
  rw [strip?_eq_some_iff]
  constructor
  · rintro (hspace | ⟨hbare, rfl | rfl⟩)
    · exact Or.inl hspace
    · exact Or.inr ⟨rfl, hbare⟩
    · exact absurd (by simp [hbare]) hone
  · rintro (hspace | ⟨rfl, hbare⟩)
    · exact Or.inl hspace
    · exact Or.inr ⟨hbare, Or.inl rfl⟩

def Indented (text : List Char) (line : String) : Prop :=
  ∃ indent, (∀ c ∈ indent, c = ' ' ∨ c = '\t') ∧ line.toList = indent ++ text

lemma Indented.unindented {text : List Char} {line : String} (h : Indented text line)
    (hhead : ∀ c ∈ text.head?, Text.isIndent c = false) : Source.unindented line = text := by
  obtain ⟨indent, hindent, hline⟩ := h
  rw [Source.unindented, hline]
  apply Text.dropWhile_append_stop _ hhead
  intro c hc
  rcases hindent c hc with rfl | rfl <;> rfl

def CommentStyle.Leads (style : CommentStyle) (text line : String) : Prop :=
  Indented (style.leadChar :: ' ' :: text.toList) line ∨ text = "" ∧ Indented [style.leadChar] line

namespace Family

variable (family : Family)

def style : CommentStyle :=
  family.delimiters.generic.style

def HeadLine (line : String) : Prop :=
  ∃ kind, family.delimiters.isHead kind (Source.unindented line) = true

def FootLine (line : String) : Prop :=
  ∃ kind, family.delimiters.isFoot kind (Source.unindented line) = true

def leadText? (line : String) : Option String :=
  (family.delimiters.strip? .generic (Source.unindented line)).map String.ofList

def LeadLine (line : String) : Prop :=
  (family.leadText? line).isSome = true

variable {family}

lemma isHead_generic {kind : BlockKind} {content : List Char}
    (h : family.delimiters.isHead kind content = true) :
    family.delimiters.isHead .generic content = true := by
  cases kind with
  | generic => exact h
  | function =>
    cases family with
    | fallback => exact absurd h Bool.false_ne_true
    | script | shell | cLike => exact h

lemma headLine_iff {line : String} :
    family.HeadLine line ↔ family.delimiters.isHead .generic (Source.unindented line) = true :=
  ⟨fun ⟨_, h⟩ => isHead_generic h, fun h => ⟨.generic, h⟩⟩

lemma headKind?_of_headLine {line : String} (h : family.HeadLine line) :
    family.delimiters.headKind? (Source.unindented line) = some .generic := by
  simp [Delimiters.headKind?, Delimiters.kinds, headLine_iff.mp h]

lemma headKind?_of_not_headLine {line : String} (h : ¬ family.HeadLine line) :
    family.delimiters.headKind? (Source.unindented line) = none := by
  apply List.find?_eq_none.mpr
  intro kind _ hk
  exact h ⟨kind, hk⟩

lemma footLine_iff {line : String} :
    family.FootLine line ↔ (family.delimiters.footKind? (Source.unindented line)).isSome = true := by
  simp only [Delimiters.footKind?, Delimiters.kinds, List.find?_isSome, FootLine]
  constructor
  · rintro ⟨kind, h⟩
    exact ⟨kind, by cases kind <;> simp, h⟩
  · rintro ⟨kind, _, h⟩
    exact ⟨kind, h⟩

instance (line : String) : Decidable (family.HeadLine line) :=
  decidable_of_iff _ headLine_iff.symm

instance (line : String) : Decidable (family.FootLine line) :=
  decidable_of_iff _ footLine_iff.symm

instance (line : String) : Decidable (family.LeadLine line) :=
  inferInstanceAs (Decidable ((family.leadText? line).isSome = true))

lemma open?_of_headLine {line : String} (h : family.HeadLine line) (n : Nat) :
    Draft.open? family.delimiters n line =
      some ⟨.generic, ((Head.tag? (Source.unindented line)).map String.ofList).getD noMarkup, n, []⟩ := by
  simp [Draft.open?, headKind?_of_headLine h, Delimiters.tag?]

lemma open?_of_not_headLine {line : String} (h : ¬ family.HeadLine line) (n : Nat) :
    Draft.open? family.delimiters n line = none := by
  simp [Draft.open?, headKind?_of_not_headLine h]

lemma footKind?_of_not_footLine {line : String} (h : ¬ family.FootLine line) :
    family.delimiters.footKind? (Source.unindented line) = none := by
  simpa [footLine_iff] using h

lemma read_lead {b : Draft} (hb : b.kind = .generic) {line text : String} (hf : ¬ family.FootLine line)
    (ht : family.leadText? line = some text) (n : Nat) :
    b.read family.delimiters n line = .inl { b with captured := b.captured ++ [text] } := by
  obtain ⟨cs, hcs, rfl⟩ := Option.map_eq_some_iff.mp ht
  simp [Draft.read, footKind?_of_not_footLine hf, hb, hcs, Draft.push]

lemma read_foot {b : Draft} {line : String} {foot : BlockKind}
    (hf : family.delimiters.footKind? (Source.unindented line) = some foot) (n : Nat) :
    b.read family.delimiters n line = .inr (b.close foot n) := by
  simp [Draft.read, hf]

lemma read_stray {b : Draft} (hb : b.kind = .generic) {line : String} (hf : ¬ family.FootLine line)
    (hl : ¬ family.LeadLine line) (n : Nat) :
    b.read family.delimiters n line = .inr (b.abandon n) := by
  have hs : family.delimiters.strip? .generic (Source.unindented line) = none := by
    simpa [LeadLine, leadText?] using hl
  simp [Draft.read, footKind?_of_not_footLine hf, hb, hs]

lemma not_isFoot_generic {content : List Char} (h : family.delimiters.isFoot .function content = true) :
    family.delimiters.isFoot .generic content = false := by
  cases hg : family.delimiters.isFoot .generic content with
  | false => rfl
  | true =>
    cases family with
    | fallback => exact absurd h Bool.false_ne_true
    | script | shell | cLike =>
      obtain ⟨blanks, -, rfl⟩ := Foot.accepts_mark_iff.mp hg
      exact absurd h Bool.false_ne_true

lemma footKind?_function {content : List Char} (h : family.delimiters.isFoot .function content = true) :
    family.delimiters.footKind? content = some .function := by
  simp [Delimiters.footKind?, Delimiters.kinds, not_isFoot_generic h, h]

lemma footKind?_generic {content : List Char} (h : family.delimiters.isFoot .generic content = true) :
    family.delimiters.footKind? content = some .generic := by
  simp [Delimiters.footKind?, Delimiters.kinds, h]

lemma isFoot_function_iff {line : String} {foot : BlockKind}
    (h : family.delimiters.footKind? (Source.unindented line) = some foot) :
    family.delimiters.isFoot .function (Source.unindented line) = true ↔ foot = .function := by
  constructor
  · intro hf
    rw [footKind?_function hf] at h
    exact (Option.some.inj h).symm
  · rintro rfl
    have hf := List.find?_some h
    exact hf

lemma isIndent_leadChar : Text.isIndent family.style.leadChar = false := by
  cases family <;> decide

lemma unindented_leads {text line : String} (h : family.style.Leads text line) :
    Source.unindented line = family.style.leadChar :: ' ' :: text.toList ∨
      text = "" ∧ Source.unindented line = [family.style.leadChar] := by
  have hlead : ∀ (rest : List Char), ∀ c ∈ (family.style.leadChar :: rest).head?,
      Text.isIndent c = false := by
    rintro rest _ ⟨⟩
    exact isIndent_leadChar
  rcases h with h | ⟨htext, h⟩
  · exact Or.inl (h.unindented (hlead _))
  · exact Or.inr ⟨htext, h.unindented (hlead _)⟩

lemma leadText?_of_leads {text line : String} (h : family.style.Leads text line) :
    family.leadText? line = some text := by
  rw [leadText?]
  rcases unindented_leads h with hline | ⟨rfl, hline⟩
  · have hstrip : family.delimiters.strip? .generic (family.style.leadChar :: ' ' :: text.toList) =
        some text.toList := by
      cases family <;> rfl
    rw [hline, hstrip, Option.map_some, String.ofList_toList]
  · have hstrip : family.delimiters.strip? .generic [family.style.leadChar] = some [] := by
      cases family <;> rfl
    rw [hline, hstrip]
    rfl

-- a foot that starts with the lead has no space after it, and one alone is too short
lemma not_footLine_of_leads {text line : String} (h : family.style.Leads text line) :
    ¬ family.FootLine line := by
  rintro ⟨kind, hk⟩
  have hfalse : family.delimiters.isFoot kind (Source.unindented line) = false := by
    rcases unindented_leads h with hline | ⟨-, hline⟩
    · rw [hline]
      cases family <;> cases kind <;> rfl
    · rw [hline]
      cases family <;> cases kind <;> rfl
  rw [hfalse] at hk
  cases hk

end Family

namespace Draft

lemma close_eq (b : Draft) (foot : BlockKind) (n : Nat) :
    b.close foot n = b.settle (if b.markup = functionMarkup then .function else foot)
      (if foot = .function ∧ b.markup ≠ functionMarkup ∧ b.markup ≠ noMarkup then some (.taggedFunction, n)
        else none) := by
  rw [close]
  by_cases hm : b.markup = functionMarkup
  · simp [hm]
  · simp only [if_neg hm]
    split <;> rfl

lemma close_eq_settle (b : Draft) (foot : BlockKind) (n : Nat) :
    ∃ kind warning, b.close foot n = b.settle kind warning ∧
      (warning = none ∨ warning = some (.taggedFunction, n)) := by
  refine ⟨_, _, b.close_eq foot n, ?_⟩
  split
  · exact Or.inr rfl
  · exact Or.inl rfl

end Draft

end CommentDoc
