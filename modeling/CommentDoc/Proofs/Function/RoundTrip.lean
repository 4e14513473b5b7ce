import CommentDoc.Function.Content
import CommentDoc.Proofs.Source.Lines
import CommentDoc.Proofs.Text.Trimming
import Mathlib.Data.List.TakeWhile

namespace CommentDoc

open Text (IsLine spaced)

namespace Member

def tag (m : Member) : String :=
  if m.name = "@return" then "return" else m.name

def line (m : Member) : String :=
  "@" ++ m.tag ++ ": " ++ m.description

structure WellFormed (m : Member) : Prop where
  name : m.name = "@return" ∨
    m.name ≠ "" ∧ m.name ≠ "return" ∧ ∀ c ∈ m.name.toList, Text.isBlank c = false ∧ c ≠ ':'
  description : IsLine m.description.toList

end Member

namespace Paragraph

def line (p : Paragraph) : String :=
  if p.heading = "" then p.paragraph else p.heading ++ ": " ++ p.paragraph

def TagForm (s : List Char) : Prop :=
  ∃ tag rest, tag ≠ [] ∧ (∀ c ∈ tag, Text.isBlank c = false ∧ c ≠ ':') ∧ s = '@' :: (tag ++ ':' :: rest)

def HeadingForm [Text.Edition] (s : List Char) : Prop :=
  ∃ heading rest, heading ≠ [] ∧ (∀ c ∈ heading, Text.isWord c = true ∨ c = ' ') ∧ s = heading ++ ':' :: rest

structure WellFormed [Text.Edition] (p : Paragraph) : Prop where
  paragraph : IsLine p.paragraph.toList
  heading : p.heading ≠ "" → Text.trim p.heading.toList = p.heading.toList ∧
    ∀ c ∈ p.heading.toList, Text.isWord c = true ∨ c = ' '
  plain : p.heading = "" → p.paragraph ≠ "" ∧ ¬ TagForm p.paragraph.toList ∧ ¬ HeadingForm p.paragraph.toList

end Paragraph

namespace FunctionContent

def headerLine (c : FunctionContent) : String :=
  if c.shortDescription = "" then c.name else c.name ++ " - " ++ c.shortDescription

def lines (c : FunctionContent) : List String :=
  c.headerLine :: (c.members.map Member.line ++ c.description.flatMap fun p => ["", p.line])

structure WellFormed [Text.Edition] (c : FunctionContent) : Prop where
  name : c.name ≠ "" ∧ ∀ x ∈ c.name.toList, x.isAlphanum = true ∨ x = ':' ∨ x = '_' ∨ x = '+' ∨ x = '-'
  shortDescription : IsLine c.shortDescription.toList
  members : ∀ m ∈ c.members, m.WellFormed
  description : ∀ p ∈ c.description, p.WellFormed

end FunctionContent

namespace Header

lemma restOfLine?_eq_some {s : List Char} (h : '\n' ∉ s) : restOfLine? s = some s := by
  have hd : (s ++ []).dropWhile (· ≠ '\n') = [] := by
    apply Text.dropWhile_append_stop
    · intro c hc
      simpa using ne_of_mem_of_not_mem hc h
    · simp
  rw [List.append_nil] at hd
  rw [restOfLine?, hd]

lemma isBlank_of_isAlphanum {c : Char} (h : c.isAlphanum = true) : Text.isBlank c = false := by
  change ((decide (65 ≤ c.val ∧ c.val ≤ 90) || (97 ≤ c.val && c.val ≤ 122)) ||
    (48 ≤ c.val && c.val ≤ 57)) = true at h
  simp only [Bool.or_eq_true, Bool.and_eq_true, decide_eq_true_eq, UInt32.le_iff_toNat_le] at h
  change ((65 ≤ c.toNat ∧ c.toNat ≤ 90) ∨ 97 ≤ c.toNat ∧ c.toNat ≤ 122) ∨ 48 ≤ c.toNat ∧ c.toNat ≤ 57 at h
  simp only [Text.isBlank, Bool.or_eq_false_iff, Bool.and_eq_false_iff, decide_eq_false_iff_not,
    beq_eq_false_iff_ne]
  omega

lemma isBlank_of_isNameChar {c : Char} (h : isNameChar c = true) : Text.isBlank c = false := by
  simp only [isNameChar, Bool.or_eq_true, beq_iff_eq] at h
  rcases h with (((h | rfl) | rfl) | rfl) | rfl
  · exact isBlank_of_isAlphanum h
  all_goals decide

def IsTail (tail : List Char) : Prop :=
  tail = [] ∨ ∃ short, tail = ' ' :: '-' :: ' ' :: short

lemma IsTail.head? {tail : List Char} (h : IsTail tail) : ∀ c ∈ tail.head?, c = ' ' := by
  rcases h with rfl | ⟨short, rfl⟩
  · simp
  · simp [eq_comm]

lemma leadingName_append {name tail : List Char} (hne : name ≠ []) (hname : ∀ c ∈ name, isNameChar c = true)
    (ht : IsTail tail) : leadingName (name ++ tail) = .ok name := by
  have hspan : (name ++ tail).takeWhile isNameChar = name := by
    apply Text.takeWhile_append_stop hname
    intro c hc
    rw [ht.head? c hc]
    decide
  obtain ⟨c, name, rfl⟩ := List.exists_cons_of_ne_nil hne
  rw [leadingName, hspan]

lemma afterBlanks?_append {name tail : List Char} (hname : ∀ c ∈ name, isNameChar c = true)
    (ht : IsTail tail) :
    Foot.afterBlanks? ((name ++ tail).dropWhile Char.isAlpha) = none ∨
      ∃ short, Foot.afterBlanks? ((name ++ tail).dropWhile Char.isAlpha) = some ('-' :: short) := by
  induction name with
  | nil =>
    rcases ht with rfl | ⟨short, rfl⟩
    · exact Or.inl rfl
    · exact Or.inr ⟨' ' :: short, rfl⟩
  | cons c name ih =>
    rw [List.cons_append, List.dropWhile_cons]
    split
    · exact ih fun d hd => hname d (by simp [hd])
    · refine Or.inl ?_
      rw [Foot.afterBlanks?, isBlank_of_isNameChar (hname c (by simp))]
      rfl

lemma declared?_append {name tail : List Char} (hname : ∀ c ∈ name, isNameChar c = true) (ht : IsTail tail) :
    declared? (name ++ tail) = none := by
  unfold declared?
  rcases afterBlanks?_append hname ht with h | ⟨short, h⟩
  · rw [h]
    split
    next heq => cases heq
    next => rfl
  · rw [h]
    split
    next heq =>
      cases heq
      rfl
    next => rfl

lemma name_append {name tail : List Char} (hne : name ≠ []) (hname : ∀ c ∈ name, isNameChar c = true)
    (ht : IsTail tail) : Header.name (name ++ tail) = .ok name := by
  rw [Header.name, declared?_append hname ht]
  exact leadingName_append hne hname ht

lemma separator?_append {name : List Char} (hname : ∀ c ∈ name, Text.isBlank c = false) (tail : List Char) :
    separator? (name ++ tail) = separator? tail := by
  induction name with
  | nil => rfl
  | cons c name ih =>
    have hc := hname c (by simp)
    rw [List.cons_append, separator?, hc, ih fun d hd => hname d (by simp [hd])]
    rfl

lemma separated?_dash {blanks text : List Char} (hne : blanks ≠ [])
    (hblanks : ∀ c ∈ blanks, Text.isBlank c = true)
    (hstop : ∀ c ∈ text.head?, Text.isBlank c = false) (htext : text ≠ []) (hline : '\n' ∉ text) :
    separated? ('-' :: (blanks ++ text)) = some ('-' :: (blanks ++ text)) := by
  have htake := Text.takeWhile_append_stop hblanks hstop
  have hdrop := Text.dropWhile_append_stop hblanks hstop
  obtain ⟨b, blanks, rfl⟩ := List.exists_cons_of_ne_nil hne
  obtain ⟨c, text, rfl⟩ := List.exists_cons_of_ne_nil htext
  simp only [separated?, htake, hdrop, restOfLine?_eq_some hline, Option.map_some]
  rfl

lemma shortDescription_name {name : List Char} (hname : ∀ c ∈ name, Text.isBlank c = false) :
    shortDescription name = [] := by
  have h := separator?_append hname []
  rw [List.append_nil] at h
  rw [shortDescription, h]
  rfl

lemma shortDescription_append {name short : List Char} (hname : ∀ c ∈ name, Text.isBlank c = false)
    (h : IsLine short) (hne : short ≠ []) :
    shortDescription (name ++ ' ' :: '-' :: ' ' :: short) = short := by
  have hspace : Text.isBlank ' ' = true := by decide
  have hdash : separated? ('-' :: ' ' :: short) = some ('-' :: ' ' :: short) :=
    separated?_dash (List.cons_ne_nil ' ' []) (by simpa using hspace)
      (Text.head?_of_trim h.trim) hne h.newline
  rw [shortDescription, separator?_append hname, separator?, hspace, if_pos rfl, hdash]
  rfl

end Header

namespace Body

lemma joined_singleton (text : List Char) : joined [text] = String.ofList text := by
  cases text <;> rfl

lemma member?_tagged {tag text : List Char} (hne : tag ≠ [])
    (htag : ∀ c ∈ tag, Text.isBlank c = false ∧ c ≠ ':') (htext : '\n' ∉ text) :
    member? ('@' :: (tag ++ ':' :: text)) = some (tag, text) := by
  have hchars : ∀ c ∈ tag, isMemberChar c = true := by
    intro c hc
    simp [isMemberChar, htag c hc]
  have hcolon : ∀ c ∈ (':' :: text).head?, isMemberChar c = false := by
    intro c hc
    obtain rfl : ':' = c := Option.some.inj hc
    rfl
  have htake := Text.takeWhile_append_stop hchars hcolon
  have hdrop := Text.dropWhile_append_stop hchars hcolon
  obtain ⟨c, name, rfl⟩ := List.exists_cons_of_ne_nil hne
  simp only [member?, htake, hdrop, Header.restOfLine?_eq_some htext, Option.map_some]

lemma tagForm_of_member? {line : List Char} (h : member? line ≠ none) : Paragraph.TagForm line := by
  unfold member? at h
  split at h
  next line =>
    have hspan := List.takeWhile_append_dropWhile (p := isMemberChar) (l := line)
    split at h
    next c name rest htake hdrop =>
      rw [htake, hdrop] at hspan
      refine ⟨c :: name, rest, by simp, ?_, by rw [hspan]⟩
      intro d hd
      rw [← htake] at hd
      simpa [isMemberChar, and_comm] using List.mem_takeWhile_imp hd
    next => exact absurd rfl h
  next => exact absurd rfl h

lemma heading?_titled [Text.Edition] {heading text : List Char} (hne : heading ≠ [])
    (hheading : ∀ c ∈ heading, Text.isWord c = true ∨ c = ' ') (htext : '\n' ∉ text) :
    heading? (heading ++ ':' :: text) = some (heading, text) := by
  have hchars : ∀ c ∈ heading, isHeadingChar c = true := by
    intro c hc
    simpa [isHeadingChar] using hheading c hc
  have hcolon : ∀ c ∈ (':' :: text).head?, isHeadingChar c = false := by
    intro c hc
    obtain rfl : ':' = c := Option.some.inj hc
    rw [isHeadingChar, Text.Edition.isWord_ascii ':' (by decide)]
    decide
  have htake := Text.takeWhile_append_stop hchars hcolon
  have hdrop := Text.dropWhile_append_stop hchars hcolon
  obtain ⟨c, name, rfl⟩ := List.exists_cons_of_ne_nil hne
  simp only [heading?, htake, hdrop, Header.restOfLine?_eq_some htext, Option.map_some]

lemma headingForm_of_heading? [Text.Edition] {line : List Char} (h : heading? line ≠ none) :
    Paragraph.HeadingForm line := by
  unfold heading? at h
  have hspan := List.takeWhile_append_dropWhile (p := isHeadingChar) (l := line)
  split at h
  next c name rest htake hdrop =>
    rw [htake, hdrop] at hspan
    refine ⟨c :: name, rest, by simp, ?_, hspan.symm⟩
    intro d hd
    rw [← htake] at hd
    simpa [isHeadingChar] using List.mem_takeWhile_imp hd
  next => exact absurd rfl h

lemma memberName_tag {m : Member} (h : m.WellFormed) : memberName m.tag.toList = m.name := by
  unfold memberName Member.tag
  rcases h.name with hr | ⟨-, hr, -⟩
  · rw [if_pos hr, hr]
    rfl
  · split
    next hname =>
      rw [hname]
      rfl
    next =>
      rw [if_neg, String.ofList_toList]
      intro hname
      apply hr
      rw [← String.ofList_toList (s := m.name), hname]
      rfl

lemma tag_chars {m : Member} (h : m.WellFormed) :
    m.tag.toList ≠ [] ∧ ∀ c ∈ m.tag.toList, Text.isBlank c = false ∧ c ≠ ':' := by
  have hall : "return".toList.all (fun c => !Text.isBlank c && c != ':') = true := by decide
  have hreturn : "return".toList ≠ [] ∧ ∀ c ∈ "return".toList, Text.isBlank c = false ∧ c ≠ ':' :=
    ⟨by decide, by simpa only [List.all_eq_true, Bool.and_eq_true, Bool.not_eq_true', bne_iff_ne] using hall⟩
  unfold Member.tag
  rcases h.name with hr | ⟨hne, -, hchars⟩
  · rw [if_pos hr]
    exact hreturn
  · split
    · exact hreturn
    · exact ⟨by simpa using hne, hchars⟩

lemma trim_memberLine {m : Member} (h : m.WellFormed) :
    Text.trim m.line.toList = '@' :: (m.tag.toList ++ ':' :: spaced m.description.toList) := by
  have hl : m.line.toList = ('@' :: m.tag.toList) ++ ':' :: ' ' :: m.description.toList := by
    simp [Member.line]
  rw [hl, Text.trim_colon (by simp) _ h.description.trim, List.cons_append]
  rintro c ⟨⟩
  decide

lemma newline_notMem_spaced {s : List Char} (h : '\n' ∉ s) : '\n' ∉ spaced s := by
  intro hc
  rcases Text.mem_of_mem_spaced hc with hc | hc
  · exact absurd hc (by decide)
  · exact h hc

lemma member?_line {m : Member} (h : m.WellFormed) :
    member? (Text.trim m.line.toList) = some (m.tag.toList, spaced m.description.toList) := by
  obtain ⟨hne, hchars⟩ := tag_chars h
  rw [trim_memberLine h]
  exact member?_tagged hne hchars (newline_notMem_spaced h.description.newline)

lemma membersOf_lines {ms : List Member} (h : ∀ m ∈ ms, m.WellFormed) :
    membersOf (ms.map fun m => Text.trim m.line.toList) = ([], ms) := by
  induction ms with
  | nil => rfl
  | cons m ms ih =>
    have hm := h m (by simp)
    have hms := ih fun m' hm' => h m' (by simp [hm'])
    simp only [List.map_cons, membersOf, hms, member?_line hm, memberName_tag hm, joined_singleton,
      Text.trim_spaced hm.description.trim, String.ofList_toList]

lemma trim_paragraphLine [Text.Edition] {p : Paragraph} (h : p.WellFormed) :
    Text.trim p.line.toList =
      if p.heading = "" then p.paragraph.toList
      else p.heading.toList ++ ':' :: spaced p.paragraph.toList := by
  unfold Paragraph.line
  split
  next => exact h.paragraph.trim
  next hp =>
    have hline : (p.heading ++ ": " ++ p.paragraph).toList =
        p.heading.toList ++ ':' :: ' ' :: p.paragraph.toList := by
      simp
    rw [hline, Text.trim_colon (by simpa using hp) (Text.head?_of_trim (h.heading hp).1) h.paragraph.trim]

lemma trim_paragraphLine_ne_nil [Text.Edition] {p : Paragraph} (h : p.WellFormed) :
    Text.trim p.line.toList ≠ [] := by
  rw [trim_paragraphLine h]
  split
  next hp => simpa using (h.plain hp).1
  next => simp

lemma ofRun_plain [Text.Edition] {p : Paragraph} (h : p.WellFormed) (hp : p.heading = "") :
    ofRun [p.paragraph.toList] = ⟨[], [p]⟩ := by
  obtain ⟨-, htag, hheading⟩ := h.plain hp
  have hmember : member? p.paragraph.toList = none := by
    by_contra hm
    exact htag (tagForm_of_member? hm)
  have hnone : heading? p.paragraph.toList = none := by
    by_contra hm
    exact hheading (headingForm_of_heading? hm)
  simp only [ofRun, hmember, paragraphOf, hnone, joined_singleton, String.ofList_toList, ← hp]

lemma member?_titled [Text.Edition] {heading rest : List Char} (hne : heading ≠ [])
    (hchars : ∀ c ∈ heading, Text.isWord c = true ∨ c = ' ') : member? (heading ++ rest) = none := by
  by_contra hm
  obtain ⟨tag, rest', -, -, htag⟩ := tagForm_of_member? hm
  obtain ⟨c, cs, rfl⟩ := List.exists_cons_of_ne_nil hne
  have hat := hchars c (by simp)
  rw [(List.cons.inj htag).1, Text.Edition.isWord_ascii '@' (by decide)] at hat
  exact absurd hat (by decide)

lemma ofRun_titled [Text.Edition] {p : Paragraph} (h : p.WellFormed) (hp : p.heading ≠ "") :
    ofRun [p.heading.toList ++ ':' :: spaced p.paragraph.toList] = ⟨[], [p]⟩ := by
  obtain ⟨htrim, hchars⟩ := h.heading hp
  have hne : p.heading.toList ≠ [] := by simpa using hp
  have htitle := heading?_titled hne hchars (newline_notMem_spaced h.paragraph.newline)
  simp only [ofRun, member?_titled hne hchars, paragraphOf, htitle, htrim, Text.trim_spaced h.paragraph.trim,
    joined_singleton, String.ofList_toList]

lemma ofRun_paragraph [Text.Edition] {p : Paragraph} (h : p.WellFormed) :
    ofRun [Text.trim p.line.toList] = ⟨[], [p]⟩ := by
  rw [trim_paragraphLine h]
  split
  next hp => exact ofRun_plain h hp
  next hp => exact ofRun_titled h hp

lemma ofRun_members [Text.Edition] {ms : List Member} (h : ∀ m ∈ ms, m.WellFormed) :
    ofRun (ms.map fun m => Text.trim m.line.toList) = ⟨ms, []⟩ := by
  cases ms with
  | nil => rfl
  | cons m ms =>
    have hms := membersOf_lines h
    rw [List.map_cons] at hms ⊢
    simp only [ofRun, member?_line (h m (by simp)), hms]

lemma pieces_entries {first : List (List Char)} (hfirst : ∀ line ∈ first, line.isEmpty = false)
    {entries : List (List Char)} (h : ∀ line ∈ entries, line.isEmpty = false) :
    Text.pieces List.isEmpty (first ++ entries.flatMap fun line => [[], line]) =
      first :: entries.map ([·]) := by
  induction entries generalizing first with
  | nil => simpa using Text.pieces_of_notSep hfirst
  | cons line entries ih =>
    have hrest : Text.pieces List.isEmpty ([line] ++ entries.flatMap fun line => [[], line]) =
        [line] :: entries.map ([·]) :=
      ih (by simpa using h line (by simp)) fun l hl => h l (by simp [hl])
    rw [List.flatMap_cons, List.cons_append, Text.pieces_append hfirst rfl, hrest, List.map_cons]

variable [Text.Edition]

lemma foldr_filter (runs : List (List (List Char))) :
    (runs.filter (!·.isEmpty)).foldr (fun run body => (ofRun run).append body) empty =
      runs.foldr (fun run body => (ofRun run).append body) empty := by
  induction runs with
  | nil => rfl
  | cons run runs ih =>
    cases run with
    | nil => exact ih
    | cons line run => simp [ih]

lemma foldr_paragraphs {ps : List Paragraph} (h : ∀ p ∈ ps, p.WellFormed) :
    ((ps.map fun p => Text.trim p.line.toList).map ([·])).foldr
      (fun run body => (ofRun run).append body) empty =
      ⟨[], ps⟩ := by
  induction ps with
  | nil => rfl
  | cons p ps ih =>
    rw [List.map_cons, List.map_cons, List.foldr_cons, ih fun q hq => h q (by simp [hq]),
      ofRun_paragraph (h p (by simp))]
    rfl

lemma parse_lines {ms : List Member} (hm : ∀ m ∈ ms, m.WellFormed) {ps : List Paragraph}
    (hp : ∀ p ∈ ps, p.WellFormed) :
    parse ((ms.map Member.line ++ ps.flatMap fun p => ["", p.line]).map String.toList) = ⟨ms, ps⟩ := by
  have htrim : ((ms.map Member.line ++ ps.flatMap fun p => ["", p.line]).map String.toList).map Text.trim =
      (ms.map fun m => Text.trim m.line.toList) ++
        (ps.map fun p => Text.trim p.line.toList).flatMap fun line => [[], line] := by
    simp [List.map_flatMap, List.flatMap_map]
  have hmembers : ∀ line ∈ ms.map (fun m => Text.trim m.line.toList), line.isEmpty = false := by
    intro line hl
    obtain ⟨m, hmem, rfl⟩ := List.mem_map.mp hl
    rw [trim_memberLine (hm m hmem)]
    rfl
  have hentries : ∀ line ∈ ps.map (fun p => Text.trim p.line.toList), line.isEmpty = false := by
    intro line hl
    obtain ⟨p, hmem, rfl⟩ := List.mem_map.mp hl
    simpa using trim_paragraphLine_ne_nil (hp p hmem)
  rw [parse, runs, foldr_filter, htrim, pieces_entries hmembers hentries, List.foldr_cons,
    foldr_paragraphs hp,
    ofRun_members hm]
  simp [append]

end Body

namespace FunctionContent

variable {c : FunctionContent}

lemma WellFormed.isNameChar [Text.Edition] (h : c.WellFormed) :
    ∀ x ∈ c.name.toList, Header.isNameChar x = true := by
  intro x hx
  simpa [Header.isNameChar, or_assoc] using h.name.2 x hx

lemma WellFormed.isBlank_name [Text.Edition] (h : c.WellFormed) :
    ∀ x ∈ c.name.toList, Text.isBlank x = false :=
  fun x hx => Header.isBlank_of_isNameChar (h.isNameChar x hx)

lemma WellFormed.name_ne_nil [Text.Edition] (h : c.WellFormed) : c.name.toList ≠ [] := by
  simpa using h.name.1

lemma toList_headerLine (c : FunctionContent) :
    c.headerLine.toList =
      c.name.toList ++
        if c.shortDescription = "" then [] else ' ' :: '-' :: ' ' :: c.shortDescription.toList := by
  unfold headerLine
  split <;> simp

variable [Text.Edition]

lemma WellFormed.trim_headerLine (h : c.WellFormed) :
    Text.trim c.headerLine.toList = c.headerLine.toList := by
  rw [toList_headerLine]
  obtain ⟨x, xs, hx⟩ := List.exists_cons_of_ne_nil h.name_ne_nil
  apply Text.trim_of_ends
  · rw [hx]
    rintro y ⟨⟩
    exact h.isBlank_name x (by simp [hx])
  · intro y hy
    by_cases hs : c.shortDescription = ""
    · rw [if_pos hs, List.append_nil] at hy
      exact h.isBlank_name y (List.mem_of_getLast? hy)
    · have hne : c.shortDescription.toList ≠ [] := by simpa using hs
      rw [if_neg hs] at hy
      apply Text.getLast?_of_trim h.shortDescription.trim
      simpa [List.getLast?_append, List.getLast?_cons_of_ne_nil, hne,
        List.getLast?_eq_some_getLast hne] using hy

lemma WellFormed.name_header (h : c.WellFormed) :
    Header.name c.headerLine.toList = .ok c.name.toList := by
  rw [toList_headerLine]
  apply Header.name_append h.name_ne_nil h.isNameChar
  split
  · exact Or.inl rfl
  · exact Or.inr ⟨_, rfl⟩

lemma WellFormed.shortDescription_header (h : c.WellFormed) :
    Header.shortDescription c.headerLine.toList = c.shortDescription.toList := by
  rw [toList_headerLine]
  split
  next hs =>
    rw [List.append_nil, Header.shortDescription_name h.isBlank_name, hs]
    rfl
  next hs => exact Header.shortDescription_append h.isBlank_name h.shortDescription (by simpa using hs)

lemma WellFormed.isBlankLine_header (h : c.WellFormed) :
    isBlankLine c.headerLine.toList = false := by
  rw [toList_headerLine]
  obtain ⟨x, xs, hx⟩ := List.exists_cons_of_ne_nil h.name_ne_nil
  simp [isBlankLine, hx, h.isBlank_name x (by simp [hx])]

theorem WellFormed.parse_lines (h : c.WellFormed) : parse c.lines = .ok c := by
  have hbody := Body.parse_lines h.members h.description
  have hdrop : (c.lines.map String.toList).dropWhile isBlankLine = c.lines.map String.toList := by
    simp [lines, h.isBlankLine_header]
  simp only [parse, hdrop]
  simp only [lines, List.map_cons, ofHeader, h.trim_headerLine, h.name_header,
    h.shortDescription_header, hbody]
  simp only [bind, Except.bind, pure, Except.pure, String.ofList_toList]
  rfl

end FunctionContent

end CommentDoc
