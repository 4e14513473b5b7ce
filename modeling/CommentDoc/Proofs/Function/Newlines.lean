import CommentDoc.Block.Record
import CommentDoc.Proofs.Function.RoundTrip
import CommentDoc.Proofs.Scan.Newlines

namespace CommentDoc

lemma Text.mem_of_mem_join {α : Type} {sep : List α} {ps : List (List α)} {a : α} (h : a ∈ join sep ps) :
    a ∈ sep ∨ ∃ p ∈ ps, a ∈ p := by
  induction ps with
  | nil => cases h
  | cons p ps ih =>
    cases ps with
    | nil => exact Or.inr ⟨p, List.mem_singleton_self p, h⟩
    | cons q ps =>
      simp only [join, List.append_assoc, List.mem_append] at h
      rcases h with h | h | h
      · exact Or.inr ⟨p, List.mem_cons_self, h⟩
      · exact Or.inl h
      · rcases ih h with hs | ⟨p', hp', ha⟩
        · exact Or.inl hs
        · exact Or.inr ⟨p', List.mem_cons_of_mem _ hp', ha⟩

namespace Header

lemma leadingName_chars {s name : List Char} (h : leadingName s = .ok name) :
    name ≠ [] ∧ ∀ c ∈ name, isNameChar c = true := by
  unfold leadingName at h
  split at h
  next => cases h
  next hne =>
    obtain rfl := Except.ok.inj h
    exact ⟨hne, fun c hc => List.mem_takeWhile_imp hc⟩

lemma name_chars {header name : List Char} (h : Header.name header = .ok name) :
    name ≠ [] ∧ ∀ c ∈ name, isNameChar c = true := by
  unfold Header.name at h
  split at h
  next => exact leadingName_chars h
  next =>
    split at h
    next => exact leadingName_chars h
    next => cases h

lemma restOfLine?_sublist {s line : List Char} (h : restOfLine? s = some line) : line.Sublist s := by
  unfold restOfLine? at h
  split at h
  next =>
    obtain rfl := Option.some.inj h
    exact List.Sublist.refl _
  next =>
    obtain rfl := Option.some.inj h
    exact List.takeWhile_sublist _
  next => cases h

lemma separated?_sublist {s text : List Char} (h : separated? s = some text) : text.Sublist s := by
  unfold separated? at h
  split at h
  next rest =>
    have hspan := List.takeWhile_append_dropWhile (p := Text.isBlank) (l := rest)
    split at h
    next b blanks c tail htake hdrop =>
      obtain ⟨line, hline, rfl⟩ := Option.map_eq_some_iff.mp h
      rw [htake, hdrop] at hspan
      rw [← hspan]
      exact ((restOfLine?_sublist hline).append_left (b :: blanks)).cons_cons '-'
    next => cases h
  next => cases h

lemma separator?_sublist {s text : List Char} (h : separator? s = some text) : text.Sublist s := by
  induction s with
  | nil => cases h
  | cons c s ih =>
    rw [separator?] at h
    rcases Option.or_eq_some_iff.mp h with h | ⟨-, h⟩
    · split at h
      next => exact (separated?_sublist h).cons c
      next => cases h
    · exact (ih h).cons c

lemma shortDescription_sublist (header : List Char) : (shortDescription header).Sublist header := by
  unfold shortDescription
  split
  next => exact List.nil_sublist _
  next text hs =>
    have htext : text.Sublist ('-' :: ' ' :: text) := (List.sublist_cons_self ' ' text).cons '-'
    exact htext.trans (separator?_sublist hs)
  next hs => exact separator?_sublist hs

end Header

def Member.texts (m : Member) : List String :=
  [m.name, m.description]

def Paragraph.texts (p : Paragraph) : List String :=
  [p.heading, p.paragraph]

namespace Body

def texts (b : Body) : List String :=
  b.members.flatMap Member.texts ++ b.paragraphs.flatMap Paragraph.texts

lemma mem_texts_append {a b : Body} {t : String} (h : t ∈ (a.append b).texts) :
    t ∈ a.texts ∨ t ∈ b.texts := by
  simp only [texts, append, List.flatMap_append, List.mem_append] at h ⊢
  rcases h with (h | h) | (h | h)
  · exact Or.inl (Or.inl h)
  · exact Or.inr (Or.inl h)
  · exact Or.inl (Or.inr h)
  · exact Or.inr (Or.inr h)

lemma member?_parts {line name text : List Char} (h : member? line = some (name, text)) :
    (∀ c ∈ name, isMemberChar c = true) ∧ text.Sublist line := by
  unfold member? at h
  split at h
  next line =>
    have hspan := List.takeWhile_append_dropWhile (p := isMemberChar) (l := line)
    split at h
    next c cs rest htake hdrop =>
      obtain ⟨text', hline, heq⟩ := Option.map_eq_some_iff.mp h
      obtain ⟨rfl, rfl⟩ := Prod.mk.inj heq
      constructor
      · intro d hd
        rw [← htake] at hd
        exact List.mem_takeWhile_imp hd
      · have hrest : (':' :: rest).Sublist line := hdrop ▸ List.dropWhile_sublist isMemberChar
        exact ((Header.restOfLine?_sublist hline).trans
          ((List.sublist_cons_self ':' rest).trans hrest)).cons '@'
    next => cases h
  next => cases h

lemma heading?_parts [Text.Edition] {line heading text : List Char}
    (h : heading? line = some (heading, text)) :
    heading.Sublist line ∧ text.Sublist line := by
  unfold heading? at h
  split at h
  next c cs rest htake hdrop =>
    obtain ⟨text', hline, heq⟩ := Option.map_eq_some_iff.mp h
    obtain ⟨rfl, rfl⟩ := Prod.mk.inj heq
    have hrest : (':' :: rest).Sublist line := hdrop ▸ List.dropWhile_sublist isHeadingChar
    exact ⟨htake ▸ List.takeWhile_sublist isHeadingChar,
      (Header.restOfLine?_sublist hline).trans ((List.sublist_cons_self ':' rest).trans hrest)⟩
  next => cases h

lemma oneLine_joined {pieces : List (List Char)} (h : ∀ p ∈ pieces, '\n' ∉ p) : OneLine (joined pieces) := by
  rw [OneLine, joined, String.toList_ofList]
  intro hn
  rcases Text.mem_of_mem_join hn with hs | ⟨p, hp, hn⟩
  · exact absurd hs (by decide)
  · exact h p (List.mem_filter.mp hp).1 hn

lemma oneLine_memberName {name : List Char} (h : ∀ c ∈ name, isMemberChar c = true) :
    OneLine (memberName name) := by
  have hname : '\n' ∉ name := fun hn => absurd (h '\n' hn) (by decide)
  rw [OneLine, memberName, String.toList_ofList]
  split
  · simpa using hname
  · exact hname

lemma oneLine_membersOf {lines : List (List Char)} (h : ∀ line ∈ lines, '\n' ∉ line) :
    (∀ line ∈ (membersOf lines).1, '\n' ∉ line) ∧ ∀ m ∈ (membersOf lines).2, ∀ t ∈ m.texts, OneLine t := by
  induction lines with
  | nil => exact ⟨by simp [membersOf], by simp [membersOf]⟩
  | cons line lines ih =>
    have hline := h line List.mem_cons_self
    obtain ⟨hopen, hmembers⟩ := ih fun l hl => h l (List.mem_cons_of_mem _ hl)
    cases hm : member? line with
    | none =>
      simp only [membersOf, hm]
      exact ⟨List.forall_mem_cons.mpr ⟨hline, hopen⟩, hmembers⟩
    | some parts =>
      obtain ⟨name, text⟩ := parts
      obtain ⟨hname, htext⟩ := member?_parts hm
      have hrest : '\n' ∉ Text.trim text :=
        fun hn => hline (htext.subset ((Text.trim_sublist text).subset hn))
      simp only [membersOf, hm]
      refine ⟨by simp, List.forall_mem_cons.mpr ⟨?_, hmembers⟩⟩
      simp only [Member.texts, List.forall_mem_cons]
      exact ⟨oneLine_memberName hname, oneLine_joined (List.forall_mem_cons.mpr ⟨hrest, hopen⟩), by simp⟩

lemma oneLine_paragraphOf [Text.Edition] {line : List Char} {rest : List (List Char)}
    (h : ∀ l ∈ line :: rest, '\n' ∉ l) :
    ∀ t ∈ (paragraphOf line rest).texts, OneLine t := by
  obtain ⟨hline, hrest⟩ := List.forall_mem_cons.mp h
  unfold paragraphOf
  split
  next heading text hh =>
    obtain ⟨hheading, htext⟩ := heading?_parts hh
    have hhead : OneLine (String.ofList (Text.trim heading)) := by
      rw [OneLine, String.toList_ofList]
      exact fun hn => hline (hheading.subset ((Text.trim_sublist heading).subset hn))
    have hfirst : '\n' ∉ Text.trim text := fun hn => hline (htext.subset ((Text.trim_sublist text).subset hn))
    simp only [Paragraph.texts, List.forall_mem_cons]
    exact ⟨hhead, oneLine_joined (List.forall_mem_cons.mpr ⟨hfirst, hrest⟩), by simp⟩
  next =>
    simp only [Paragraph.texts, List.forall_mem_cons]
    exact ⟨by simp [OneLine], oneLine_joined h, by simp⟩

lemma oneLine_ofRun [Text.Edition] {run : List (List Char)} (h : ∀ line ∈ run, '\n' ∉ line) :
    ∀ t ∈ (ofRun run).texts, OneLine t := by
  cases run with
  | nil => simp [ofRun, empty, texts]
  | cons line rest =>
    intro t ht
    cases hm : member? line with
    | none =>
      simp only [ofRun, hm, texts, List.flatMap_nil, List.flatMap_cons, List.nil_append,
        List.append_nil] at ht
      exact oneLine_paragraphOf h t ht
    | some parts =>
      simp only [ofRun, hm, texts, List.flatMap_nil, List.append_nil] at ht
      obtain ⟨m, hm, ht⟩ := List.mem_flatMap.mp ht
      exact (oneLine_membersOf h).2 m hm t ht

lemma newline_notMem_runs {lines : List (List Char)} (h : ∀ line ∈ lines, '\n' ∉ line)
    {run : List (List Char)}
    (hrun : run ∈ runs lines) : ∀ line ∈ run, '\n' ∉ line := by
  intro line hline hn
  have hpiece := (Text.mem_of_mem_pieces (List.mem_filter.mp hrun).1 hline).1
  obtain ⟨line', hl, rfl⟩ := List.mem_map.mp hpiece
  exact h line' hl ((Text.trim_sublist line').subset hn)

lemma oneLine_parse [Text.Edition] {lines : List (List Char)} (h : ∀ line ∈ lines, '\n' ∉ line) :
    ∀ t ∈ (parse lines).texts, OneLine t := by
  have hruns : ∀ run ∈ runs lines, ∀ line ∈ run, '\n' ∉ line := fun run hrun => newline_notMem_runs h hrun
  rw [parse]
  generalize runs lines = rs at hruns
  induction rs with
  | nil => simp [empty, texts]
  | cons run rs ih =>
    obtain ⟨hrun, hrest⟩ := List.forall_mem_cons.mp hruns
    intro t ht
    rcases mem_texts_append ht with ht | ht
    · exact oneLine_ofRun hrun t ht
    · exact ih hrest t ht

end Body

variable [Text.Edition]

namespace FunctionContent

def texts (c : FunctionContent) : List String :=
  c.name :: c.shortDescription :: (Body.mk c.members c.description).texts

lemma ofHeader_eq_ok {header : List Char} {body : List (List Char)} {c : FunctionContent}
    (h : ofHeader header body = .ok c) :
    ∃ name, Header.name header = .ok name ∧ c =
      ⟨String.ofList name, String.ofList (Header.shortDescription header), (Body.parse body).members,
        (Body.parse body).paragraphs⟩ := by
  unfold ofHeader at h
  cases hn : Header.name header with
  | error fault => simp [hn, bind, Except.bind] at h
  | ok name =>
    refine ⟨name, rfl, ?_⟩
    simpa [hn, bind, Except.bind, pure, Except.pure] using h.symm

lemma parse_eq_ok {captured : List String} {c : FunctionContent} (h : parse captured = .ok c) :
    ∃ header body, (header :: body).Sublist (captured.map String.toList) ∧
      ofHeader (Text.trim header) body = .ok c := by
  cases hd : (captured.map String.toList).dropWhile isBlankLine with
  | nil => simp [parse, hd] at h
  | cons header body =>
    refine ⟨header, body, hd ▸ List.dropWhile_sublist isBlankLine, ?_⟩
    simp only [parse, hd] at h
    cases ho : ofHeader (Text.trim header) body with
    | error fault => simp [ho, Except.mapError] at h
    | ok c' => simpa [ho, Except.mapError] using h

lemma name_ne_of_parse {captured : List String} {c : FunctionContent}
    (h : parse captured = .ok c) : c.name ≠ "" := by
  obtain ⟨header, body, -, ho⟩ := parse_eq_ok h
  obtain ⟨name, hname, rfl⟩ := ofHeader_eq_ok ho
  simpa using (Header.name_chars hname).1

lemma oneLine_of_parse {captured : List String}
    (hcaptured : ∀ text ∈ captured, OneLine text) {c : FunctionContent}
    (h : parse captured = .ok c) : ∀ t ∈ c.texts, OneLine t := by
  obtain ⟨header, body, hsublist, ho⟩ := parse_eq_ok h
  obtain ⟨name, hname, rfl⟩ := ofHeader_eq_ok ho
  have hlines : ∀ line ∈ header :: body, '\n' ∉ line := by
    intro line hl
    obtain ⟨text, ht, rfl⟩ := List.mem_map.mp (hsublist.subset hl)
    exact hcaptured text ht
  obtain ⟨hheader, hbody⟩ := List.forall_mem_cons.mp hlines
  have hname' : OneLine (String.ofList name) := by
    rw [OneLine, String.toList_ofList]
    exact fun hn => absurd ((Header.name_chars hname).2 '\n' hn) (by decide)
  have hshort : OneLine (String.ofList (Header.shortDescription (Text.trim header))) := by
    rw [OneLine, String.toList_ofList]
    exact fun hn => hheader
      ((Text.trim_sublist header).subset ((Header.shortDescription_sublist _).subset hn))
  rw [texts]
  exact List.forall_mem_cons.mpr ⟨hname', List.forall_mem_cons.mpr ⟨hshort, Body.oneLine_parse hbody⟩⟩

end FunctionContent

end CommentDoc
