import CommentDoc.Proofs.Function.Grouping

/-! Bodies made of two parts. Where the first part ends or the second begins with a blank line, or
where one member follows another, the body has the entries of both. -/

namespace CommentDoc

lemma Text.pieces_append_sep {α : Type} {sep : α → Bool} {a : α} (ha : sep a = true) (as bs : List α) :
    pieces sep (as ++ a :: bs) = pieces sep as ++ pieces sep bs := by
  induction as with
  | nil => simp [pieces, ha]
  | cons c as ih =>
    rw [List.cons_append, pieces, pieces, ih]
    split
    · rfl
    · cases hp : pieces sep as with
      | nil => exact absurd hp (pieces_ne_nil sep as)
      | cons p ps => rfl

lemma Text.trim_blanks_append {before s : List Char} (h : ∀ c ∈ before, isBlank c = true) :
    trim (before ++ s) = trim s := by
  rw [trim, trimStart, List.dropWhile_append_of_pos h]
  rfl

lemma Text.trim_append_blanks {s after : List Char} (h : ∀ c ∈ after, isBlank c = true) :
    trim (s ++ after) = trim s := by
  by_cases hs : ∀ c ∈ s, isBlank c = true
  · have hboth : ∀ c ∈ s ++ after, isBlank c = true := by
      intro c hc
      rcases List.mem_append.mp hc with hc | hc
      · exact hs c hc
      · exact h c hc
    rw [trim_eq_nil_iff.mpr hs, trim_eq_nil_iff.mpr hboth]
  · have hstart : trimStart (s ++ after) = trimStart s ++ after := by
      rw [trimStart, List.dropWhile_append, if_neg]
      · rfl
      · simpa using hs
    rw [trim, trim, hstart, trimEnd, List.reverse_append, List.dropWhile_append_of_pos]
    · rfl
    · intro c hc
      exact h c (List.mem_reverse.mp hc)

namespace Body

open Paragraph (TagForm)

def Blank (line : List Char) : Prop :=
  ∀ c ∈ line, Text.isBlank c = true

instance (line : List Char) : Decidable (Blank line) :=
  decidable_of_iff (line.all Text.isBlank = true) List.all_eq_true

structure LastRun (ls run : List (List Char)) : Prop where
  ne_nil : run ≠ []
  text : ∀ line ∈ run, ¬ Blank line
  split : ∃ before gap, ls = before ++ (run ++ gap) ∧ (∀ line ∈ before.getLast?, Blank line) ∧
    ∀ line ∈ gap, Blank line

/-- No entry goes on from the first part into the second. -/
inductive Boundary (as bs : List (List Char)) : Prop
  | nothingBefore : as = [] → Boundary as bs
  | blankBefore {line : List Char} : line ∈ as.getLast? → Blank line → Boundary as bs
  | nothingAfter : bs = [] → Boundary as bs
  | blankAfter {line : List Char} : line ∈ bs.head? → Blank line → Boundary as bs
  | tags {run : List (List Char)} {first line : List Char} : LastRun as run → first ∈ run.head? →
      TagForm (Text.trim first) → line ∈ bs.head? → TagForm (Text.trim line) → Boundary as bs

def Spaced (text line : List Char) : Prop :=
  ∃ before after, (∀ c ∈ before, Text.isBlank c = true) ∧ (∀ c ∈ after, Text.isBlank c = true) ∧
    line = before ++ (text ++ after)

def Respaced (line line' : List Char) : Prop :=
  ∃ text, Spaced text line ∧ Spaced text line'

def ofRuns [Text.Edition] (rs : List (List (List Char))) : Body :=
  rs.foldr (fun run body => (ofRun run).append body) empty

lemma parse_eq_ofRuns [Text.Edition] (ls : List (List Char)) : parse ls = ofRuns (runs ls) := rfl

lemma empty_append (b : Body) : empty.append b = b := rfl

lemma append_empty (b : Body) : b.append empty = b := by
  simp [append, empty]

lemma append_assoc (a b c : Body) : (a.append b).append c = a.append (b.append c) := by
  simp [append]

lemma ofRuns_append [Text.Edition] (rs rs' : List (List (List Char))) :
    ofRuns (rs ++ rs') = (ofRuns rs).append (ofRuns rs') := by
  induction rs with
  | nil => rfl
  | cons run rs ih =>
    have hcons : ∀ rs, ofRuns (run :: rs) = (ofRun run).append (ofRuns rs) := fun _ => rfl
    rw [List.cons_append, hcons, hcons, ih, append_assoc]

lemma isEmpty_trim {line : List Char} (h : Blank line) : (Text.trim line).isEmpty = true := by
  rw [Text.trim_eq_nil_iff.mpr h]
  rfl

lemma runs_append_blank {line : List Char} (h : Blank line) (as bs : List (List Char)) :
    runs (as ++ line :: bs) = runs as ++ runs bs := by
  rw [runs, List.map_append, List.map_cons, Text.pieces_append_sep (isEmpty_trim h), List.filter_append]
  rfl

lemma runs_append_of_getLast? {as : List (List Char)} (h : ∀ line ∈ as.getLast?, Blank line)
    (bs : List (List Char)) :
    runs (as ++ bs) = runs as ++ runs bs := by
  rcases List.eq_nil_or_concat' as with rfl | ⟨as, line, rfl⟩
  · rfl
  · have hline : Blank line := h line (by simp)
    have hlast := runs_append_blank hline as []
    rw [List.append_assoc, List.singleton_append, runs_append_blank hline, hlast]
    simp [runs, Text.pieces]

lemma runs_append_of_head? {bs : List (List Char)} (h : ∀ line ∈ bs.head?, Blank line)
    (as : List (List Char)) :
    runs (as ++ bs) = runs as ++ runs bs := by
  cases bs with
  | nil => simp [runs, Text.pieces]
  | cons line bs =>
    have hline := h line rfl
    have hfirst := runs_append_blank hline [] bs
    rw [runs_append_blank hline]
    exact congrArg (runs as ++ ·) hfirst.symm

lemma parse_append_of_getLast? [Text.Edition] {as : List (List Char)}
    (h : ∀ line ∈ as.getLast?, Blank line) (bs : List (List Char)) :
    parse (as ++ bs) = (parse as).append (parse bs) := by
  rw [parse_eq_ofRuns, runs_append_of_getLast? h, ofRuns_append]
  rfl

lemma parse_append_of_head? [Text.Edition] {bs : List (List Char)} (h : ∀ line ∈ bs.head?, Blank line)
    (as : List (List Char)) :
    parse (as ++ bs) = (parse as).append (parse bs) := by
  rw [parse_eq_ofRuns, runs_append_of_head? h, ofRuns_append]
  rfl

lemma parse_gap [Text.Edition] {gap : List (List Char)} (h : ∀ line ∈ gap, Blank line) :
    parse gap = empty := by
  have hgap : ∀ l ∈ gap.map Text.trim, l = [] := by
    intro l hl
    obtain ⟨line, hline, rfl⟩ := List.mem_map.mp hl
    exact Text.trim_eq_nil_iff.mpr (h line hline)
  have hruns := filter_pieces_gap hgap []
  rw [List.append_nil] at hruns
  rw [parse_eq_ofRuns, runs, hruns]
  rfl

lemma parse_run [Text.Edition] {run : List (List Char)} (hne : run ≠ []) (h : ∀ line ∈ run, ¬ Blank line) :
    parse run = ofRun (run.map Text.trim) := by
  have htext : ∀ l ∈ run.map Text.trim, l ≠ [] := by
    intro l hl
    obtain ⟨line, hline, rfl⟩ := List.mem_map.mp hl
    exact mt Text.trim_eq_nil_iff.mp (h line hline)
  have hend : ∀ l ∈ ([] : List (List Char)).head?, l = [] := by simp
  have hruns := filter_pieces_run (by simpa using hne) htext hend
  rw [List.append_nil] at hruns
  rw [parse_eq_ofRuns, runs, hruns]
  exact append_empty _

lemma membersOf_tag {line : List Char} (h : member? line ≠ none) (more : List (List Char)) :
    (membersOf (line :: more)).1 = [] := by
  obtain ⟨parts, hparts⟩ := Option.ne_none_iff_exists'.mp h
  rw [membersOf, hparts]

-- the lines before the first tag of `ys` would go to the last member of `xs`
lemma membersOf_append_of_tag {ys : List (List Char)} (h : (membersOf ys).1 = []) (xs : List (List Char)) :
    membersOf (xs ++ ys) = ((membersOf xs).1, (membersOf xs).2 ++ (membersOf ys).2) := by
  induction xs with
  | nil =>
    rw [List.nil_append, membersOf, ← h]
    rfl
  | cons line xs ih =>
    rw [List.cons_append, membersOf, membersOf, ih]
    cases member? line with
    | none => rfl
    | some parts => rfl

lemma ofRun_tag [Text.Edition] {line : List Char} (h : member? line ≠ none) (more : List (List Char)) :
    ofRun (line :: more) = ⟨(membersOf (line :: more)).2, []⟩ := by
  obtain ⟨parts, hparts⟩ := Option.ne_none_iff_exists'.mp h
  rw [ofRun, hparts]

lemma ofRun_append_tags [Text.Edition] {x y : List Char} (hx : member? x ≠ none) (hy : member? y ≠ none)
    (xs ys : List (List Char)) :
    ofRun ((x :: xs) ++ (y :: ys)) = (ofRun (x :: xs)).append (ofRun (y :: ys)) := by
  have hmembers := membersOf_append_of_tag (membersOf_tag hy ys) (x :: xs)
  rw [List.cons_append] at hmembers ⊢
  rw [ofRun_tag hx, ofRun_tag hx, ofRun_tag hy, hmembers]
  rfl

lemma member?_ne_none {line : List Char} (hline : '\n' ∉ line) (h : TagForm (Text.trim line)) :
    member? (Text.trim line) ≠ none := by
  obtain ⟨tag, rest, htag⟩ := h
  have htrim : '\n' ∉ Text.trim line := fun hn => hline ((Text.trim_sublist line).subset hn)
  rw [member?_of_tagged htrim htag]
  exact Option.some_ne_none _

lemma not_blank_of_tagForm {line : List Char} (h : TagForm (Text.trim line)) : ¬ Blank line := by
  intro hblank
  obtain ⟨tag, rest, -, -, htag⟩ := h
  rw [Text.trim_eq_nil_iff.mpr hblank] at htag
  cases htag

lemma exists_run (ls : List (List Char)) :
    ∃ run rest, ls = run ++ rest ∧ (∀ line ∈ run, ¬ Blank line) ∧ ∀ line ∈ rest.head?, Blank line := by
  induction ls with
  | nil => exact ⟨[], [], rfl, by simp, by simp⟩
  | cons line ls ih =>
    by_cases hline : Blank line
    · refine ⟨[], line :: ls, rfl, by simp, ?_⟩
      rintro _ ⟨⟩
      exact hline
    · obtain ⟨run, rest, rfl, hrun, hrest⟩ := ih
      exact ⟨line :: run, rest, rfl, List.forall_mem_cons.mpr ⟨hline, hrun⟩, hrest⟩

lemma parse_run_append [Text.Edition] {run run' : List (List Char)} (h : ∀ line ∈ run, ¬ Blank line)
    (h' : ∀ line ∈ run', ¬ Blank line)
    {first first' : List Char} (hfirst : first ∈ run.head?) (hmember : member? (Text.trim first) ≠ none)
    (hfirst' : first' ∈ run'.head?) (hmember' : member? (Text.trim first') ≠ none) :
    parse (run ++ run') = (parse run).append (parse run') := by
  obtain ⟨more, rfl⟩ := List.head?_eq_some_iff.mp hfirst
  obtain ⟨more', rfl⟩ := List.head?_eq_some_iff.mp hfirst'
  have hboth : ∀ line ∈ (first :: more) ++ (first' :: more'), ¬ Blank line := by
    intro line hl
    rcases List.mem_append.mp hl with hl | hl
    · exact h line hl
    · exact h' line hl
  rw [parse_run (by simp) h, parse_run (by simp) h', parse_run (by simp) hboth, List.map_append]
  exact ofRun_append_tags hmember hmember' (more.map Text.trim) (more'.map Text.trim)

lemma parse_append_of_tags [Text.Edition] {as bs : List (List Char)} (has : ∀ l ∈ as, '\n' ∉ l)
    (hbs : ∀ l ∈ bs, '\n' ∉ l)
    {run : List (List Char)} (hlast : LastRun as run) {first line : List Char} (hfirst : first ∈ run.head?)
    (htag : TagForm (Text.trim first)) (hline : line ∈ bs.head?) (htag' : TagForm (Text.trim line)) :
    parse (as ++ bs) = (parse as).append (parse bs) := by
  obtain ⟨before, gap, rfl, hbefore, hgap⟩ := hlast.split
  cases gap with
  | cons blank gap =>
    apply parse_append_of_getLast?
    intro l hl
    have hmem : l ∈ (blank :: gap).getLast? := by simpa [List.getLast?_append] using hl
    exact hgap l (List.mem_of_getLast? hmem)
  | nil =>
    rw [List.append_nil] at has ⊢
    obtain ⟨next, rest, rfl, hnext, hrest⟩ := exists_run bs
    -- the second part begins with a tag, and so with a run
    have hline' : line ∈ next.head? := by
      cases next with
      | nil => exact absurd (hrest line hline) (not_blank_of_tagForm htag')
      | cons l next => exact hline
    have hmember : member? (Text.trim first) ≠ none :=
      member?_ne_none (has first (List.mem_append_right _ (List.mem_of_mem_head? hfirst))) htag
    have hmember' : member? (Text.trim line) ≠ none :=
      member?_ne_none (hbs line (List.mem_of_mem_head? hline)) htag'
    calc parse (before ++ run ++ (next ++ rest))
        = parse (before ++ (run ++ next ++ rest)) := by simp only [List.append_assoc]
      _ = (parse before).append ((parse (run ++ next)).append (parse rest)) := by
          rw [parse_append_of_getLast? hbefore, parse_append_of_head? hrest]
      _ = (parse before).append (((parse run).append (parse next)).append (parse rest)) := by
          rw [parse_run_append hlast.text hnext hfirst hmember hline' hmember']
      _ = ((parse before).append (parse run)).append ((parse next).append (parse rest)) := by
          simp only [append_assoc]
      _ = (parse (before ++ run)).append (parse (next ++ rest)) := by
          rw [parse_append_of_getLast? hbefore, parse_append_of_head? hrest]

lemma Boundary.parse_append [Text.Edition] {as bs : List (List Char)} (h : Boundary as bs)
    (has : ∀ l ∈ as, '\n' ∉ l)
    (hbs : ∀ l ∈ bs, '\n' ∉ l) : parse (as ++ bs) = (parse as).append (parse bs) := by
  cases h with
  | nothingBefore has =>
    subst has
    rfl
  | blankBefore hlast hblank =>
    apply parse_append_of_getLast?
    intro line hline
    obtain rfl := Option.mem_unique hlast hline
    exact hblank
  | nothingAfter hbs =>
    subst hbs
    rw [List.append_nil]
    exact (append_empty _).symm
  | blankAfter hfirst hblank =>
    apply parse_append_of_head?
    intro line hline
    obtain rfl := Option.mem_unique hfirst hline
    exact hblank
  | tags hlast hfirst htag hline htag' => exact parse_append_of_tags has hbs hlast hfirst htag hline htag'

lemma Spaced.trim_eq {text line : List Char} (h : Spaced text line) : Text.trim line = Text.trim text := by
  obtain ⟨before, after, hbefore, hafter, rfl⟩ := h
  rw [Text.trim_blanks_append hbefore, Text.trim_append_blanks hafter]

lemma parse_respaced [Text.Edition] {ls ls' : List (List Char)} (h : List.Forall₂ Respaced ls ls') :
    parse ls = parse ls' := by
  have htrim : ls.map Text.trim = ls'.map Text.trim := by
    induction h with
    | nil => rfl
    | cons hline _ ih =>
      obtain ⟨text, hspaced, hspaced'⟩ := hline
      rw [List.map_cons, List.map_cons, hspaced.trim_eq, hspaced'.trim_eq, ih]
  rw [parse, parse, runs, runs, htrim]

lemma parse_between [Text.Edition] {gap : List (List Char)} (hne : gap ≠ [])
    (h : ∀ line ∈ gap, Blank line) (as bs : List (List Char)) :
    parse (as ++ (gap ++ bs)) = (parse as).append (parse bs) := by
  have hfirst : ∀ line ∈ (gap ++ bs).head?, Blank line := by
    obtain ⟨line, gap, rfl⟩ := List.exists_cons_of_ne_nil hne
    rintro _ ⟨⟩
    exact h line List.mem_cons_self
  have hlast : ∀ line ∈ gap.getLast?, Blank line := fun line hline => h line (List.mem_of_getLast? hline)
  rw [parse_append_of_head? hfirst, parse_append_of_getLast? hlast, parse_gap h, empty_append]

theorem body_composes_at_boundaries [Text.Edition] :
    (∀ as bs : List (List Char), (∀ line ∈ as, '\n' ∉ line) → (∀ line ∈ bs, '\n' ∉ line) → Boundary as bs →
      parse (as ++ bs) =
        ⟨(parse as).members ++ (parse bs).members, (parse as).paragraphs ++ (parse bs).paragraphs⟩) ∧
    (∀ ls ls' : List (List Char), List.Forall₂ Respaced ls ls' → parse ls = parse ls') ∧
    ∀ as gap gap' bs : List (List Char), gap ≠ [] → gap' ≠ [] → (∀ line ∈ gap, Blank line) →
      (∀ line ∈ gap', Blank line) →
      parse (as ++ (gap ++ bs)) = parse (as ++ (gap' ++ bs)) := by
  refine ⟨?_, ?_, ?_⟩
  · intro as bs has hbs h
    exact h.parse_append has hbs
  · intro ls ls' h
    exact parse_respaced h
  · intro as gap gap' bs hne hne' hgap hgap'
    rw [parse_between hne hgap, parse_between hne' hgap']

def openLines : List (List Char) :=
  ["Note: a", "@x: b", "", " @x: one", "more "].map String.toList

def nextLines : List (List Char) :=
  ["\t@y: two", "three", "", "Text"].map String.toList

theorem body_composes_at_tag :
    (∀ line ∈ openLines, '\n' ∉ line) ∧ (∀ line ∈ nextLines, '\n' ∉ line) ∧ Boundary openLines nextLines ∧
      parse (openLines ++ nextLines) =
        ⟨[⟨"x", "one more"⟩, ⟨"y", "two three"⟩], [⟨"Note", "a @x: b"⟩, ⟨"", "Text"⟩]⟩ ∧
      parse (openLines ++ ([[], [' ']] ++ nextLines)) = parse (openLines ++ ([['\t']] ++ nextLines)) := by
  have hopen : ∀ line ∈ openLines, '\n' ∉ line := by decide
  have hnext : ∀ line ∈ nextLines, '\n' ∉ line := by decide
  have hlast : LastRun openLines [" @x: one".toList, "more ".toList] :=
    ⟨by simp, by decide, ["Note: a", "@x: b", ""].map String.toList, [], rfl, by decide, by decide⟩
  have htag : TagForm (Text.trim " @x: one".toList) :=
    ⟨['x'], " one".toList, by simp, by simp [Text.isBlank], by decide⟩
  have htag' : TagForm (Text.trim "\t@y: two".toList) :=
    ⟨['y'], " two".toList, by simp, by simp [Text.isBlank], by decide⟩
  have hboundary : Boundary openLines nextLines := .tags hlast rfl htag rfl htag'
  obtain ⟨hcomposes, -, hgaps⟩ := body_composes_at_boundaries
  refine ⟨hopen, hnext, hboundary, ?_, ?_⟩
  · rw [hcomposes _ _ hopen hnext hboundary]
    decide +kernel
  · apply hgaps
    all_goals decide

end Body

end CommentDoc
