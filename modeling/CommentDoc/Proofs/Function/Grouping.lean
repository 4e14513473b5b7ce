import CommentDoc.Proofs.Function.Newlines
import Mathlib.Data.List.Forall2
import CommentDoc.Text.Unicode

/-! How the lines of a body are grouped, said without the parser: runs of lines that are not
blank, each of which is one paragraph or a sequence of members. -/

namespace CommentDoc

namespace Body

open Paragraph (TagForm HeadingForm)

def Tagged (line tag rest : List Char) : Prop :=
  tag ≠ [] ∧ (∀ c ∈ tag, Text.isBlank c = false ∧ c ≠ ':') ∧ line = '@' :: (tag ++ ':' :: rest)

def Titled [Text.Edition] (line heading rest : List Char) : Prop :=
  heading ≠ [] ∧ (∀ c ∈ heading, Text.isWord c = true ∨ c = ' ') ∧ line = heading ++ ':' :: rest

def inOneLine (pieces : List (List Char)) : String :=
  " ".intercalate ((pieces.filter (· ≠ [])).map String.ofList)

/-- The maximal runs of lines that are not blank. -/
inductive Runs : List (List Char) → List (List (List Char)) → Prop
  | blanks {gap : List (List Char)} : (∀ l ∈ gap, l = []) → Runs gap []
  | run {gap run rest : List (List Char)} {rs : List (List (List Char))} : (∀ l ∈ gap, l = []) → run ≠ [] →
      (∀ l ∈ run, l ≠ []) → (∀ l ∈ rest.head?, l = []) → Runs rest rs →
      Runs (gap ++ (run ++ rest)) (run :: rs)

inductive MemberRun : List (List Char) → List Member → Prop
  | nil : MemberRun [] []
  | member {line tag rest : List Char} {more later : List (List Char)} {members : List Member} :
      Tagged line tag rest → (∀ l ∈ more, ¬ TagForm l) → MemberRun later members →
      MemberRun (line :: (more ++ later))
        (⟨if String.ofList tag = "return" then "@return" else String.ofList tag,
          inOneLine (Text.trim rest :: more)⟩ ::
          members)

inductive ParagraphRun [Text.Edition] : List (List Char) → Paragraph → Prop
  | titled {line heading rest : List Char} {more : List (List Char)} : Titled line heading rest →
      ParagraphRun (line :: more) ⟨String.ofList (Text.trim heading), inOneLine (Text.trim rest :: more)⟩
  | plain {line : List Char} {more : List (List Char)} : ¬ HeadingForm line →
      ParagraphRun (line :: more) ⟨"", inOneLine (line :: more)⟩

inductive RunGives [Text.Edition] : List (List Char) → Body → Prop
  | paragraph {line : List Char} {more : List (List Char)} {p : Paragraph} : ¬ TagForm line →
      ParagraphRun (line :: more) p → RunGives (line :: more) ⟨[], [p]⟩
  | members {line : List Char} {more : List (List Char)} {ms : List Member} : TagForm line →
      MemberRun (line :: more) ms → RunGives (line :: more) ⟨ms, []⟩

def Grouped [Text.Edition] (lines : List (List Char)) (body : Body) : Prop :=
  ∃ rs parts, Runs (lines.map Text.trim) rs ∧ List.Forall₂ RunGives rs parts ∧
    body = ⟨parts.flatMap members, parts.flatMap paragraphs⟩

lemma joined_eq_inOneLine (pieces : List (List Char)) : joined pieces = inOneLine pieces := by
  have hjoin : ∀ ps : List (List Char), Text.join [' '] ps = [' '].intercalate ps := by
    intro ps
    induction ps with
    | nil => rfl
    | cons p ps ih =>
      cases ps with
      | nil => rw [Text.join, List.intercalate_singleton]
      | cons q ps => rw [Text.join, ih, List.intercalate_cons_cons]
  have hfilter : pieces.filter (!·.isEmpty) = pieces.filter (· ≠ []) := by
    apply List.filter_congr
    intro p _
    cases p <;> rfl
  rw [← String.toList_inj, joined, inOneLine, String.toList_ofList, String.toList_intercalate, hjoin, hfilter]
  simp [Function.comp_def]

lemma memberName_eq (tag : List Char) :
    memberName tag = if String.ofList tag = "return" then "@return" else String.ofList tag := by
  have hreturn : tag = returnName ↔ String.ofList tag = "return" := by
    rw [← String.toList_inj, String.toList_ofList]
    rfl
  rw [memberName]
  by_cases h : tag = returnName
  · rw [if_pos h, if_pos (hreturn.mp h), h]
    rfl
  · rw [if_neg h, if_neg (mt hreturn.mpr h)]

lemma member?_eq_none {line : List Char} (h : ¬ TagForm line) : member? line = none := by
  by_contra hm
  exact h (tagForm_of_member? hm)

lemma member?_of_tagged {line tag rest : List Char} (hline : '\n' ∉ line) (h : Tagged line tag rest) :
    member? line = some (tag, rest) := by
  obtain ⟨hne, hchars, rfl⟩ := h
  apply member?_tagged hne hchars
  intro hn
  exact hline (by simp [hn])

lemma heading?_eq_none [Text.Edition] {line : List Char} (h : ¬ HeadingForm line) : heading? line = none := by
  by_contra hm
  exact h (headingForm_of_heading? hm)

lemma heading?_of_titled [Text.Edition] {line heading rest : List Char} (hline : '\n' ∉ line)
    (h : Titled line heading rest) :
    heading? line = some (heading, rest) := by
  obtain ⟨hne, hchars, rfl⟩ := h
  apply heading?_titled hne hchars
  intro hn
  exact hline (by simp [hn])

lemma membersOf_append {more : List (List Char)} (h : ∀ l ∈ more, ¬ TagForm l) (later : List (List Char)) :
    membersOf (more ++ later) = (more ++ (membersOf later).1, (membersOf later).2) := by
  induction more with
  | nil => rfl
  | cons line more ih =>
    obtain ⟨hline, hmore⟩ := List.forall_mem_cons.mp h
    rw [List.cons_append, membersOf, member?_eq_none hline, ih hmore]
    rfl

lemma MemberRun.membersOf_eq {run : List (List Char)} {ms : List Member} (h : MemberRun run ms)
    (hrun : ∀ l ∈ run, '\n' ∉ l) : membersOf run = ([], ms) := by
  induction h with
  | nil => rfl
  | @member line tag rest more later members htag hmore _ ih =>
    obtain ⟨hline, hlines⟩ := List.forall_mem_cons.mp hrun
    have hlater := ih fun l hl => hlines l (List.mem_append_right _ hl)
    rw [membersOf, member?_of_tagged hline htag, membersOf_append hmore, hlater]
    simp only [List.append_nil, joined_eq_inOneLine, memberName_eq]

lemma exists_memberRun (ls : List (List Char)) :
    ∃ more later ms, ls = more ++ later ∧ (∀ l ∈ more, ¬ TagForm l) ∧ MemberRun later ms := by
  induction ls with
  | nil => exact ⟨[], [], [], rfl, by simp, .nil⟩
  | cons line ls ih =>
    obtain ⟨more, later, ms, rfl, hmore, hlater⟩ := ih
    by_cases hline : TagForm line
    · obtain ⟨tag, rest, htag⟩ := hline
      exact ⟨[], _, _, rfl, by simp, .member htag hmore hlater⟩
    · exact ⟨line :: more, later, ms, rfl, List.forall_mem_cons.mpr ⟨hline, hmore⟩, hlater⟩

lemma ParagraphRun.paragraphOf_eq [Text.Edition] {line : List Char} {more : List (List Char)} {p : Paragraph}
    (h : ParagraphRun (line :: more) p) (hline : '\n' ∉ line) : paragraphOf line more = p := by
  cases h with
  | titled ht => simp only [paragraphOf, heading?_of_titled hline ht, joined_eq_inOneLine]
  | plain hn => simp only [paragraphOf, heading?_eq_none hn, joined_eq_inOneLine]

lemma exists_paragraphRun [Text.Edition] (line : List Char) (more : List (List Char)) :
    ∃ p, ParagraphRun (line :: more) p := by
  by_cases h : HeadingForm line
  · obtain ⟨heading, rest, ht⟩ := h
    exact ⟨_, .titled ht⟩
  · exact ⟨_, .plain h⟩

lemma RunGives.ofRun_eq [Text.Edition] {run : List (List Char)} {body : Body} (h : RunGives run body)
    (hrun : ∀ l ∈ run, '\n' ∉ l) :
    ofRun run = body := by
  cases h with
  | @paragraph line more p htag hp =>
    have hline := hrun line List.mem_cons_self
    rw [ofRun, member?_eq_none htag, hp.paragraphOf_eq hline]
  | @members line more ms htag hms =>
    have hline := hrun line List.mem_cons_self
    obtain ⟨tag, rest, htag⟩ := htag
    rw [ofRun, member?_of_tagged hline htag, hms.membersOf_eq hrun]

lemma exists_runGives [Text.Edition] {run : List (List Char)} (h : run ≠ []) : ∃ body, RunGives run body := by
  obtain ⟨line, more, rfl⟩ := List.exists_cons_of_ne_nil h
  by_cases htag : TagForm line
  · obtain ⟨plain, later, ms, heq, hplain, hms⟩ := exists_memberRun (line :: more)
    cases plain with
    | nil =>
      rw [List.nil_append] at heq
      exact ⟨_, .members htag (heq ▸ hms)⟩
    | cons l plain =>
      obtain ⟨rfl, -⟩ := List.cons.inj heq
      exact absurd htag (hplain line List.mem_cons_self)
  · obtain ⟨p, hp⟩ := exists_paragraphRun line more
    exact ⟨_, .paragraph htag hp⟩

lemma filter_pieces_gap {gap : List (List Char)} (h : ∀ l ∈ gap, l = []) (rest : List (List Char)) :
    (Text.pieces List.isEmpty (gap ++ rest)).filter (!·.isEmpty) =
      (Text.pieces List.isEmpty rest).filter (!·.isEmpty) := by
  induction gap with
  | nil => rfl
  | cons l gap ih =>
    obtain ⟨rfl, hgap⟩ := List.forall_mem_cons.mp h
    exact ih hgap

lemma filter_pieces_run {run rest : List (List Char)} (hne : run ≠ []) (hrun : ∀ l ∈ run, l ≠ [])
    (hrest : ∀ l ∈ rest.head?, l = []) :
    (Text.pieces List.isEmpty (run ++ rest)).filter (!·.isEmpty) =
      run :: (Text.pieces List.isEmpty rest).filter (!·.isEmpty) := by
  have htext : ∀ l ∈ run, l.isEmpty = false := fun l hl => by simpa using hrun l hl
  have hkept : ∀ rs, (run :: rs).filter (!·.isEmpty) = run :: rs.filter (!·.isEmpty) := by
    intro rs
    apply List.filter_cons_of_pos
    simpa using hne
  cases rest with
  | nil =>
    rw [List.append_nil, Text.pieces_of_notSep htext, hkept]
    rfl
  | cons l rest =>
    obtain rfl := hrest l rfl
    rw [Text.pieces_append htext rfl, hkept]
    rfl

lemma Runs.eq_filter_pieces {ls : List (List Char)} {rs : List (List (List Char))} (h : Runs ls rs) :
    rs = (Text.pieces List.isEmpty ls).filter (!·.isEmpty) := by
  induction h with
  | blanks hgap =>
    have hnil := filter_pieces_gap hgap []
    rw [List.append_nil] at hnil
    exact hnil.symm
  | run hgap hne hrun hrest _ ih => rw [filter_pieces_gap hgap, filter_pieces_run hne hrun hrest, ← ih]

lemma exists_runs (ls : List (List Char)) : ∃ rs, Runs ls rs := by
  induction ls with
  | nil => exact ⟨[], .blanks (by simp)⟩
  | cons l ls ih =>
    obtain ⟨rs, hrs⟩ := ih
    by_cases hl : l = []
    · -- a blank line goes to the gap at the front
      cases hrs with
      | blanks hgap => exact ⟨[], .blanks (List.forall_mem_cons.mpr ⟨hl, hgap⟩)⟩
      | run hgap hne hrun hrest h => exact ⟨_, .run (List.forall_mem_cons.mpr ⟨hl, hgap⟩) hne hrun hrest h⟩
    · cases hrs with
      | blanks hgap =>
        have hhead : ∀ l' ∈ ls.head?, l' = [] := fun l' hl' => hgap l' (List.mem_of_mem_head? hl')
        have hruns : Runs ([] ++ ([l] ++ ls)) [[l]] :=
          .run (by simp) (by simp) (by simpa using hl) hhead (.blanks hgap)
        exact ⟨_, hruns⟩
      | @run gap run rest rs hgap hne hrun hrest h =>
        cases gap with
        | nil =>
          have hruns : Runs ([] ++ ((l :: run) ++ rest)) ((l :: run) :: rs) :=
            .run (by simp) (by simp) (List.forall_mem_cons.mpr ⟨hl, hrun⟩) hrest h
          exact ⟨_, hruns⟩
        | cons blank gap =>
          have hhead : ∀ l' ∈ (blank :: gap ++ (run ++ rest)).head?, l' = [] := by
            rintro _ ⟨⟩
            exact hgap blank List.mem_cons_self
          have hruns : Runs ([] ++ ([l] ++ (blank :: gap ++ (run ++ rest)))) ([l] :: run :: rs) :=
            .run (by simp) (by simp) (by simpa using hl) hhead (.run hgap hne hrun hrest h)
          exact ⟨_, hruns⟩

lemma Runs.run_ne_nil {ls : List (List Char)} {rs : List (List (List Char))} (h : Runs ls rs) :
    ∀ run ∈ rs, run ≠ [] := by
  induction h with
  | blanks _ => simp
  | run _ hne _ _ _ ih => exact List.forall_mem_cons.mpr ⟨hne, ih⟩

lemma foldr_ofRun [Text.Edition] {rs : List (List (List Char))} {parts : List Body}
    (h : List.Forall₂ RunGives rs parts)
    (hrs : ∀ run ∈ rs, ∀ l ∈ run, '\n' ∉ l) :
    rs.foldr (fun run body => (ofRun run).append body) empty =
      ⟨parts.flatMap members, parts.flatMap paragraphs⟩ := by
  induction h with
  | nil => rfl
  | cons hrun _ ih =>
    obtain ⟨hlines, hrest⟩ := List.forall_mem_cons.mp hrs
    rw [List.foldr_cons, ih hrest, hrun.ofRun_eq hlines]
    rfl

lemma Grouped.parse_eq [Text.Edition] {lines : List (List Char)} {body : Body} (h : Grouped lines body)
    (hlines : ∀ line ∈ lines, '\n' ∉ line) : parse lines = body := by
  obtain ⟨rs, parts, hrs, hparts, rfl⟩ := h
  obtain rfl : rs = runs lines := hrs.eq_filter_pieces
  exact foldr_ofRun hparts fun run hrun => newline_notMem_runs hlines hrun

lemma exists_grouped [Text.Edition] (lines : List (List Char)) : ∃ body, Grouped lines body := by
  obtain ⟨rs, hrs⟩ := exists_runs (lines.map Text.trim)
  have hparts : ∀ rs : List (List (List Char)), (∀ run ∈ rs, run ≠ []) →
      ∃ parts, List.Forall₂ RunGives rs parts := by
    intro rs hne
    induction rs with
    | nil => exact ⟨[], .nil⟩
    | cons run rs ih =>
      obtain ⟨hrun, hrest⟩ := List.forall_mem_cons.mp hne
      obtain ⟨part, hpart⟩ := exists_runGives hrun
      obtain ⟨parts, hparts⟩ := ih hrest
      exact ⟨part :: parts, .cons hpart hparts⟩
  obtain ⟨parts, hparts⟩ := hparts rs hrs.run_ne_nil
  exact ⟨_, rs, parts, hrs, hparts, rfl⟩

theorem parse_eq_iff_grouped [Text.Edition] (lines : List (List Char))
    (hlines : ∀ line ∈ lines, '\n' ∉ line) (body : Body) :
    parse lines = body ↔ Grouped lines body := by
  constructor
  · rintro rfl
    obtain ⟨body, hbody⟩ := exists_grouped lines
    rwa [hbody.parse_eq hlines]
  · intro h
    exact h.parse_eq hlines

def oddLines : List (List Char) :=
  ["  Note: first ", "@x: inside", "", "\t", "@return: value ", "Then: more", "@a:b:", "@c:", " ",
    "one @x:y", "Two:", "",
    "@two words: text"].map String.toList

theorem grouped_oddLines :
    (∀ line ∈ oddLines, '\n' ∉ line) ∧
    Grouped oddLines
      ⟨[⟨"@return", "value Then: more"⟩, ⟨"a", "b:"⟩, ⟨"c", ""⟩],
        [⟨"Note", "first @x: inside"⟩, ⟨"", "one @x:y Two:"⟩, ⟨"", "@two words: text"⟩]⟩ := by
  have hlines : ∀ line ∈ oddLines, '\n' ∉ line := by decide +kernel
  refine ⟨hlines, (parse_eq_iff_grouped oddLines hlines _).mp ?_⟩
  decide +kernel

end Body

end CommentDoc
