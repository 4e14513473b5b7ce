import CommentDoc.Proofs.Function.RoundTrip

/-! The short description follows the first dash that stands between blanks, and the dash stays in
it unless a space follows. -/

namespace CommentDoc.Header

structure Dashed (s blanks text : List Char) : Prop where
  split : s = '-' :: (blanks ++ text)
  ne_nil : blanks ≠ []
  blanks : ∀ c ∈ blanks, Text.isBlank c = true
  text : ∃ c ∈ text.head?, Text.isBlank c = false

structure Separates (header before blanks text : List Char) : Prop where
  split : ∃ rest, header = before ++ rest ∧ Dashed rest blanks text
  blank : ∃ c ∈ before.getLast?, Text.isBlank c = true

structure FirstDash (header before blanks text : List Char) : Prop where
  separates : Separates header before blanks text
  first : ∀ before' blanks' text', Separates header before' blanks' text' → before.length ≤ before'.length

lemma Dashed.separated?_eq {s blanks text : List Char} (h : Dashed s blanks text) (hs : '\n' ∉ s) :
    separated? s = some s := by
  obtain ⟨rfl, hne, hblanks, c, hc, hblank⟩ := h
  have hstop : ∀ d ∈ text.head?, Text.isBlank d = false := by
    intro d hd
    obtain rfl := Option.mem_unique hc hd
    exact hblank
  apply separated?_dash hne hblanks hstop
  · exact List.ne_nil_of_mem (List.mem_of_mem_head? hc)
  · intro hn
    exact hs (by simp [hn])

lemma dashed_of_separated? {s t : List Char} (hs : '\n' ∉ s) (h : separated? s = some t) :
    t = s ∧ ∃ blanks text, Dashed s blanks text := by
  unfold separated? at h
  split at h
  next rest =>
    have hspan := List.takeWhile_append_dropWhile (p := Text.isBlank) (l := rest)
    split at h
    next b blanks c text htake hdrop =>
      rw [htake, hdrop] at hspan
      have hline : restOfLine? (c :: text) = some (c :: text) := by
        apply restOfLine?_eq_some
        intro hn
        apply hs
        rw [← hspan]
        exact List.mem_cons_of_mem _ (List.mem_append_right _ hn)
      rw [hline, Option.map_some] at h
      obtain rfl := Option.some.inj h
      refine ⟨by simp [← hspan], b :: blanks, c :: text, by rw [hspan], by simp, ?_, c, rfl, ?_⟩
      · intro d hd
        rw [← htake] at hd
        exact List.mem_takeWhile_imp hd
      · have hstop := List.head?_dropWhile_not Text.isBlank rest
        rw [hdrop] at hstop
        simpa using hstop
    next => cases h
  next => cases h

lemma Separates.ne_nil {header before blanks text : List Char}
    (h : Separates header before blanks text) : before ≠ [] := by
  rintro rfl
  obtain ⟨c, hc, -⟩ := h.blank
  cases hc

lemma Separates.cons_cases {c : Char} {header before blanks text : List Char}
    (h : Separates (c :: header) before blanks text) :
    (before = [c] ∧ Text.isBlank c = true ∧ Dashed header blanks text) ∨
      ∃ before', before = c :: before' ∧ Separates header before' blanks text := by
  obtain ⟨⟨rest, hsplit, hdashed⟩, hblank⟩ := h
  cases before with
  | nil =>
    obtain ⟨d, hd, -⟩ := hblank
    cases hd
  | cons d before =>
    obtain ⟨rfl, rfl⟩ := List.cons.inj hsplit
    cases before with
    | nil =>
      obtain ⟨d, ⟨⟩, hblank⟩ := hblank
      exact Or.inl ⟨rfl, hblank, hdashed⟩
    | cons e before =>
      rw [List.getLast?_cons_cons] at hblank
      exact Or.inr ⟨_, rfl, ⟨_, rfl, hdashed⟩, hblank⟩

lemma Separates.cons {header before blanks text : List Char} (h : Separates header before blanks text)
    (c : Char) :
    Separates (c :: header) (c :: before) blanks text := by
  obtain ⟨d, before, rfl⟩ := List.exists_cons_of_ne_nil h.ne_nil
  obtain ⟨⟨rest, rfl, hdashed⟩, hblank⟩ := h
  refine ⟨⟨rest, rfl, hdashed⟩, ?_⟩
  rwa [List.getLast?_cons_cons]

lemma separator?_cases {header : List Char} (hline : '\n' ∉ header) :
    (separator? header = none ∧ ∀ before blanks text, ¬ Separates header before blanks text) ∨
      ∃ before blanks text, separator? header = some ('-' :: (blanks ++ text)) ∧
        FirstDash header before blanks text := by
  induction header with
  | nil =>
    refine Or.inl ⟨rfl, ?_⟩
    rintro before blanks text h
    obtain ⟨rest, hsplit, -⟩ := h.split
    exact h.ne_nil (List.append_eq_nil_iff.mp hsplit.symm).1
  | cons c header ih =>
    have hheader : '\n' ∉ header := fun hn => hline (List.mem_cons_of_mem _ hn)
    by_cases hhere : Text.isBlank c = true ∧ ∃ blanks text, Dashed header blanks text
    · obtain ⟨hc, blanks, text, hdashed⟩ := hhere
      refine Or.inr ⟨[c], blanks, text, ?_, ⟨⟨header, rfl, hdashed⟩, c, rfl, hc⟩, ?_⟩
      · rw [separator?, if_pos hc, hdashed.separated?_eq hheader, Option.some_or, hdashed.split]
      · intro before' blanks' text' h
        exact List.length_pos_iff.mpr h.ne_nil
    · have hnext : separator? (c :: header) = separator? header := by
        rw [separator?]
        split
        next hc =>
          cases hs : separated? header with
          | none => exact Option.none_or
          | some t => exact absurd ⟨hc, (dashed_of_separated? hheader hs).2⟩ hhere
        next => exact Option.none_or
      have hlater : ∀ {before blanks text}, Separates (c :: header) before blanks text →
          ∃ before', before = c :: before' ∧ Separates header before' blanks text := by
        intro before blanks text h
        rcases h.cons_cases with ⟨-, hc, hdashed⟩ | h
        · exact absurd ⟨hc, blanks, text, hdashed⟩ hhere
        · exact h
      rw [hnext]
      rcases ih hheader with ⟨hnone, hnot⟩ | ⟨before, blanks, text, hsome, hfirst⟩
      · refine Or.inl ⟨hnone, ?_⟩
        intro before blanks text h
        obtain ⟨before', -, h'⟩ := hlater h
        exact hnot _ _ _ h'
      · refine Or.inr ⟨c :: before, blanks, text, hsome, hfirst.separates.cons c, ?_⟩
        intro before' blanks' text' h
        obtain ⟨before'', rfl, h'⟩ := hlater h
        exact Nat.succ_le_succ (hfirst.first _ _ _ h')

namespace FirstDash

variable {header before blanks text : List Char}

lemma header_eq (h : FirstDash header before blanks text) : header = before ++ '-' :: (blanks ++ text) := by
  obtain ⟨rest, rfl, hdashed⟩ := h.separates.split
  rw [hdashed.split]

lemma separator?_eq (h : FirstDash header before blanks text) (hline : '\n' ∉ header) :
    separator? header = some ('-' :: (blanks ++ text)) := by
  rcases separator?_cases hline with ⟨-, hnot⟩ | ⟨before', blanks', text', hsome, h'⟩
  · exact absurd h.separates (hnot _ _ _)
  · have hlength : before'.length = before.length :=
      Nat.le_antisymm (h'.first _ _ _ h.separates) (h.first _ _ _ h'.separates)
    have hsame := List.append_inj (h'.header_eq.symm.trans h.header_eq) hlength
    rw [hsome, hsame.2]

lemma shortDescription_space {more : List Char} (h : FirstDash header before (' ' :: more) text)
    (hline : '\n' ∉ header) :
    shortDescription header = more ++ text := by
  rw [shortDescription, h.separator?_eq hline]
  rfl

lemma shortDescription_other (h : FirstDash header before blanks text) (hline : '\n' ∉ header)
    (hblanks : blanks.head? ≠ some ' ') : shortDescription header = '-' :: (blanks ++ text) := by
  obtain ⟨rest, -, hdashed⟩ := h.separates.split
  obtain ⟨b, more, rfl⟩ := List.exists_cons_of_ne_nil hdashed.ne_nil
  rw [shortDescription, h.separator?_eq hline]
  split
  next heq => cases heq
  next heq =>
    cases heq
    exact absurd rfl hblanks
  next heq => exact (Option.some.inj heq).symm

lemma of_word {word : List Char} {c : Char} (hword : ∀ d ∈ word, Text.isBlank d = false)
    (h : Separates header (word ++ [c]) blanks text) : FirstDash header (word ++ [c]) blanks text := by
  refine ⟨h, ?_⟩
  intro before' blanks' text' h'
  by_contra hlt
  obtain ⟨rest, hsplit, -⟩ := h.split
  obtain ⟨rest', hsplit', -⟩ := h'.split
  have hshort : before'.length ≤ word.length := by
    rw [List.length_append, List.length_singleton] at hlt
    omega
  have hinside : before' <+: word := by
    rw [hsplit', List.append_assoc] at hsplit
    exact List.prefix_of_prefix_length_le ⟨rest', hsplit⟩ (List.prefix_append word _) hshort
  obtain ⟨d, hd, hblank⟩ := h'.blank
  rw [hword d (hinside.subset (List.mem_of_getLast? hd))] at hblank
  cases hblank

end FirstDash

def FollowsDash (header before text : List Char) : Prop :=
  ∃ blanks, blanks ≠ [] ∧ (∀ c ∈ blanks, Text.isBlank c = true) ∧ header = before ++ '-' :: (blanks ++ text)

lemma FirstDash.followsDash_iff {header before blanks text : List Char}
    (h : FirstDash header before blanks text)
    (hline : '\n' ∉ header) :
    FollowsDash header before (shortDescription header) ↔ blanks.head? = some ' ' := by
  constructor
  · rintro ⟨w, -, -, hw⟩
    by_contra hblanks
    -- the header would have a dash and blanks more than it has
    have hlength := congrArg List.length (hw.symm.trans h.header_eq)
    rw [h.shortDescription_other hline hblanks] at hlength
    simp only [List.length_append, List.length_cons] at hlength
    omega
  · intro hblanks
    obtain ⟨more, rfl⟩ := List.head?_eq_some_iff.mp hblanks
    refine ⟨[' '], by simp, by simp [Text.isBlank], ?_⟩
    rw [h.shortDescription_space hline]
    exact h.header_eq

lemma shortDescription_eq_nil_iff {header : List Char} (hline : '\n' ∉ header) :
    shortDescription header = [] ↔ ∀ before blanks text, ¬ Separates header before blanks text := by
  rcases separator?_cases hline with ⟨hnone, hnot⟩ | ⟨before, blanks, text, -, hfirst⟩
  · rw [shortDescription, hnone]
    exact ⟨fun _ => hnot, fun _ => rfl⟩
  · refine ⟨fun h => ?_, fun h => absurd hfirst.separates (h _ _ _)⟩
    obtain ⟨rest, -, hdashed⟩ := hfirst.separates.split
    obtain ⟨c, hc, -⟩ := hdashed.text
    by_cases hblanks : blanks.head? = some ' '
    · obtain ⟨more, rfl⟩ := List.head?_eq_some_iff.mp hblanks
      rw [hfirst.shortDescription_space hline, List.append_eq_nil_iff] at h
      rw [h.2] at hc
      cases hc
    · rw [hfirst.shortDescription_other hline hblanks] at h
      cases h

theorem short_description_follows_dash_iff (header : List Char) (hline : '\n' ∉ header) :
    (shortDescription header = [] ↔ ∀ before blanks text, ¬ Separates header before blanks text) ∧
    (shortDescription header ≠ [] → ∃ before blanks text, FirstDash header before blanks text) ∧
    ∀ before blanks text, FirstDash header before blanks text →
      (FollowsDash header before (shortDescription header) ↔ blanks.head? = some ' ') ∧
      (blanks.head? ≠ some ' ' → header = before ++ shortDescription header) := by
  refine ⟨shortDescription_eq_nil_iff hline, ?_, ?_⟩
  · intro hne
    rcases separator?_cases hline with ⟨-, hnot⟩ | ⟨before, blanks, text, -, hfirst⟩
    · exact absurd ((shortDescription_eq_nil_iff hline).mpr hnot) hne
    · exact ⟨before, blanks, text, hfirst⟩
  · intro before blanks text hfirst
    refine ⟨hfirst.followsDash_iff hline, ?_⟩
    intro hblanks
    rw [hfirst.shortDescription_other hline hblanks]
    exact hfirst.header_eq

def dashedHeader : List Char :=
  "f-g -  a - b".toList

theorem short_description_follows_first_dash :
    '\n' ∉ dashedHeader ∧ FirstDash dashedHeader "f-g ".toList "  ".toList "a - b".toList ∧
      FollowsDash dashedHeader "f-g ".toList (shortDescription dashedHeader) ∧
      shortDescription dashedHeader = " a - b".toList := by
  have hline : '\n' ∉ dashedHeader := by decide
  have hdashed : Dashed "-  a - b".toList "  ".toList "a - b".toList :=
    ⟨rfl, by simp, by simp [Text.isBlank], 'a', rfl, by decide⟩
  have hseparates : Separates dashedHeader ("f-g".toList ++ [' ']) "  ".toList "a - b".toList :=
    ⟨⟨_, by decide, hdashed⟩, ' ', rfl, by decide⟩
  have hfirst : FirstDash dashedHeader "f-g ".toList "  ".toList "a - b".toList :=
    .of_word (by simp [Text.isBlank]) hseparates
  obtain ⟨-, -, hdash⟩ := short_description_follows_dash_iff dashedHeader hline
  exact ⟨hline, hfirst, (hdash _ _ _ hfirst).1.mpr rfl, by decide⟩

def tabbedHeader : List Char :=
  "f -\tx".toList

theorem tab_behind_dash_keeps_dash :
    Text.IsLine tabbedHeader ∧ FirstDash tabbedHeader "f ".toList "\t".toList "x".toList ∧
      shortDescription tabbedHeader = "-\tx".toList ∧
      ¬ FollowsDash tabbedHeader "f ".toList (shortDescription tabbedHeader) := by
  have hline : '\n' ∉ tabbedHeader := by decide
  have hdashed : Dashed "-\tx".toList "\t".toList "x".toList :=
    ⟨rfl, by simp, by simp [Text.isBlank], 'x', rfl, by decide⟩
  have hseparates : Separates tabbedHeader ("f".toList ++ [' ']) "\t".toList "x".toList :=
    ⟨⟨_, by decide, hdashed⟩, ' ', rfl, by decide⟩
  have hfirst : FirstDash tabbedHeader "f ".toList "\t".toList "x".toList :=
    .of_word (by simp [Text.isBlank]) hseparates
  refine ⟨⟨by decide, hline⟩, hfirst, by decide, ?_⟩
  rw [hfirst.followsDash_iff hline]
  decide

end CommentDoc.Header
