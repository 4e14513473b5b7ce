import CommentDoc.Delimiter.Family
import CommentDoc.Proofs.Text.Trimming
import Mathlib.Data.List.TakeWhile

namespace CommentDoc

namespace Head

inductive Tagged (style : CommentStyle) : List Char → Option (List Char) → Prop
  | bare {blanks : List Char} : (∀ c ∈ blanks, Text.isBlank c = true) →
    Tagged style (style.marker ++ blanks) none
  | empty {blanks : List Char} : (∀ c ∈ blanks, Text.isBlank c = true) →
      Tagged style (style.marker ++ '!' :: blanks) none
  | tag {tag blanks : List Char} : tag ≠ [] → (∀ c ∈ tag, c ≠ '!' ∧ Text.isBlank c = false) →
      (∀ c ∈ blanks, Text.isBlank c = true) → Tagged style (style.marker ++ '!' :: (tag ++ blanks)) (some tag)

lemma isTagChar_iff {c : Char} : isTagChar c = true ↔ c ≠ '!' ∧ Text.isBlank c = false := by
  simp [isTagChar]

variable {style : CommentStyle} {line : List Char} {tag : Option (List Char)}

lemma tagged_of_isEnding {rest : List Char} (h : isEnding rest = true) :
    ∃ tag, Tagged style (style.marker ++ rest) tag := by
  unfold isEnding at h
  split at h
  next s =>
    have hblanks := List.all_eq_true.mp h
    have hspan := List.takeWhile_append_dropWhile (p := isTagChar) (l := s)
    rw [← hspan]
    cases ht : s.takeWhile isTagChar with
    | nil => exact ⟨none, .empty hblanks⟩
    | cons c tag =>
      refine ⟨some (c :: tag), .tag (by simp) ?_ hblanks⟩
      intro d hd
      rw [← ht] at hd
      exact isTagChar_iff.mp (List.mem_takeWhile_imp hd)
  next => exact ⟨none, .bare (List.all_eq_true.mp h)⟩

lemma exists_tagged (h : accepts style line = true) : ∃ tag, Tagged style line tag := by
  cases hr : Text.after? style.marker line with
  | none => simp [accepts, hr] at h
  | some rest =>
    obtain rfl := Text.after?_eq_some_iff.mp hr
    apply tagged_of_isEnding
    simpa [accepts, hr] using h

lemma Tagged.isEnding (h : Tagged style line tag) :
    ∃ rest, line = style.marker ++ rest ∧ isEnding rest = true := by
  cases h with
  | @bare blanks hblanks =>
    refine ⟨blanks, rfl, ?_⟩
    have hall := List.all_eq_true.mpr hblanks
    unfold Head.isEnding
    split
    next s => exact absurd (hblanks '!' List.mem_cons_self) (by decide)
    next => exact hall
  | @empty blanks hblanks =>
    refine ⟨_, rfl, List.all_eq_true.mpr ?_⟩
    intro c hc
    exact hblanks c ((List.dropWhile_suffix isTagChar).subset hc)
  | @tag tag blanks _ htag hblanks =>
    refine ⟨_, rfl, List.all_eq_true.mpr ?_⟩
    intro c hc
    rw [List.dropWhile_append_of_pos fun d hd => isTagChar_iff.mpr (htag d hd)] at hc
    exact hblanks c ((List.dropWhile_suffix isTagChar).subset hc)

lemma accepts_iff : accepts style line = true ↔ ∃ tag, Tagged style line tag := by
  constructor
  · exact exists_tagged
  · rintro ⟨tag, h⟩
    obtain ⟨rest, rfl, hrest⟩ := h.isEnding
    have hafter : Text.after? style.marker (style.marker ++ rest) = some rest :=
      Text.after?_eq_some_iff.mpr rfl
    rw [accepts, hafter]
    exact hrest

lemma tag?_append_blanks {text blanks : List Char} (hblanks : ∀ c ∈ blanks, Text.isBlank c = true) :
    tag? (text ++ blanks) = tag? text := by
  rw [tag?, tag?, List.reverse_append, List.dropWhile_append_of_pos]
  intro c hc
  exact hblanks c (List.mem_reverse.mp hc)

lemma tag?_append {tag : List Char} (hne : tag ≠ []) (htag : ∀ c ∈ tag, c ≠ '!' ∧ Text.isBlank c = false)
    (before : List Char) : tag? (before ++ '!' :: tag) = some tag := by
  have hbackwards : (before ++ '!' :: tag).reverse = tag.reverse ++ '!' :: before.reverse := by simp
  have hchars : ∀ c ∈ tag.reverse, isTagChar c = true :=
    fun c hc => isTagChar_iff.mpr (htag c (List.mem_reverse.mp hc))
  have hstop : ∀ c ∈ ('!' :: before.reverse).head?, isTagChar c = false := by
    rintro _ ⟨⟩
    decide
  obtain ⟨c, cs, hc⟩ := List.exists_cons_of_ne_nil (List.reverse_ne_nil_iff.mpr hne)
  have hblank : ∀ d ∈ (tag.reverse ++ '!' :: before.reverse).head?, Text.isBlank d = false := by
    rw [hc]
    rintro _ ⟨⟩
    exact (htag c (List.mem_reverse.mp (by simp [hc]))).2
  have htake := Text.takeWhile_append_stop hchars hstop
  have hdrop := Text.dropWhile_append_stop hchars hstop
  simp only [tag?, hbackwards, Text.dropWhile_of_head? hblank, htake, hdrop]
  simp only [hc]
  rw [← hc, List.reverse_reverse]

lemma Tagged.tag?_eq (h : Tagged style line tag) : tag? line = tag := by
  cases h with
  | bare hblanks =>
    rw [tag?_append_blanks hblanks]
    cases style <;> decide
  | @empty blanks hblanks =>
    have hsplit : style.marker ++ '!' :: blanks = (style.marker ++ ['!']) ++ blanks := by simp
    rw [hsplit, tag?_append_blanks hblanks]
    cases style <;> decide
  | @tag tag blanks hne htag hblanks =>
    have hsplit : style.marker ++ '!' :: (tag ++ blanks) = (style.marker ++ '!' :: tag) ++ blanks := by simp
    rw [hsplit, tag?_append_blanks hblanks, tag?_append hne htag]

def TagText (s : List Char) : Prop :=
  ∀ c ∈ s, c ≠ '!' ∧ Text.isBlank c = false

instance (s : List Char) : Decidable (TagText s) :=
  List.decidableBAll (fun c => c ≠ '!' ∧ Text.isBlank c = false) s

structure EndsIn (line before tag blanks : List Char) : Prop where
  eq : line = before ++ '!' :: (tag ++ blanks)
  ne_nil : tag ≠ []
  tag : TagText tag
  blanks : Text.Blanks blanks

lemma endsIn_of_tag? {tag : List Char} (h : tag? line = some tag) :
    ∃ before blanks, EndsIn line before tag blanks := by
  have hblanks := List.takeWhile_append_dropWhile (p := Text.isBlank) (l := line.reverse)
  have hspan := List.takeWhile_append_dropWhile (p := isTagChar) (l := line.reverse.dropWhile Text.isBlank)
  unfold tag? at h
  dsimp only at h
  split at h
  next c cs rest htake hdrop =>
    obtain rfl := Option.some.inj h
    refine ⟨rest.reverse, (line.reverse.takeWhile Text.isBlank).reverse, ?_, by simp [htake], ?_, ?_⟩
    · rw [hdrop] at hspan
      rw [← hspan] at hblanks
      have hline := congrArg List.reverse hblanks
      simpa using hline.symm
    · intro d hd
      exact isTagChar_iff.mp (List.mem_takeWhile_imp (List.mem_reverse.mp hd))
    · intro d hd
      exact List.mem_takeWhile_imp (List.mem_reverse.mp hd)
  next => cases h

namespace EndsIn

variable {before tag blanks : List Char}

lemma tag?_eq (h : EndsIn line before tag blanks) : tag? line = some tag := by
  have hsplit : before ++ '!' :: (tag ++ blanks) = (before ++ '!' :: tag) ++ blanks := by simp
  rw [h.eq, hsplit, tag?_append_blanks h.blanks, tag?_append h.ne_nil h.tag]

lemma blanks_eq (h : EndsIn line before tag blanks) :
    line.reverse.takeWhile Text.isBlank = blanks.reverse := by
  have hbackwards : line.reverse = blanks.reverse ++ (tag.reverse ++ '!' :: before.reverse) := by simp [h.eq]
  obtain ⟨c, cs, hc⟩ := List.exists_cons_of_ne_nil (List.reverse_ne_nil_iff.mpr h.ne_nil)
  rw [hbackwards, hc]
  apply Text.takeWhile_append_stop
  · exact fun d hd => h.blanks d (List.mem_reverse.mp hd)
  · rintro _ ⟨⟩
    exact (h.tag c (List.mem_reverse.mp (by simp [hc]))).2

-- from the end of the line, the blanks are as many as there are, and the tag is what is found before them
lemma unique (h : EndsIn line before tag blanks) {before' tag' blanks' : List Char}
    (h' : EndsIn line before' tag' blanks') :
    before = before' ∧ tag = tag' ∧ blanks = blanks' := by
  obtain rfl : tag = tag' := Option.some.inj (h.tag?_eq.symm.trans h'.tag?_eq)
  obtain rfl : blanks = blanks' := List.reverse_inj.mp (h.blanks_eq.symm.trans h'.blanks_eq)
  exact ⟨List.append_cancel_right (h.eq.symm.trans h'.eq), rfl, rfl⟩

end EndsIn

lemma tagged_of_tagText {tag blanks : List Char} (htag : TagText tag) (hblanks : Text.Blanks blanks) :
    Tagged style (style.marker ++ '!' :: (tag ++ blanks)) (if tag = [] then none else some tag) := by
  split
  next hnil =>
    subst hnil
    exact .empty hblanks
  next hne => exact .tag hne htag hblanks

lemma accepts_iff_marker : accepts style line = true ↔ ∃ blanks, Text.Blanks blanks ∧
    (line = style.marker ++ blanks ∨ ∃ tag, TagText tag ∧ line = style.marker ++ '!' :: (tag ++ blanks)) := by
  rw [accepts_iff]
  constructor
  · rintro ⟨tag, h⟩
    cases h with
    | @bare blanks hblanks => exact ⟨blanks, hblanks, Or.inl rfl⟩
    | @empty blanks hblanks => exact ⟨blanks, hblanks, Or.inr ⟨[], by simp [TagText], rfl⟩⟩
    | @tag tag blanks _ htag hblanks => exact ⟨blanks, hblanks, Or.inr ⟨tag, htag, rfl⟩⟩
  · rintro ⟨blanks, hblanks, rfl | ⟨tag, htag, rfl⟩⟩
    · exact ⟨none, .bare hblanks⟩
    · exact ⟨_, tagged_of_tagText htag hblanks⟩

end Head

open Head (EndsIn TagText)
open Text (Blanks)

theorem head_and_tag_agree (line : List Char) :
    (∀ tag, Delimiters.tag? .generic line = some tag ↔ ∃ before blanks, EndsIn line before tag blanks) ∧
    (∀ before tag blanks before' tag' blanks', EndsIn line before tag blanks →
      EndsIn line before' tag' blanks' →
      before = before' ∧ tag = tag' ∧ blanks = blanks') ∧
    ∀ family : Family,
      (family.delimiters.isHead .generic line = true ↔ ∃ blanks, Blanks blanks ∧
        (line = family.delimiters.generic.style.marker ++ blanks ∨
          ∃ tag, TagText tag ∧ line = family.delimiters.generic.style.marker ++ '!' :: (tag ++ blanks))) ∧
      ∀ blanks, Blanks blanks →
        (line = family.delimiters.generic.style.marker ++ blanks → Delimiters.tag? .generic line = none) ∧
        ∀ tag, TagText tag → line = family.delimiters.generic.style.marker ++ '!' :: (tag ++ blanks) →
          Delimiters.tag? .generic line = if tag = [] then none else some tag := by
  refine ⟨?_, ?_, ?_⟩
  · intro tag
    exact ⟨Head.endsIn_of_tag?, fun ⟨before, blanks, h⟩ => h.tag?_eq⟩
  · intro before tag blanks before' tag' blanks' h h'
    exact h.unique h'
  · intro family
    refine ⟨Head.accepts_iff_marker, ?_⟩
    intro blanks hblanks
    refine ⟨?_, ?_⟩
    · rintro rfl
      exact (Head.Tagged.bare hblanks).tag?_eq
    · rintro tag htag rfl
      exact (Head.tagged_of_tagText htag hblanks).tag?_eq

theorem head_and_tag_of_odd_lines :
    EndsIn "/**!m\u00E4\t\n".toList "/**".toList "m\u00E4".toList "\t\n".toList ∧
      Delimiters.tag? .generic "/**!m\u00E4\t\n".toList = some "m\u00E4".toList ∧
      Family.cLike.delimiters.isHead .generic "/**!m\u00E4\t\n".toList = true ∧
      (∀ before tag blanks, EndsIn "#!a !b".toList before tag blanks →
        before = "#!a ".toList ∧ tag = ['b'] ∧ blanks = []) ∧
      Delimiters.tag? .generic "##!\u2003".toList = none := by
  have hends : EndsIn "/**!m\u00E4\t\n".toList "/**".toList "m\u00E4".toList "\t\n".toList :=
    ⟨by decide, by decide, by decide, by decide⟩
  have htwo : EndsIn "#!a !b".toList "#!a ".toList ['b'] [] := ⟨by decide, by decide, by decide, by decide⟩
  obtain ⟨htag, -, hhead⟩ := head_and_tag_agree "/**!m\u00E4\t\n".toList
  obtain ⟨-, hunique, -⟩ := head_and_tag_agree "#!a !b".toList
  obtain ⟨-, -, hempty⟩ := head_and_tag_agree "##!\u2003".toList
  refine ⟨hends, (htag _).mpr ⟨_, _, hends⟩, ?_, ?_, ?_⟩
  · exact (hhead .cLike).1.mpr ⟨_, hends.blanks, Or.inr ⟨_, hends.tag, by decide⟩⟩
  · exact fun before tag blanks h => hunique _ _ _ _ _ _ h htwo
  · exact ((hempty .shell).2 ['\u2003'] (by decide)).2 [] (by decide) (by decide)

end CommentDoc
