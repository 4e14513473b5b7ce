import CommentDoc.Proofs.Delimiter.Tags
import CommentDoc.Proofs.Scan.Marks

/-! A line is at most one of content, generic foot and function foot. A head is none of these,
except that a head without an exclamation mark is the generic foot where both are written alike. -/

namespace CommentDoc

lemma Text.Blanks.exclamation_notMem {s : List Char} (h : Blanks s) : '!' ∉ s := by
  intro hs
  exact absurd (h '!' hs) (by decide)

namespace Family

variable {family : Family} {kind : BlockKind} {s text : List Char}

lemma style_of_marks? {marks : Marks} (h : family.delimiters.marks? kind = some marks) :
    marks.style = family.style := by
  cases family <;> cases kind <;> cases h <;> rfl

lemma strip?_eq_some_iff : family.delimiters.strip? kind s = some text ↔
    (family.delimiters.marks? kind).isSome = true ∧ Lead.strip? family.style s = some text := by
  rw [Delimiters.strip?]
  cases hmarks : family.delimiters.marks? kind with
  | none => simp
  | some marks => simp [style_of_marks? hmarks]

lemma lead_of_strip? (h : family.delimiters.strip? kind s = some text) :
    s = family.style.leadChar :: ' ' :: text ∨ s = family.style.leadChar :: text ∧
    (text = [] ∨ text = ['\n']) :=
  Lead.strip?_eq_some_iff.mp (strip?_eq_some_iff.mp h).2

-- a foot or a head that begins with the lead goes on with a second mark, where content has a space or ends
lemma isFoot_of_strip? (h : family.delimiters.strip? kind s = some text) (other : BlockKind) :
    family.delimiters.isFoot other s = false := by
  rcases lead_of_strip? h with rfl | ⟨rfl, rfl | rfl⟩ <;> cases family <;> cases other <;> rfl

lemma isHead_of_strip? (h : family.delimiters.strip? kind s = some text) (other : BlockKind) :
    family.delimiters.isHead other s = false := by
  rcases lead_of_strip? h with rfl | ⟨rfl, rfl | rfl⟩ <;> cases family <;> cases other <;> rfl

lemma exists_marker (h : family.delimiters.isHead kind s = true) :
    ∃ rest, s = family.style.marker ++ rest := by
  obtain ⟨blanks, -, hs | ⟨tag, -, hs⟩⟩ := Head.accepts_iff_marker.mp (isHead_generic h)
  · exact ⟨blanks, hs⟩
  · exact ⟨'!' :: (tag ++ blanks), hs⟩

-- no definition begins with the characters of a comment
lemma isFoot_function_of_isHead (h : family.delimiters.isHead kind s = true) :
    family.delimiters.isFoot .function s = false := by
  obtain ⟨rest, rfl⟩ := exists_marker h
  cases family <;> rfl

lemma isFoot_generic_cLike (h : cLike.delimiters.isHead kind s = true) :
    cLike.delimiters.isFoot .generic s = false := by
  obtain ⟨rest, rfl⟩ := exists_marker h
  rfl

lemma isFoot_generic_iff_notMem (hfamily : family ≠ .cLike) (h : family.delimiters.isHead kind s = true) :
    family.delimiters.isFoot .generic s = true ↔ '!' ∉ s := by
  have hfoot : family.delimiters.isFoot .generic s = Foot.accepts (.mark ['#', '#']) s := by
    cases family with
    | cLike => exact absurd rfl hfamily
    | script | shell | fallback => rfl
  have hmarker : family.style.marker = ['#', '#'] := by
    cases family with
    | cLike => exact absurd rfl hfamily
    | script | shell | fallback => rfl
  rw [hfoot, Foot.accepts_mark_iff]
  constructor
  · rintro ⟨blanks, hblanks, rfl⟩
    simpa using hblanks.exclamation_notMem
  · intro hmem
    obtain ⟨blanks, hblanks, hs | ⟨tag, -, hs⟩⟩ := Head.accepts_iff_marker.mp (isHead_generic h)
    · exact ⟨blanks, hblanks, hmarker ▸ hs⟩
    · exact absurd (by simp [hs]) hmem

end Family

theorem marks_are_told_apart (family : Family) (s : List Char) :
    (∀ kind text, family.delimiters.strip? kind s = some text →
      ∀ other, family.delimiters.isFoot other s = false ∧ family.delimiters.isHead other s = false) ∧
    ¬ (family.delimiters.isFoot .generic s = true ∧ family.delimiters.isFoot .function s = true) ∧
    (∀ kind, family.delimiters.isHead kind s = true → family.delimiters.isFoot .function s = false ∧
      (family.delimiters.isFoot .generic s = true ↔ family ≠ .cLike ∧ '!' ∉ s)) ∧
    ('\n' ∉ s → ∀ kind text, family.delimiters.strip? kind s = some text ↔
      (family.delimiters.marks? kind).isSome = true ∧
        (s = family.style.leadChar :: ' ' :: text ∨ text = [] ∧ s = [family.style.leadChar])) := by
  refine ⟨?_, ?_, ?_, ?_⟩
  · intro kind text h other
    exact ⟨Family.isFoot_of_strip? h other, Family.isHead_of_strip? h other⟩
  · rintro ⟨hgeneric, hfunction⟩
    rw [Family.not_isFoot_generic hfunction] at hgeneric
    cases hgeneric
  · intro kind h
    refine ⟨Family.isFoot_function_of_isHead h, ?_⟩
    by_cases hfamily : family = .cLike
    · subst hfamily
      simp [Family.isFoot_generic_cLike h]
    · simp [Family.isFoot_generic_iff_notMem hfamily h, hfamily]
  · intro hone kind text
    rw [Family.strip?_eq_some_iff, Lead.strip?_eq_some_iff_of_notMem hone]

theorem marks_of_odd_lines_told_apart :
    Family.cLike.delimiters.isHead .generic "/**!md\t".toList = true ∧
      Family.cLike.delimiters.isFoot .generic "/**!md\t".toList ≠ true ∧
      Family.shell.delimiters.isHead .generic "##\u2003\n".toList = true ∧
      Family.shell.delimiters.isFoot .generic "##\u2003\n".toList = true ∧
      Family.script.delimiters.strip? .function "# ##".toList = some ['#', '#'] ∧
      Family.script.delimiters.isHead .generic "# ##".toList = false := by
  have htagged : Family.cLike.delimiters.isHead .generic "/**!md\t".toList = true := by decide
  have hbare : Family.shell.delimiters.isHead .generic "##\u2003\n".toList = true := by decide
  obtain ⟨-, -, htaggedHead, -⟩ := marks_are_told_apart .cLike "/**!md\t".toList
  obtain ⟨-, -, hbareHead, -⟩ := marks_are_told_apart .shell "##\u2003\n".toList
  obtain ⟨hlead, -, -, hcontent⟩ := marks_are_told_apart .script "# ##".toList
  have hstrip : Family.script.delimiters.strip? .function "# ##".toList = some ['#', '#'] :=
    (hcontent (by decide) .function ['#', '#']).mpr ⟨rfl, Or.inl (by decide)⟩
  refine ⟨htagged, ?_, hbare, ?_, hstrip, (hlead .function _ hstrip .generic).2⟩
  · exact fun hfoot => ((htaggedHead .generic htagged).2.mp hfoot).1 rfl
  · exact (hbareHead .generic hbare).2.mpr ⟨by decide, by decide⟩

end CommentDoc
