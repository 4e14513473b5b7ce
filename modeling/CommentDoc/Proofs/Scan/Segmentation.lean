import CommentDoc.Proofs.Scan.Marks

/-! Cutting a file into segments, each of which ends with a block. Every list of lines has exactly
one cut. -/

namespace CommentDoc

/-- The lines of one block and of what was passed over before it. A block that the file cut off
has no last line. -/
structure Segment where
  skipped : List String
  head : String
  middle : List String
  last : Option String

namespace Segment

def lines (s : Segment) : List String :=
  s.skipped ++ s.head :: (s.middle ++ s.last.toList)

structure Fits (family : Family) (s : Segment) : Prop where
  skipped : ∀ line ∈ s.skipped, ¬ family.HeadLine line
  head : family.HeadLine s.head
  middle : ∀ line ∈ s.middle, ¬ family.FootLine line ∧ family.LeadLine line
  last : ∀ line ∈ s.last, family.FootLine line ∨ ¬ family.FootLine line ∧ ¬ family.LeadLine line

end Segment

structure Segmentation where
  segments : List Segment
  rest : List String

namespace Segmentation

def lines (c : Segmentation) : List String :=
  c.segments.flatMap Segment.lines ++ c.rest

structure Fits (family : Family) (c : Segmentation) : Prop where
  segments : ∀ s ∈ c.segments, s.Fits family
  rest : ∀ line ∈ c.rest, ¬ family.HeadLine line
  closed : ∀ s ∈ c.segments.dropLast, s.last ≠ none
  cutOff : ∀ s ∈ c.segments.getLast?, s.last = none → c.rest = []

variable {family : Family}

lemma fits_nil {rest : List String} (h : ∀ line ∈ rest, ¬ family.HeadLine line) : Fits family ⟨[], rest⟩ where
  segments := by simp
  rest := h
  closed := by simp
  cutOff := by simp

lemma fits_cons_iff {s : Segment} {ss : List Segment} {rest : List String} :
    Fits family ⟨s :: ss, rest⟩ ↔
      s.Fits family ∧ (s.last ≠ none ∧ Fits family ⟨ss, rest⟩ ∨ s.last = none ∧ ss = [] ∧ rest = []) := by
  constructor
  · intro h
    have hs : s.Fits family := h.segments s (by simp)
    refine ⟨hs, ?_⟩
    cases ss with
    | nil =>
      by_cases hl : s.last = none
      · exact Or.inr ⟨hl, rfl, h.cutOff s (by simp) hl⟩
      · exact Or.inl ⟨hl, fits_nil h.rest⟩
    | cons t ts =>
      refine Or.inl ⟨h.closed s (by simp), ?_, h.rest, ?_, ?_⟩
      · intro u hu
        exact h.segments u (by simp [List.mem_cons.mp hu])
      · intro u hu
        exact h.closed u (by simp [hu])
      · intro u hu
        exact h.cutOff u (by simpa using hu)
  · rintro ⟨hs, ⟨hl, h⟩ | ⟨hl, rfl, rfl⟩⟩
    · refine ⟨?_, h.rest, ?_, ?_⟩
      · intro u hu
        rcases List.mem_cons.mp hu with rfl | hu
        · exact hs
        · exact h.segments u hu
      · intro u hu
        cases ss with
        | nil => simp at hu
        | cons t ts =>
          rcases List.mem_cons.mp hu with rfl | hu
          · exact hl
          · exact h.closed u hu
      · intro u hu hn
        cases ss with
        | nil =>
          obtain rfl : s = u := by simpa using hu
          exact absurd hn hl
        | cons t ts => exact h.cutOff u (by simpa using hu) hn
    · exact ⟨by simpa using hs, by simp, by simp, by simp⟩

structure Inside (family : Family) (middle : List String) (last : Option String) (c : Segmentation) :
    Prop where
  middle_fits : ∀ line ∈ middle, ¬ family.FootLine line ∧ family.LeadLine line
  last_fits : ∀ line ∈ last, family.FootLine line ∨ ¬ family.FootLine line ∧ ¬ family.LeadLine line
  fits : c.Fits family
  cutOff : last = none → c = ⟨[], []⟩

lemma exists_fits (family : Family) (ls : List String) :
    (∃ c : Segmentation, c.Fits family ∧ c.lines = ls) ∧
      ∃ middle last c, Inside family middle last c ∧ middle ++ last.toList ++ c.lines = ls := by
  induction ls with
  | nil =>
    refine ⟨⟨⟨[], []⟩, fits_nil (by simp), rfl⟩, [], none, ⟨[], []⟩, ?_, rfl⟩
    exact ⟨by simp, by simp, fits_nil (by simp), fun _ => rfl⟩
  | cons line ls ih =>
    obtain ⟨⟨c, hc, rfl⟩, middle, last, c', hi, hlines⟩ := ih
    constructor
    · by_cases hh : family.HeadLine line
      · -- the line opens a block, which goes on as the inside of the other lines says
        refine ⟨⟨⟨[], line, middle, last⟩ :: c'.segments, c'.rest⟩, ?_, ?_⟩
        · refine fits_cons_iff.mpr ⟨⟨by simp, hh, hi.middle_fits, hi.last_fits⟩, ?_⟩
          cases last with
          | none =>
            obtain rfl := hi.cutOff rfl
            exact Or.inr ⟨rfl, rfl, rfl⟩
          | some l => exact Or.inl ⟨by simp, hi.fits⟩
        · rw [← hlines]
          simp [lines, Segment.lines]
      · -- the line is passed over: it joins the first segment, or the rest if there is none
        obtain ⟨ss, rest⟩ := c
        cases ss with
        | nil =>
          refine ⟨⟨[], line :: rest⟩, fits_nil ?_, by simp [lines]⟩
          intro l hl
          rcases List.mem_cons.mp hl with rfl | hl
          · exact hh
          · exact hc.rest l hl
        | cons s ss =>
          obtain ⟨hs, hss⟩ := fits_cons_iff.mp hc
          refine ⟨⟨{ s with skipped := line :: s.skipped } :: ss, rest⟩, fits_cons_iff.mpr ⟨?_, hss⟩, ?_⟩
          · refine ⟨?_, hs.head, hs.middle, hs.last⟩
            intro l hl
            rcases List.mem_cons.mp hl with rfl | hl
            · exact hh
            · exact hs.skipped l hl
          · simp [lines, Segment.lines]
    · by_cases hm : ¬ family.FootLine line ∧ family.LeadLine line
      · refine ⟨line :: middle, last, c', ⟨?_, hi.last_fits, hi.fits, hi.cutOff⟩, by simp [← hlines]⟩
        intro l hl
        rcases List.mem_cons.mp hl with rfl | hl
        · exact hm
        · exact hi.middle_fits l hl
      · refine ⟨[], some line, c, ⟨by simp, ?_, hc, by simp⟩, by simp⟩
        intro l hl
        obtain rfl : line = l := by simpa using hl
        by_cases hf : family.FootLine line
        · exact Or.inl hf
        · exact Or.inr ⟨hf, fun hl => hm ⟨hf, hl⟩⟩

lemma append_cons_unique {α : Type} {P : α → Prop} {xs ys as bs : List α} {a b : α} (hxs : ∀ x ∈ xs, ¬ P x)
    (hys : ∀ y ∈ ys, ¬ P y) (ha : P a) (hb : P b) (h : xs ++ a :: as = ys ++ b :: bs) :
    xs = ys ∧ a = b ∧ as = bs := by
  induction xs generalizing ys with
  | nil =>
    cases ys with
    | nil => simpa using h
    | cons y ys =>
      obtain ⟨rfl, -⟩ := List.cons.inj h
      exact absurd ha (hys a (by simp))
  | cons x xs ih =>
    cases ys with
    | nil =>
      obtain ⟨rfl, -⟩ := List.cons.inj h
      exact absurd hb (hxs x (by simp))
    | cons y ys =>
      obtain ⟨rfl, hh⟩ := List.cons.inj h
      obtain ⟨rfl, hab⟩ := ih (fun z hz => hxs z (by simp [hz])) (fun z hz => hys z (by simp [hz])) hh
      exact ⟨rfl, hab⟩

@[simp] lemma lines_nil (rest : List String) : lines ⟨[], rest⟩ = rest := rfl

@[simp] lemma lines_cons (s : Segment) (ss : List Segment) (rest : List String) :
    lines ⟨s :: ss, rest⟩ = s.skipped ++ s.head :: (s.middle ++ (s.last.toList ++ lines ⟨ss, rest⟩)) := by
  simp [lines, Segment.lines]

lemma Inside.unique {middle middle' : List String} {last last' : Option String} {c c' : Segmentation}
    (h : Inside family middle last c) (h' : Inside family middle' last' c')
    (he : middle ++ (last.toList ++ c.lines) = middle' ++ (last'.toList ++ c'.lines)) :
    middle = middle' ∧ last = last' ∧ c.lines = c'.lines := by
  -- a block ends at its first line that is a foot or has no lead
  let Ends : String → Prop := fun line => ¬ (¬ family.FootLine line ∧ family.LeadLine line)
  have hm : ∀ line ∈ middle, ¬ Ends line := fun line hl => not_not_intro (h.middle_fits line hl)
  have hm' : ∀ line ∈ middle', ¬ Ends line := fun line hl => not_not_intro (h'.middle_fits line hl)
  have hends : ∀ line, family.FootLine line ∨ ¬ family.FootLine line ∧ ¬ family.LeadLine line →
      Ends line := by
    rintro line (hf | ⟨-, hl⟩) ⟨hnf, hl'⟩
    · exact hnf hf
    · exact hl hl'
  cases last with
  | none =>
    obtain rfl := h.cutOff rfl
    cases last' with
    | none =>
      obtain rfl := h'.cutOff rfl
      simpa using he
    | some l =>
      have hl : l ∈ middle := by
        have hh : middle = middle' ++ l :: c'.lines := by simpa using he
        simp [hh]
      exact absurd (hends l (h'.last_fits l rfl)) (hm l hl)
  | some l =>
    have hl := hends l (h.last_fits l rfl)
    cases last' with
    | none =>
      obtain rfl := h'.cutOff rfl
      have hl' : l ∈ middle' := by
        have hh : middle ++ l :: c.lines = middle' := by simpa using he
        simp [← hh]
      exact absurd hl (hm' l hl')
    | some l' =>
      obtain ⟨rfl, rfl, hc⟩ := append_cons_unique hm hm' hl (hends l' (h'.last_fits l' rfl)) he
      exact ⟨rfl, rfl, hc⟩

lemma Fits.inside {s : Segment} {ss : List Segment} {rest : List String} (h : Fits family ⟨s :: ss, rest⟩) :
    Inside family s.middle s.last ⟨ss, rest⟩ := by
  obtain ⟨hs, ⟨hl, hc⟩ | ⟨-, rfl, rfl⟩⟩ := fits_cons_iff.mp h
  · exact ⟨hs.middle, hs.last, hc, fun hn => absurd hn hl⟩
  · exact ⟨hs.middle, hs.last, fits_nil (by simp), fun _ => rfl⟩

theorem Fits.unique {c c' : Segmentation} (h : c.Fits family) (h' : c'.Fits family)
    (he : c.lines = c'.lines) :
    c = c' := by
  obtain ⟨ss, rest⟩ := c
  obtain ⟨ss', rest'⟩ := c'
  induction ss generalizing ss' with
  | nil =>
    cases ss' with
    | nil => simpa using he
    | cons s ss' =>
      have hhead := (fits_cons_iff.mp h').1.head
      have hmem : s.head ∈ rest := by
        rw [lines_nil, lines_cons] at he
        simp [he]
      exact absurd hhead (h.rest _ hmem)
  | cons s ss ih =>
    cases ss' with
    | nil =>
      have hhead := (fits_cons_iff.mp h).1.head
      have hmem : s.head ∈ rest' := by
        rw [lines_nil, lines_cons] at he
        simp [← he]
      exact absurd hhead (h'.rest _ hmem)
    | cons s' ss' =>
      have hs := (fits_cons_iff.mp h).1
      have hs' := (fits_cons_iff.mp h').1
      rw [lines_cons, lines_cons] at he
      obtain ⟨hskipped, hhead, hafter⟩ := append_cons_unique hs.skipped hs'.skipped hs.head hs'.head he
      obtain ⟨hmiddle, hlast, hlines⟩ := h.inside.unique h'.inside hafter
      have hsegment : s = s' := by
        obtain ⟨⟩ := s
        obtain ⟨⟩ := s'
        simp_all
      cases ih h.inside.fits _ h'.inside.fits hlines
      rw [hsegment]

end Segmentation

end CommentDoc
