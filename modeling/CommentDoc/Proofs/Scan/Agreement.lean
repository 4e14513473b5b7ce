import CommentDoc.Proofs.Scan.Segmentation

namespace CommentDoc

namespace Segment

def draft (family : Family) (number : Nat) (s : Segment) : Draft where
  kind := .generic
  markup := ((Head.tag? (Source.unindented s.head)).map String.ofList).getD noMarkup
  initial := number
  captured := s.middle.filterMap family.leadText?

def found (family : Family) (number : Nat) (s : Segment) : Found :=
  match s.last with
  | none => (s.draft family number).finish
  | some line =>
    match family.delimiters.footKind? (Source.unindented line) with
    | some foot => (s.draft family number).close foot (number + s.middle.length + 1)
    | none => (s.draft family number).abandon (number + s.middle.length + 1)

lemma found_eq_settle (family : Family) (number : Nat) (s : Segment) :
    ∃ kind warning, s.found family number = (s.draft family number).settle kind warning := by
  unfold found
  split
  · exact ⟨_, _, rfl⟩
  · split
    · obtain ⟨kind, warning, h, -⟩ := (s.draft family number).close_eq_settle _ _
      exact ⟨kind, warning, h⟩
    · exact ⟨_, _, rfl⟩

@[simp] lemma found_initial (family : Family) (number : Nat) (s : Segment) :
    (s.found family number).initial = number := by
  obtain ⟨kind, warning, h⟩ := s.found_eq_settle family number
  rw [h]
  rfl

@[simp] lemma found_captured (family : Family) (number : Nat) (s : Segment) :
    (s.found family number).captured = s.middle.filterMap family.leadText? := by
  obtain ⟨kind, warning, h⟩ := s.found_eq_settle family number
  rw [h]
  rfl

lemma Fits.map_leadText? {family : Family} {s : Segment} (h : s.Fits family) :
    (s.middle.filterMap family.leadText?).map some = s.middle.map family.leadText? := by
  have hm := h.middle
  generalize s.middle = ls at hm
  induction ls with
  | nil => rfl
  | cons line ls ih =>
    obtain ⟨text, ht⟩ := Option.isSome_iff_exists.mp (hm line (by simp)).2
    simp [ht, ih fun l hl => hm l (by simp [hl])]

lemma Fits.length_captured {family : Family} {s : Segment} (h : s.Fits family) (number : Nat) :
    (s.found family number).captured.length = s.middle.length := by
  rw [found_captured]
  simpa using congrArg List.length h.map_leadText?

end Segment

namespace Scan

variable {family : Family}

lemma blocksFrom_skipped {ls : List String} (h : ∀ line ∈ ls, ¬ family.HeadLine line) (n : Nat)
    (rest : List String) :
    blocksFrom family.delimiters n none (ls ++ rest) =
      blocksFrom family.delimiters (n + ls.length) none rest := by
  induction ls generalizing n with
  | nil => rfl
  | cons line ls ih =>
    have hline := Family.open?_of_not_headLine (h line (by simp)) n
    have hls := ih (fun l hl => h l (by simp [hl])) (n + 1)
    rw [List.cons_append, blocksFrom, hline, hls, List.length_cons, Nat.add_assoc, Nat.add_comm 1]

lemma blocksFrom_middle {ls : List String} (h : ∀ line ∈ ls, ¬ family.FootLine line ∧ family.LeadLine line)
    (n : Nat) {b : Draft} (hb : b.kind = .generic) (rest : List String) :
    blocksFrom family.delimiters n (some b) (ls ++ rest) =
      blocksFrom family.delimiters (n + ls.length)
        (some { b with captured := b.captured ++ ls.filterMap family.leadText? }) rest := by
  induction ls generalizing n b with
  | nil => simp
  | cons line ls ih =>
    obtain ⟨hf, hl⟩ := h line (by simp)
    obtain ⟨text, ht⟩ := Option.isSome_iff_exists.mp hl
    have hh := ih (fun l hm => h l (by simp [hm])) (n + 1)
      (b := { b with captured := b.captured ++ [text] }) hb
    rw [List.cons_append, blocksFrom, Family.read_lead hb hf ht]
    simp only [hh, List.filterMap_cons, ht, List.length_cons, List.append_assoc, List.singleton_append]
    rw [Nat.add_assoc, Nat.add_comm 1]

lemma blocksFrom_draft {s : Segment} (h : s.Fits family) (n : Nat) (rest : List String) :
    blocksFrom family.delimiters n none (s.skipped ++ s.head :: (s.middle ++ rest)) =
      blocksFrom family.delimiters (n + s.skipped.length + 1 + s.middle.length)
        (some (s.draft family (n + s.skipped.length))) rest := by
  rw [blocksFrom_skipped h.skipped, blocksFrom, Family.open?_of_headLine h.head,
    blocksFrom_middle h.middle _ rfl]
  simp [Segment.draft]

lemma blocksFrom_segment {s : Segment} (h : s.Fits family) (hl : s.last ≠ none) (n : Nat)
    (rest : List String) :
    blocksFrom family.delimiters n none (s.lines ++ rest) =
      s.found family (n + s.skipped.length) ::
        blocksFrom family.delimiters (n + s.lines.length) none rest := by
  obtain ⟨line, hline⟩ := Option.ne_none_iff_exists'.mp hl
  have hlines : s.lines ++ rest = s.skipped ++ s.head :: (s.middle ++ line :: rest) := by
    simp [Segment.lines, hline]
  have hlength : n + s.lines.length = n + s.skipped.length + 1 + s.middle.length + 1 := by
    simp [Segment.lines, hline]
    omega
  have hnumber : n + s.skipped.length + s.middle.length + 1 = n + s.skipped.length + 1 + s.middle.length := by
    omega
  rw [hlines, hlength, blocksFrom_draft h, blocksFrom]
  simp only [Segment.found, hline, hnumber]
  cases hf : family.delimiters.footKind? (Source.unindented line) with
  | some foot => rw [Family.read_foot hf]
  | none =>
    have hnf : ¬ family.FootLine line := by simp [Family.footLine_iff, hf]
    have hnl : ¬ family.LeadLine line := by
      rcases h.last line hline with hh | hh
      · exact absurd hh hnf
      · exact hh.2
    rw [Family.read_stray rfl hnf hnl]

lemma blocksFrom_cutOff {s : Segment} (h : s.Fits family) (hl : s.last = none) (n : Nat) :
    blocksFrom family.delimiters n none s.lines = [s.found family (n + s.skipped.length)] := by
  have hd := blocksFrom_draft h n []
  have hlines : s.lines = s.skipped ++ s.head :: (s.middle ++ []) := by simp [Segment.lines, hl]
  rw [hlines, hd, blocksFrom, Segment.found, hl]

end Scan

namespace Segmentation

variable {family : Family}

def number : (n : Nat) → List Segment → List (Nat × Segment)
  | _, [] => []
  | n, s :: ss => (n + s.skipped.length, s) :: number (n + s.lines.length) ss

theorem blocksFrom_lines {c : Segmentation} (h : c.Fits family) (n : Nat) :
    Scan.blocksFrom family.delimiters n none c.lines =
      (number n c.segments).map fun p => p.2.found family p.1 := by
  obtain ⟨ss, rest⟩ := c
  induction ss generalizing n with
  | nil =>
    have hh := Scan.blocksFrom_skipped h.rest n []
    simpa [number, Scan.blocksFrom] using hh
  | cons s ss ih =>
    have hlines : lines ⟨s :: ss, rest⟩ = s.lines ++ lines ⟨ss, rest⟩ := by simp [Segment.lines]
    obtain ⟨hs, ⟨hl, hc⟩ | ⟨hl, rfl, rfl⟩⟩ := fits_cons_iff.mp h
    · rw [hlines, Scan.blocksFrom_segment hs hl, ih _ hc]
      rfl
    · have hh := Scan.blocksFrom_cutOff hs hl n
      simpa [hlines, number] using hh

lemma lines_of_mem_number {n : Nat} {c : Segmentation} {p : Nat × Segment} (h : p ∈ number n c.segments) :
    ∃ before after, c.lines = before ++ p.2.head :: (p.2.middle ++ (p.2.last.toList ++ after)) ∧
      p.1 = n + before.length := by
  obtain ⟨ss, rest⟩ := c
  induction ss generalizing n with
  | nil => simp [number] at h
  | cons s ss ih =>
    rcases List.mem_cons.mp h with rfl | h
    · exact ⟨s.skipped, lines ⟨ss, rest⟩, lines_cons _ _ _, rfl⟩
    · obtain ⟨before, after, hlines, hnumber⟩ := ih h
      refine ⟨s.lines ++ before, after, ?_, ?_⟩
      · rw [lines_cons, hlines]
        simp [Segment.lines]
      · rw [hnumber, List.length_append, Nat.add_assoc]

lemma number_mem {n : Nat} {ss : List Segment} {p : Nat × Segment} (h : p ∈ number n ss) : p.2 ∈ ss := by
  induction ss generalizing n with
  | nil => simp [number] at h
  | cons s ss ih =>
    rcases List.mem_cons.mp h with rfl | h
    · simp
    · exact List.mem_cons_of_mem _ (ih h)

lemma le_number {n : Nat} {ss : List Segment} {p : Nat × Segment} (h : p ∈ number n ss) : n ≤ p.1 := by
  induction ss generalizing n with
  | nil => simp [number] at h
  | cons s ss ih =>
    rcases List.mem_cons.mp h with rfl | h
    · exact Nat.le_add_right _ _
    · exact Nat.le_trans (Nat.le_add_right _ _) (ih h)

lemma number_pairwise {c : Segmentation} (h : c.Fits family) (n : Nat) :
    (number n c.segments).Pairwise fun p q => p.1 + p.2.middle.length + 2 ≤ q.1 := by
  obtain ⟨ss, rest⟩ := c
  induction ss generalizing n with
  | nil => exact List.Pairwise.nil
  | cons s ss ih =>
    obtain ⟨-, ⟨hl, hc⟩ | ⟨-, rfl, rfl⟩⟩ := fits_cons_iff.mp h
    · refine List.Pairwise.cons ?_ (ih _ hc)
      intro q hq
      have hle := le_number hq
      obtain ⟨line, hline⟩ := Option.ne_none_iff_exists'.mp hl
      simp only [Segment.lines, hline, Option.toList_some, List.length_append, List.length_cons,
        List.length_nil] at hle
      dsimp only
      omega
    · exact List.pairwise_singleton _ _

end Segmentation

end CommentDoc
