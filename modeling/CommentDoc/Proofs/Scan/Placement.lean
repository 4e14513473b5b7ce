import CommentDoc.Proofs.Scan.Iteration

namespace CommentDoc

def Source.line? (ls : List String) : (n : Nat) → Option String
  | 0 => none
  | n + 1 => ls[n]?

def headTag (line : String) : String :=
  ((Head.tag? (Source.unindented line)).map String.ofList).getD "none"

def Family.Mistagged (family : Family) (head foot : String) : Prop :=
  family.delimiters.isFoot .function (Source.unindented foot) = true ∧ headTag head ≠ "function" ∧
    headTag head ≠ "none"

namespace Block

def lastLine (b : Block) : Nat :=
  b.lines.initial + b.lines.total + 1

structure StandsIn (family : Family) (ls : List String) (b : Block) : Prop where
  head : ∃ line, Source.line? ls b.lines.initial = some line ∧ family.HeadLine line
  total : b.lines.total = b.captured.length
  content : ∀ i text, b.captured[i]? = some text →
    ∃ line, Source.line? ls (b.lines.initial + 1 + i) = some line ∧ family.leadText? line = some text

/-- What is reported where a block ends. -/
inductive EndReport (family : Family) (ls : List String) (b : Block) : List Diagnostic → Prop
  | endOfFile : ls.length = b.lines.initial + b.lines.total → EndReport family ls b []
  | foot {head line : String} : Source.line? ls b.lines.initial = some head →
    Source.line? ls b.lastLine = some line →
      family.FootLine line → ¬ family.Mistagged head line → EndReport family ls b []
  | mistagged {head line : String} : Source.line? ls b.lines.initial = some head →
      Source.line? ls b.lastLine = some line → family.Mistagged head line →
      EndReport family ls b [⟨.warning, "function blocks may not have a markup tag", b.file, b.lastLine⟩]
  | stray {line : String} : Source.line? ls b.lastLine = some line → ¬ family.FootLine line →
    ¬ family.LeadLine line →
      EndReport family ls b [⟨.warning, "unclosed block", b.file, b.lastLine⟩]

end Block

lemma Segmentation.length_of_cutOff {family : Family} {c : Segmentation} (h : c.Fits family) {n : Nat}
    {p : Nat × Segment} (hp : p ∈ number n c.segments) (hl : p.2.last = none) :
    n + c.lines.length = p.1 + p.2.middle.length + 1 := by
  obtain ⟨ss, rest⟩ := c
  induction ss generalizing n with
  | nil => simp [number] at hp
  | cons s ss ih =>
    obtain ⟨-, ⟨hs, hc⟩ | ⟨hs, rfl, rfl⟩⟩ := fits_cons_iff.mp h
    · rcases List.mem_cons.mp hp with rfl | hp
      · exact absurd hl hs
      · have hrest := ih hc hp
        have hlines : lines ⟨s :: ss, rest⟩ = s.lines ++ lines ⟨ss, rest⟩ := by simp [Segment.lines]
        rw [hlines, List.length_append]
        omega
    · obtain rfl : p = _ := List.mem_singleton.mp hp
      simp only [lines_cons, lines_nil, hs, Option.toList_none, List.append_nil, List.length_append,
        List.length_cons]
      omega

lemma Draft.warning_close (b : Draft) (foot : BlockKind) (n : Nat) :
    (b.close foot n).warning =
      if foot = .function ∧ b.markup ≠ "function" ∧ b.markup ≠ "none" then
        some (.taggedFunction, n)
      else none := by
  rw [close_eq]
  rfl

lemma Segmentation.line?_of_mem_number {c : Segmentation} {p : Nat × Segment} (hp : p ∈ number 1 c.segments) :
    Source.line? c.lines p.1 = some p.2.head ∧
      ∀ line ∈ p.2.last, Source.line? c.lines (p.1 + p.2.middle.length + 1) = some line := by
  obtain ⟨before, after, hlines, hnumber⟩ := lines_of_mem_number hp
  constructor
  · rw [hnumber, hlines, Nat.add_comm]
    simp [Source.line?]
  · intro line hl
    have hindex : p.1 + p.2.middle.length = before.length + (p.2.middle.length + 1) := by omega
    rw [Source.line?, hlines, Option.mem_def.mp hl, hindex]
    simp

namespace Segment

variable {family : Family} {s : Segment}

lemma warning_cutOff (hl : s.last = none) (number : Nat) : (s.found family number).warning = none := by
  rw [found, hl]
  rfl

lemma warning_foot {line : String} {foot : BlockKind} (hl : s.last = some line)
    (hf : family.delimiters.footKind? (Source.unindented line) = some foot) (number : Nat) :
    family.Mistagged s.head line ∧
        (s.found family number).warning = some (.taggedFunction, number + s.middle.length + 1) ∨
      ¬ family.Mistagged s.head line ∧ (s.found family number).warning = none := by
  have hw : (s.found family number).warning =
      ((s.draft family number).close foot (number + s.middle.length + 1)).warning := by
    simp only [found, hl, hf]
  have hmarkup : (s.draft family number).markup = headTag s.head := rfl
  rw [hw, Draft.warning_close, hmarkup, Family.Mistagged, Family.isFoot_function_iff hf]
  by_cases hm : foot = .function ∧ headTag s.head ≠ "function" ∧ headTag s.head ≠ "none"
  · exact Or.inl ⟨hm, if_pos hm⟩
  · exact Or.inr ⟨hm, if_neg hm⟩

lemma warning_stray {line : String} (hl : s.last = some line)
    (hf : family.delimiters.footKind? (Source.unindented line) = none) (number : Nat) :
    (s.found family number).warning = some (.unclosed, number + s.middle.length + 1) := by
  simp only [found, hl, hf]
  rfl

lemma endReport_found {c : Segmentation} (h : c.Fits family) {p : Nat × Segment}
    (hp : p ∈ Segmentation.number 1 c.segments) (id : Nat) (file : String) :
    ((p.2.found family p.1).toBlock id file).EndReport family c.lines
      ((p.2.found family p.1).diagnostics file) := by
  have hd := describes_toBlock h hp id file
  have hend : ((p.2.found family p.1).toBlock id file).lastLine = p.1 + p.2.middle.length + 1 := by
    rw [Block.lastLine, hd.initial, hd.total]
  obtain ⟨hhead, hlast⟩ := Segmentation.line?_of_mem_number hp
  rw [← hd.initial] at hhead
  rw [← hend] at hlast
  cases hl : p.2.last with
  | none =>
    have hlength := Segmentation.length_of_cutOff h hp hl
    rw [Found.diagnostics, warning_cutOff hl]
    apply Block.EndReport.endOfFile
    rw [hd.initial, hd.total]
    omega
  | some line =>
    cases hf : family.delimiters.footKind? (Source.unindented line) with
    | some foot =>
      have hfoot : family.FootLine line := Family.footLine_iff.mpr (by simp [hf])
      rcases warning_foot hl hf p.1 with ⟨hm, hw⟩ | ⟨hm, hw⟩
      · rw [Found.diagnostics, hw, ← hend]
        exact .mistagged hhead (hlast line hl) hm
      · rw [Found.diagnostics, hw]
        exact .foot hhead (hlast line hl) hfoot hm
    | none =>
      have hnf : ¬ family.FootLine line := by simp [Family.footLine_iff, hf]
      have hnl : ¬ family.LeadLine line := by
        rcases (h.segments _ (Segmentation.number_mem hp)).last line hl with hh | hh
        · exact absurd hh hnf
        · exact hh.2
      rw [Found.diagnostics, warning_stray hl hf, ← hend]
      exact .stray (hlast line hl) hnf hnl

lemma standsIn_found {c : Segmentation} (h : c.Fits family) {p : Nat × Segment}
    (hp : p ∈ Segmentation.number 1 c.segments) (id : Nat) (file : String) :
    ((p.2.found family p.1).toBlock id file).StandsIn family c.lines := by
  have hd := describes_toBlock h hp id file
  have hhead := (Segmentation.line?_of_mem_number hp).1
  rw [← hd.initial] at hhead
  refine ⟨⟨p.2.head, hhead, (h.segments _ (Segmentation.number_mem hp)).head⟩, rfl, ?_⟩
  intro i text ht
  rw [Nat.add_right_comm]
  exact hd.places i text ht

end Segment

theorem Scan.placed_of_mem_blocks {family : Family} {ls : List String} {found : Found}
    (h : found ∈ Scan.blocks family.delimiters ls) (id : Nat) (file : String) :
    (found.toBlock id file).StandsIn family ls ∧
      (found.toBlock id file).EndReport family ls (found.diagnostics file) := by
  obtain ⟨c, hc, rfl⟩ := (Segmentation.exists_fits family ls).1
  rw [Scan.blocks, Segmentation.blocksFrom_lines hc] at h
  obtain ⟨p, hp, rfl⟩ := List.mem_map.mp h
  exact ⟨Segment.standsIn_found hc hp id file, Segment.endReport_found hc hp id file⟩

end CommentDoc
