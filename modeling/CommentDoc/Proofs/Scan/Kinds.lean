import CommentDoc.Proofs.Scan.Placement

namespace CommentDoc

structure Block.Closed (family : Family) (ls : List String) (b : Block) (head foot : String) : Prop where
  headAt : Source.line? ls b.lines.initial = some head
  footAt : Source.line? ls b.lastLine = some foot
  isFoot : family.FootLine foot

lemma Draft.close_eq_settle_kind (b : Draft) (foot : BlockKind) (n : Nat) :
    ∃ warning, b.close foot n = b.settle (if b.markup = "function" then .function else foot) warning :=
  ⟨_, b.close_eq foot n⟩

namespace Segment

variable {family : Family} {s : Segment}

lemma kind_found_iff (number : Nat) :
    (s.found family number).kind = .function ↔
      ∃ foot, s.last = some foot ∧ family.FootLine foot ∧
        (headTag s.head = "function" ∨
          family.delimiters.isFoot .function (Source.unindented foot) = true) := by
  cases hl : s.last with
  | none =>
    have hkind : (s.found family number).kind = .generic := by
      rw [found, hl]
      rfl
    simp [hkind]
  | some line =>
    cases hf : family.delimiters.footKind? (Source.unindented line) with
    | none =>
      have hkind : (s.found family number).kind = .generic := by
        simp only [found, hl, hf]
        rfl
      have hnf : ¬ family.FootLine line := by simp [Family.footLine_iff, hf]
      simp [hkind, hnf]
    | some foot =>
      have hkind : (s.found family number).kind =
          if headTag s.head = "function" then .function else foot := by
        obtain ⟨warning, hclose⟩ :=
          (s.draft family number).close_eq_settle_kind foot (number + s.middle.length + 1)
        simp only [found, hl, hf, hclose]
        rfl
      have hfoot : family.FootLine line := Family.footLine_iff.mpr (by simp [hf])
      have hfunction := Family.isFoot_function_iff hf
      by_cases ht : headTag s.head = "function"
      · simp [hkind, ht, hfoot]
      · simp [hkind, ht, hfoot, hfunction]

end Segment

lemma Segment.kind_toBlock_iff {family : Family} {c : Segmentation} (h : c.Fits family) {p : Nat × Segment}
    (hp : p ∈ Segmentation.number 1 c.segments) (id : Nat) (file : String) :
    let b := (p.2.found family p.1).toBlock id file
    b.kind = .function ↔ ∃ head foot, b.Closed family c.lines head foot ∧
      (headTag head = "function" ∨ family.delimiters.isFoot .function (Source.unindented foot) = true) := by
  intro b
  have hd := Segment.describes_toBlock h hp id file
  have hend : b.lastLine = p.1 + p.2.middle.length + 1 := by rw [Block.lastLine, hd.initial, hd.total]
  obtain ⟨hhead, hlast⟩ := Segmentation.line?_of_mem_number hp
  rw [← hd.initial] at hhead
  rw [← hend] at hlast
  refine (Segment.kind_found_iff p.1).trans ⟨?_, ?_⟩
  · rintro ⟨foot, hl, hfoot, hwhy⟩
    exact ⟨p.2.head, foot, ⟨hhead, hlast foot hl, hfoot⟩, hwhy⟩
  · rintro ⟨head, foot, hclosed, hwhy⟩
    obtain rfl : p.2.head = head := Option.some.inj (hhead.symm.trans hclosed.headAt)
    cases hl : p.2.last with
    | some line =>
      obtain rfl : line = foot := Option.some.inj ((hlast line hl).symm.trans hclosed.footAt)
      exact ⟨line, rfl, hclosed.isFoot, hwhy⟩
    | none =>
      -- the file ends with the content, so no line is left for a foot
      have hlength := Segmentation.length_of_cutOff h hp hl
      have hfoot := hclosed.footAt
      rw [hend, Source.line?, List.getElem?_eq_none (by omega)] at hfoot
      cases hfoot

theorem Scan.kind_of_mem_blocks {family : Family} {ls : List String} {found : Found}
    (h : found ∈ Scan.blocks family.delimiters ls) (id : Nat) (file : String) :
    let b := found.toBlock id file
    b.kind = .function ↔ ∃ head foot, b.Closed family ls head foot ∧
      (headTag head = "function" ∨ family.delimiters.isFoot .function (Source.unindented foot) = true) := by
  obtain ⟨c, hc, rfl⟩ := (Segmentation.exists_fits family ls).1
  rw [Scan.blocks, Segmentation.blocksFrom_lines hc] at h
  obtain ⟨p, hp, rfl⟩ := List.mem_map.mp h
  exact Segment.kind_toBlock_iff hc hp id file

theorem fallback_blocks_are_generic_unless_tagged (disk : Disk) (run : Run) (input : Input) (ls : List String)
    (hfamily : run.table.family (run.filetype input) = .fallback) (hlines : Run.lines disk input = .ok ls) :
    ∃ blocks run', Scanner.Yields disk (.make run input none) run blocks run' ∧
      ∀ b ∈ blocks,
        (b.kind = .generic ∧ ∀ head foot, b.Closed .fallback ls head foot → headTag head ≠ "function") ∨
        (b.kind = .function ∧ ∃ head foot, b.Closed .fallback ls head foot ∧ headTag head = "function") := by
  have hd : run.delimiters input = Family.fallback.delimiters := by
    rw [Run.delimiters, Table.delimiters, hfamily]
  obtain ⟨run', hy, -, -⟩ := Scanner.yields_file hlines run
  rw [hd] at hy
  refine ⟨_, run', hy, ?_⟩
  intro b hb
  obtain ⟨i, hi, rfl⟩ := List.mem_mapIdx.mp hb
  have hkind := Scan.kind_of_mem_blocks (List.getElem_mem hi) (run.nextId + i) input.file
  -- the family has no function foot, so that only the tag is left
  have hfoot : ∀ foot, Family.fallback.delimiters.isFoot .function (Source.unindented foot) = false :=
    fun _ => rfl
  simp only [hfoot, Bool.false_eq_true, or_false] at hkind
  cases hk : ((Scan.blocks Family.fallback.delimiters ls).get ⟨i, hi⟩).kind with
  | function => exact Or.inr ⟨hk, hkind.mp hk⟩
  | generic =>
    refine Or.inl ⟨hk, ?_⟩
    intro head foot hclosed htag
    have hfunction := hkind.mpr ⟨head, foot, hclosed, htag⟩
    exact absurd (hk.symm.trans hfunction) (by decide)

def notes : List String :=
  ["##!function", "# f", "##", "##!function", "# g", "g()", "##", "# h", "##", "##!function", "# end"]

def notesDisk : Disk :=
  Disk.empty.addFile (Path.ofString "notes.txt") (Text.Utf8.encode (Source.text notes))

theorem only_tagged_block_of_notes_is_function :
    let run := Run.start "" .all .standard
    let input := Input.verbatim "notes.txt"
    run.table.family (run.filetype input) = .fallback ∧ Run.lines notesDisk input = .ok notes ∧
      ∃ blocks run', Scanner.Yields notesDisk (.make run input none) run blocks run' ∧
        blocks.map (·.kind) = [.function, .generic, .generic, .generic] ∧
        ∀ b ∈ blocks,
          (b.kind = .generic ∧ ∀ head foot, b.Closed .fallback notes head foot → headTag head ≠ "function") ∨
          (b.kind = .function ∧ ∃ head foot, b.Closed .fallback notes head foot ∧
            headTag head = "function") := by
  intro run input
  have hfamily : run.table.family (run.filetype input) = .fallback := by decide +kernel
  have hlines : Run.lines notesDisk input = .ok notes := by decide +kernel
  obtain ⟨blocks, run', hy, hall⟩ :=
    fallback_blocks_are_generic_unless_tagged notesDisk run input notes hfamily hlines
  obtain ⟨run'', hy', -, -⟩ := Scanner.yields_file hlines run
  have hkinds : blocks.map (·.kind) = [.function, .generic, .generic, .generic] := by
    rw [(hy.unique hy').1]
    decide +kernel
  exact ⟨hfamily, hlines, blocks, run', hy, hkinds, hall⟩

def taggedDisk : Disk :=
  Disk.empty.addFile (Path.ofString "notes.txt") (Text.Utf8.encode (Source.text ["##!function", "# f", "##"]))

theorem tagged_block_of_fallback_file_is_function :
    let run := Run.start "" .all .standard
    let input := Input.verbatim "notes.txt"
    run.table.family (run.filetype input) = .fallback ∧
      ¬ ∀ blocks run', Scanner.Yields taggedDisk (.make run input none) run blocks run' →
        ∀ b ∈ blocks, b.kind = .generic := by
  intro run input
  have hlines : Run.lines taggedDisk input = .ok ["##!function", "# f", "##"] := by decide +kernel
  refine ⟨by decide +kernel, ?_⟩
  intro h
  obtain ⟨run', hy, -, -⟩ := Scanner.yields_file hlines run
  have hkind := h _ run' hy ⟨0, .function, "function", "notes.txt", ⟨1, 1⟩, ["f"]⟩ (by decide +kernel)
  cases hkind

end CommentDoc
