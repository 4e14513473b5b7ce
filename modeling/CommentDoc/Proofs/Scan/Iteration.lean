import CommentDoc.Proofs.Run.Reading
import CommentDoc.Proofs.Run.Registration
import CommentDoc.Proofs.Scan.Agreement
import CommentDoc.Proofs.Scan.Upcoming
import Mathlib.Data.List.Forall2

namespace CommentDoc

namespace Scanner

inductive Yields (disk : Disk) : Scanner → Run → List Block → Run → Prop
  | eof {s s' : Scanner} {run run' : Run} :
      s.next disk run = (run', s', .ok none) → Yields disk s run [] run'
  | block {s s' : Scanner} {run run' run'' : Run} {block : Block} {blocks : List Block} :
      s.next disk run = (run', s', .ok (some block)) → Yields disk s' run' blocks run'' →
      Yields disk s run (block :: blocks) run''

lemma Yields.unique {disk : Disk} {s : Scanner} {run run₁ run₂ : Run} {blocks₁ blocks₂ : List Block}
    (h₁ : Yields disk s run blocks₁ run₁) (h₂ : Yields disk s run blocks₂ run₂) :
    blocks₁ = blocks₂ ∧ run₁ = run₂ := by
  induction h₁ generalizing blocks₂ with
  | eof hn =>
    cases h₂ with
    | eof hn' =>
      cases hn.symm.trans hn'
      exact ⟨rfl, rfl⟩
    | block hn' _ => cases hn.symm.trans hn'
  | block hn _ ih =>
    cases h₂ with
    | eof hn' => cases hn.symm.trans hn'
    | block hn' hy =>
      cases hn.symm.trans hn'
      obtain ⟨rfl, rfl⟩ := ih hy
      exact ⟨rfl, rfl⟩

lemma yields_registerAll {s : Scanner} (h : s.IsOpen) {disk : Disk} (he : s.ending disk = none) (run : Run) :
    Yields disk s run (run.registerAll s.input.file (s.upcoming disk)).2
      (run.registerAll s.input.file (s.upcoming disk)).1 := by
  generalize hu : s.upcoming disk = founds
  induction founds generalizing s run with
  | nil =>
    obtain ⟨s', hs, -, -⟩ := next_of_upcoming_nil h hu he run
    exact .eof hs
  | cons found founds ih =>
    obtain ⟨s', hs, hu', he', hi, ho⟩ := next_of_upcoming_cons h hu run
    have hy := ih ho (he'.trans he) (run.register s.input.file found).1 hu'
    rw [hi] at hy
    exact .block hs hy

lemma next_of_unopened {s : Scanner} (h : s.phase = .unopened) {disk : Disk} {identity : Nat}
    (ho : Run.open? disk s.input = .ok identity) (run : Run) :
    s.next disk run = { s with phase := .reading (.start identity) 1 }.next disk
      (run.note (.scanning s.input.file s.filetype s.delimiters.family)) := by
  have hs : s.opened disk run =
      (run.note (.scanning s.input.file s.filetype s.delimiters.family),
        { s with phase := .reading (.start identity) 1 }, none) := by
    simp [opened, h, ho]
  have hs' := opened_of_isOpen (s := { s with phase := .reading (.start identity) 1 }) (by simp [IsOpen]) disk
    (run.note (.scanning s.input.file s.filetype s.delimiters.family))
  simp only [next, hs, hs']

lemma Yields.of_next_eq {disk : Disk} {s t : Scanner} {run run₁ run' : Run} {blocks : List Block}
    (h : s.next disk run = t.next disk run₁) (ht : Yields disk t run₁ blocks run') :
    Yields disk s run blocks run' := by
  cases ht with
  | eof hn => exact .eof (h.trans hn)
  | block hn hy => exact .block (h.trans hn) hy

@[simp] lemma make_input (run : Run) (input : Input) (d : Option Delimiters) :
    (make run input d).input = input := rfl

@[simp] lemma make_delimiters (run : Run) (input : Input) (d : Delimiters) :
    (make run input (some d)).delimiters = d := rfl

lemma yields_of_unopened {s : Scanner} (h : s.phase = .unopened) {disk : Disk} {ls : List String}
    (hlines : Run.lines disk s.input = .ok ls) (run : Run) :
    ∃ run₁ : Run, run₁.blocks = run.blocks ∧ run₁.diagnostics = run.diagnostics ∧
      Yields disk s run (run₁.registerAll s.input.file (Scan.blocks s.delimiters ls)).2
        (run₁.registerAll s.input.file (Scan.blocks s.delimiters ls)).1 := by
  obtain ⟨bs, hoctets, rfl⟩ := Run.octets_of_lines hlines
  obtain ⟨identity, hopen, hfault, rfl⟩ := Run.octets_eq_ok_iff.mp hoctets
  let t : Scanner := { s with phase := .reading (.start identity) 1 }
  have hu : t.upcoming disk = Scan.blocks s.delimiters (Source.lines (disk.content identity)) := by
    simp [t, upcoming, Scan.foundsFrom, Reader.fault?, Reader.lines, Reader.start, Reader.ahead, hfault,
      Scan.blocks]
  have he : t.ending disk = none := by simp [t, ending, Reader.fault?, Reader.start, hfault]
  have hy := yields_registerAll (s := t) (by simp [t, IsOpen]) he
    (run.note (.scanning s.input.file s.filetype s.delimiters.family))
  rw [hu] at hy
  exact ⟨_, run.blocks_note _, run.diagnostics_scanning _ _ _, hy.of_next_eq (next_of_unopened h hopen run)⟩

lemma yields_make {disk : Disk} {input : Input} {ls : List String} (hlines : Run.lines disk input = .ok ls)
    (run : Run) (d : Option Delimiters) :
    let founds := Scan.blocks (d.getD (run.delimiters input)) ls
    let blocks := founds.mapIdx fun i found => found.toBlock (run.nextId + i) input.file
    ∃ run', Yields disk (.make run input d) run blocks run' ∧ run'.blocks = run.blocks ++ blocks ∧
      run'.diagnostics = run.diagnostics ++ founds.flatMap fun found => found.diagnostics input.file := by
  intro founds blocks
  obtain ⟨run₁, hblocks, hdiagnostics, hy⟩ := yields_of_unopened (s := .make run input d) rfl hlines run
  have hregistered : (run₁.registerAll input.file founds).2 = blocks := by
    rw [Run.registerAll_snd, Run.nextId, hblocks]
    rfl
  refine ⟨(run₁.registerAll input.file founds).1, ?_, ?_, ?_⟩
  · rw [← hregistered]
    exact hy
  · rw [Run.blocks_registerAll, hregistered, hblocks]
  · rw [Run.diagnostics_registerAll, hdiagnostics]

lemma yields_file {disk : Disk} {input : Input} {ls : List String} (hlines : Run.lines disk input = .ok ls)
    (run : Run) :
    let founds := Scan.blocks (run.delimiters input) ls
    let blocks := founds.mapIdx fun i found => found.toBlock (run.nextId + i) input.file
    ∃ run', Yields disk (.make run input none) run blocks run' ∧ run'.blocks = run.blocks ++ blocks ∧
      run'.diagnostics = run.diagnostics ++ founds.flatMap fun found => found.diagnostics input.file :=
  yields_make hlines run none

/-- Whatever a run has done before, a new scanner of the file shows the blocks `founds` to it, in
order and to the end of the file, and reports what was odd about them. -/
def Finds (disk : Disk) (family : Family) (input : Input) (founds : List Found) : Prop :=
  ∀ run : Run, ∃ run',
    Yields disk (.make run input (some family.delimiters)) run
      (founds.mapIdx fun i found => found.toBlock (run.nextId + i) input.file) run' ∧
    run'.diagnostics = run.diagnostics ++ founds.flatMap fun found => found.diagnostics input.file

lemma finds_blocks {disk : Disk} {input : Input} {ls : List String} (hlines : Run.lines disk input = .ok ls)
    (family : Family) : Finds disk family input (Scan.blocks family.delimiters ls) := by
  intro run
  obtain ⟨run', hy, -, hdiagnostics⟩ := yields_make hlines run (some family.delimiters)
  exact ⟨run', hy, hdiagnostics⟩

end Scanner

namespace Segment

def unclosed? (family : Family) (file : String) (number : Nat) (s : Segment) : Option Diagnostic :=
  match s.last with
  | some line =>
    if family.FootLine line then none
    else some ⟨.warning, "unclosed block", file, number + s.middle.length + 1⟩
  | none => none

lemma filter_diagnostics_found (family : Family) (file : String) (number : Nat) (s : Segment) :
    ((s.found family number).diagnostics file).filter (·.message = "unclosed block") =
      (s.unclosed? family file number).toList := by
  unfold found unclosed?
  cases s.last with
  | none => rfl
  | some line =>
    cases hf : family.delimiters.footKind? (Source.unindented line) with
    | some foot =>
      obtain ⟨kind, warning, hc, hw⟩ :=
        (s.draft family number).close_eq_settle foot (number + s.middle.length + 1)
      have hfoot : family.FootLine line := Family.footLine_iff.mpr (by simp [hf])
      rcases hw with rfl | rfl
      · simp [hf, hc, hfoot, Found.diagnostics, Draft.settle]
      · simp [hf, hc, hfoot, Found.diagnostics, Draft.settle, ScanWarning.message]
    | none =>
      have hfoot : ¬ family.FootLine line := by simp [Family.footLine_iff, hf]
      simp [hf, hfoot, Found.diagnostics, Draft.abandon, Draft.settle, ScanWarning.message]

structure Describes (family : Family) (file : String) (lines : List String) (p : Nat × Segment) (b : Block) :
    Prop where
  file : b.file = file
  initial : b.lines.initial = p.1
  head : 1 ≤ p.1 ∧ lines[p.1 - 1]? = some p.2.head
  total : b.lines.total = p.2.middle.length
  captured : b.captured.map some = p.2.middle.map family.leadText?
  places : ∀ i text, b.captured[i]? = some text →
    ∃ line, lines[b.lines.initial + i]? = some line ∧ family.leadText? line = some text

lemma Describes.span {family : Family} {file : String} {lines : List String} {p : Nat × Segment} {b : Block}
    (h : Describes family file lines p b) : b.lines = ⟨p.1, p.2.middle.length⟩ := by
  rw [← h.initial, ← h.total]

lemma describes_toBlock {family : Family} {c : Segmentation} (h : c.Fits family) {p : Nat × Segment}
    (hp : p ∈ Segmentation.number 1 c.segments) (id : Nat) (file : String) :
    Describes family file c.lines p ((p.2.found family p.1).toBlock id file) := by
  have hs : p.2.Fits family := h.segments _ (Segmentation.number_mem hp)
  obtain ⟨before, after, hlines, hnumber⟩ := Segmentation.lines_of_mem_number hp
  have hcaptured : (p.2.found family p.1).captured.map some = p.2.middle.map family.leadText? := by
    rw [found_captured, hs.map_leadText?]
  refine ⟨rfl, found_initial _ _ _, ⟨by omega, ?_⟩, hs.length_captured _, hcaptured, ?_⟩
  · rw [hlines, hnumber]
    simp
  · intro i text ht
    have hi := congrArg (fun texts => texts[i]?) hcaptured
    have ht' : (p.2.found family p.1).captured[i]? = some text := ht
    simp only [List.getElem?_map, ht', Option.map_some] at hi
    obtain ⟨line, hline, hlead⟩ := Option.map_eq_some_iff.mp hi.symm
    refine ⟨line, ?_, hlead⟩
    have hinitial : ((p.2.found family p.1).toBlock id file).lines.initial + i = before.length + (i + 1) := by
      simp only [Found.toBlock, found_initial, hnumber]
      omega
    have hlength : i < p.2.middle.length := (List.getElem?_eq_some_iff.mp hline).1
    rw [hlines, hinitial, List.getElem?_append_right (by omega), Nat.add_sub_cancel_left,
      List.getElem?_cons_succ,
      List.getElem?_append_left hlength, hline]

end Segment

lemma Segment.pairwise_of_describes {family : Family} {file : String} {c : Segmentation} (h : c.Fits family)
    {blocks : List Block}
    (hd : List.Forall₂ (Segment.Describes family file c.lines) (Segmentation.number 1 c.segments) blocks) :
    blocks.Pairwise fun a b => a.lines.initial + a.lines.total + 2 ≤ b.lines.initial := by
  let span : Nat × Segment → LineSpan := fun p => ⟨p.1, p.2.middle.length⟩
  have hspans : (Segmentation.number 1 c.segments).map span = blocks.map (·.lines) := by
    rw [← List.forall₂_eq_eq_eq, List.forall₂_map_left_iff, List.forall₂_map_right_iff]
    exact hd.imp fun p b hpb => hpb.span.symm
  have hp : ((Segmentation.number 1 c.segments).map span).Pairwise fun a b =>
      a.initial + a.total + 2 ≤ b.initial :=
    List.pairwise_map.mpr (Segmentation.number_pairwise h 1)
  rw [hspans] at hp
  exact List.pairwise_map.mp hp

lemma Segment.filter_diagnostics (family : Family) (file : String) (ps : List (Nat × Segment)) :
    ((ps.map fun p => p.2.found family p.1).flatMap fun found => found.diagnostics file).filter
        (·.message = "unclosed block") =
      ps.filterMap fun p => p.2.unclosed? family file p.1 := by
  induction ps with
  | nil => rfl
  | cons p ps ih =>
    rw [List.map_cons, List.flatMap_cons, List.filter_append, Segment.filter_diagnostics_found, ih,
      List.filterMap_cons]
    cases p.2.unclosed? family file p.1 <;> rfl

theorem next_until_eof_gives_unique_cut (family : Family) (disk : Disk) (run : Run) (input : Input)
    (lines : List String) (hlines : Run.lines disk input = .ok lines) :
    ∃ c : Segmentation, (c.Fits family ∧ c.lines = lines) ∧
      (∀ c' : Segmentation, c'.Fits family → c'.lines = lines → c' = c) ∧
      ∃ blocks run' reported,
        Scanner.Yields disk (.make run input (some family.delimiters)) run blocks run' ∧
        List.Forall₂ (Segment.Describes family input.file lines) (Segmentation.number 1 c.segments) blocks ∧
        blocks.Pairwise (fun a b => a.lines.initial + a.lines.total + 2 ≤ b.lines.initial) ∧
        run'.blocks = run.blocks ++ blocks ∧
        run'.diagnostics = run.diagnostics ++ reported ∧
        reported.filter (·.message = "unclosed block") =
          (Segmentation.number 1 c.segments).filterMap fun p => p.2.unclosed? family input.file p.1 := by
  obtain ⟨c, hfits, rfl⟩ := (Segmentation.exists_fits family lines).1
  obtain ⟨run₁, hblocks, hdiagnostics, hy⟩ :=
    Scanner.yields_of_unopened (s := .make run input (some family.delimiters)) rfl hlines run
  rw [Scanner.make_input, Scanner.make_delimiters, Scan.blocks, Segmentation.blocksFrom_lines hfits] at hy
  have hd := run₁.forall₂_registerAll fun p hp id => Segment.describes_toBlock hfits hp id input.file
  refine ⟨c, ⟨hfits, rfl⟩, fun c' h' hl => h'.unique hfits hl, _, _, _, hy, hd, ?_, ?_,
    by rw [run₁.diagnostics_registerAll, hdiagnostics], ?_⟩
  · exact Segment.pairwise_of_describes hfits hd
  · rw [run₁.blocks_registerAll, hblocks]
  · exact Segment.filter_diagnostics family input.file _

def strayLines : List String :=
  ["code", "##", "# text", "stray", "##!tag", "#"]

def strayDisk : Disk :=
  Disk.empty.addFile (Path.ofString "a.sh") (Text.Utf8.encode (Source.text strayLines))

theorem next_until_eof_at_stray_line :
    Run.lines strayDisk (.verbatim "a.sh") = .ok strayLines ∧
      ∃ blocks run', Scanner.Yields strayDisk
          (.make (.start "" .all .standard) (.verbatim "a.sh") (some Family.shell.delimiters))
          (.start "" .all .standard) blocks run' ∧
        blocks.map (·.lines) = [⟨2, 1⟩, ⟨5, 1⟩] ∧
        run'.diagnostics.filter (·.message = "unclosed block") =
          [⟨.warning, "unclosed block", "a.sh", 4⟩] := by
  have hlines : Run.lines strayDisk (.verbatim "a.sh") = .ok strayLines := by decide +kernel
  obtain ⟨c, -, hunique, blocks, run', reported, hy, hd, -, -, hr, hw⟩ :=
    next_until_eof_gives_unique_cut .shell strayDisk (.start "" .all .standard)
      (.verbatim "a.sh") strayLines hlines
  have hcut : c = ⟨[⟨["code"], "##", ["# text"], some "stray"⟩, ⟨[], "##!tag", ["#"], none⟩], []⟩ := by
    refine (hunique _ ?_ rfl).symm
    refine Segmentation.fits_cons_iff.mpr ⟨⟨by decide, by decide, by decide, by decide⟩, Or.inl ⟨by simp, ?_⟩⟩
    exact Segmentation.fits_cons_iff.mpr ⟨⟨by decide, by decide, by decide, by simp⟩, Or.inr ⟨rfl, rfl, rfl⟩⟩
  subst c
  refine ⟨hlines, blocks, run', hy, ?_, ?_⟩
  · rcases hd with _ | ⟨h₁, _ | ⟨h₂, _ | _⟩⟩
    rw [List.map_cons, List.map_cons, List.map_nil, h₁.span, h₂.span]
    rfl
  · rw [hr, List.filter_append, hw]
    decide

end CommentDoc
