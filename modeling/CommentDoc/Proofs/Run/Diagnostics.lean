import CommentDoc.Proofs.Function.Faults
import CommentDoc.Proofs.Run.Entries
import CommentDoc.Proofs.Scan.Placement
import CommentDoc.Text.Unicode

/-! Every selected block has a record or one diagnostic that says why it has none. -/

namespace CommentDoc

inductive Block.ContentReport [Text.Edition] (selection : Selection) (b : Block) :
    Option Record → List Diagnostic → Prop
  | unselected : selection.admits b.kind = false → ContentReport selection b none []
  | recorded {record : Record} : selection.admits b.kind = true → b.record = .ok record →
      ContentReport selection b (some record) []
  | notFunction {k : Nat} {text : String} : selection.admits b.kind = true → b.kind = .function →
      FirstText b.captured k text → Header.name (Text.trim text.toList) = .error .notFunction →
      ContentReport selection b none
        [⟨.warning, "ignoring non-function block", b.file, b.lines.initial + 1 + k⟩]
  | noName {k : Nat} {text : String} : selection.admits b.kind = true → b.kind = .function →
      FirstText b.captured k text → Header.name (Text.trim text.toList) = .error .noName →
      ContentReport selection b none
        [⟨.error, "missing title in function block", b.file, b.lines.initial + 1 + k⟩]
  | blank : selection.admits b.kind = true → b.kind = .function → (∀ text ∈ b.captured, IsBlank text) →
      ContentReport selection b none
        [⟨.warning, "empty function block", b.file, b.lines.initial⟩,
          ⟨.error, "missing title in function block", b.file, b.lines.initial⟩]

lemma Block.EndReport.line {family : Family} {ls : List String} {b : Block} {ds : List Diagnostic}
    (h : b.EndReport family ls ds) {d : Diagnostic} (hd : d ∈ ds) :
    d.file = b.file ∧ d.line = b.lastLine := by
  cases h with
  | endOfFile _ => cases hd
  | foot _ _ _ _ => cases hd
  | mistagged _ _ _ => rw [List.mem_singleton.mp hd]; exact ⟨rfl, rfl⟩
  | stray _ _ _ => rw [List.mem_singleton.mp hd]; exact ⟨rfl, rfl⟩

lemma Block.ContentReport.line [Text.Edition] {selection : Selection} {b : Block}
    {record : Option Record} {ds : List Diagnostic}
    (h : b.ContentReport selection record ds) {d : Diagnostic} (hd : d ∈ ds) :
    d.file = b.file ∧ b.lines.initial ≤ d.line ∧ d.line ≤ b.lines.initial + b.captured.length := by
  cases h with
  | unselected _ => cases hd
  | recorded _ _ => cases hd
  | notFunction _ _ hfirst _ =>
    have hk := hfirst.lt_length
    obtain rfl : d = _ := List.mem_singleton.mp hd
    exact ⟨rfl, by dsimp only; omega, by dsimp only; omega⟩
  | noName _ _ hfirst _ =>
    have hk := hfirst.lt_length
    obtain rfl : d = _ := List.mem_singleton.mp hd
    exact ⟨rfl, by dsimp only; omega, by dsimp only; omega⟩
  | blank _ _ _ =>
    simp only [List.mem_cons, List.not_mem_nil, or_false] at hd
    rcases hd with rfl | rfl <;> simp

def Diagnostic.dropsBlock (d : Diagnostic) : Bool :=
  d.message = "ignoring non-function block" || d.message = "missing title in function block"

structure Account where
  block : Block
  record : Option Record
  ending : List Diagnostic
  content : List Diagnostic

namespace Account

def diagnostics (a : Account) : List Diagnostic :=
  a.ending ++ a.content

structure Accurate [Text.Edition] (selection : Selection) (family : Family) (file : String)
    (ls : List String) (a : Account) :
    Prop where
  file : a.block.file = file
  stands : a.block.StandsIn family ls
  ending : a.block.EndReport family ls a.ending
  content : a.block.ContentReport selection a.record a.content

variable {selection : Selection} {family : Family} {file : String} {ls : List String} {a : Account}

lemma Accurate.one_outcome [Text.Edition] (h : a.Accurate selection family file ls) :
    a.record.toList.length + (a.diagnostics.filter Diagnostic.dropsBlock).length =
      if selection.admits a.block.kind then 1 else 0 := by
  have hending : a.ending.filter Diagnostic.dropsBlock = [] := by
    have he := h.ending
    generalize a.ending = ds at he
    cases he <;> rfl
  have hcontent := h.content
  rw [diagnostics, List.filter_append, hending, List.nil_append]
  generalize a.record = record, a.content = ds at hcontent
  cases hcontent <;> simp_all [Diagnostic.dropsBlock]

lemma Accurate.line [Text.Edition] (h : a.Accurate selection family file ls) {d : Diagnostic}
    (hd : d ∈ a.diagnostics) :
    d.file = a.block.file ∧ a.block.lines.initial ≤ d.line ∧
      d.line ≤ a.block.lines.initial + a.block.lines.total + 1 := by
  rcases List.mem_append.mp hd with hd | hd
  · obtain ⟨hfile, hline⟩ := h.ending.line hd
    rw [Block.lastLine] at hline
    exact ⟨hfile, by omega, by omega⟩
  · obtain ⟨hfile, hlow, hhigh⟩ := h.content.line hd
    rw [← h.stands.total] at hhigh
    exact ⟨hfile, hlow, by omega⟩

lemma length_outcomes {accounts : List Account}
    (h : ∀ a ∈ accounts, a.record.toList.length + (a.diagnostics.filter Diagnostic.dropsBlock).length =
      if selection.admits a.block.kind then 1 else 0) :
    (accounts.filterMap record).length +
      ((accounts.flatMap diagnostics).filter Diagnostic.dropsBlock).length =
      ((accounts.map block).filter fun b => selection.admits b.kind).length := by
  induction accounts with
  | nil => rfl
  | cons a accounts ih =>
    have ha := h a (by simp)
    have hrest := ih fun a' ha' => h a' (by simp [ha'])
    have hrecords : ((a :: accounts).filterMap record).length =
        a.record.toList.length + (accounts.filterMap record).length := by
      cases hr : a.record <;> simp [hr, Nat.add_comm]
    have hblocks : (((a :: accounts).map block).filter fun b => selection.admits b.kind).length =
        (if selection.admits a.block.kind then 1 else 0) +
          ((accounts.map block).filter fun b => selection.admits b.kind).length := by
      by_cases hs : selection.admits a.block.kind <;> simp [hs, Nat.add_comm]
    rw [hrecords, hblocks, List.flatMap_cons, List.filter_append, List.length_append]
    omega

end Account

namespace Run.Entry

variable [Text.Edition]

def account (selection : Selection) (e : Entry) : Account :=
  ⟨e.block, e.record? selection, e.found.diagnostics e.file, e.faults selection⟩

lemma contentReport (selection : Selection) (e : Entry) :
    e.block.ContentReport selection (e.record? selection) (e.faults selection) := by
  by_cases hs : selection.admits e.found.kind
  · rw [record?, faults, if_pos hs, if_pos hs]
    cases hc : e.block.content with
    | ok content =>
      have hr : e.block.record = .ok (e.block.withContent content) := by rw [Block.record, hc]; rfl
      rw [Block.faults, hc, hr]
      exact .recorded hs hr
    | error fault =>
      have hr : e.block.record = .error fault := by rw [Block.record, hc]; rfl
      obtain ⟨hk, hp⟩ := Block.parse_of_content hc
      rw [Block.faults, hc, hr]
      cases fault with
      | blank => exact .blank hs hk (FunctionContent.blank_of_parse hp)
      | header fault k =>
        obtain ⟨text, hfirst, hname⟩ := FunctionContent.firstText_of_parse hp
        cases fault with
        | notFunction => exact .notFunction hs hk hfirst hname
        | noName => exact .noName hs hk hfirst hname
  · rw [record?, faults, if_neg hs, if_neg hs]
    exact .unselected (eq_false_of_ne_true hs)

lemma accurate {disk : Disk} {run : Run} {n : Nat} {inputs : List Input}
    (hread : ∀ input ∈ inputs, Readable disk input) {e : Entry}
      (h : e ∈ entries disk run.delimiters n inputs) :
    ∃ input ∈ inputs, ∃ ls, lines disk input = .ok ls ∧
      (e.account run.selection).Accurate run.selection
        (run.table.family (run.filetype input)) input.file ls := by
  obtain ⟨input, hi, hfile, hfound⟩ := mem_entries h
  obtain ⟨ls, hl⟩ := hread input hi
  rw [founds_of_lines _ hl] at hfound
  obtain ⟨hstands, hending⟩ := Scan.placed_of_mem_blocks hfound e.id e.file
  exact ⟨input, hi, ls, hl, hfile, hstands, hending, e.contentReport run.selection⟩

end Run.Entry

namespace Run

variable [Text.Edition]

def accounts (disk : Disk) (run : Run) (inputs : List Input) : List Account :=
  (entries disk run.delimiters run.nextId inputs).map (Entry.account run.selection)

variable (disk : Disk) (run : Run) (inputs : List Input)

lemma blocks_accounts :
    (run.extract disk inputs).run.blocks = run.blocks ++ (run.accounts disk inputs).map Account.block := by
  rw [accounts, List.map_map]
  exact (extends_extract disk run inputs).1.blocks

lemma records_accounts :
    (run.extract disk inputs).records = (run.accounts disk inputs).filterMap Account.record := by
  rw [accounts, List.filterMap_map]
  exact (extends_extract disk run inputs).2

lemma diagnostics_accounts :
    (run.extract disk inputs).run.diagnostics =
      run.diagnostics ++ (run.accounts disk inputs).flatMap Account.diagnostics := by
  rw [accounts, List.flatMap_map]
  exact (extends_extract disk run inputs).1.diagnostics

lemma map_id_accounts :
    ((run.accounts disk inputs).map Account.block).map Block.id =
      List.range' run.nextId ((run.accounts disk inputs).map Account.block).length := by
  simp only [accounts, List.map_map, List.length_map]
  exact map_id_entries disk run.delimiters run.nextId inputs

lemma accurate_of_mem_accounts (hread : ∀ input ∈ inputs, Readable disk input) {a : Account}
    (h : a ∈ run.accounts disk inputs) :
    ∃ input ∈ inputs, ∃ ls, lines disk input = .ok ls ∧
      a.Accurate run.selection (run.table.family (run.filetype input)) input.file ls := by
  obtain ⟨e, he, rfl⟩ := List.mem_map.mp h
  exact e.accurate hread he

end Run

theorem diagnostics_account_for_every_block [Text.Edition] (filetype : String) (selection : Selection)
    (table : Table) (disk : Disk)
    (inputs : List Input) (hread : ∀ input ∈ inputs, Run.Readable disk input) :
    let e := (Run.start filetype selection table).extract disk inputs
    e.failure = none ∧ e.run.blocks.map Block.id = List.range e.run.blocks.length ∧
    ∃ accounts : List Account,
      (∀ a ∈ accounts, ∃ input ∈ inputs, ∃ ls, Run.lines disk input = .ok ls ∧
        a.Accurate selection (table.family (table.resolve input.path filetype)) input.file ls) ∧
      e.run.blocks = accounts.map Account.block ∧
      e.records = accounts.filterMap Account.record ∧
      e.run.diagnostics = accounts.flatMap Account.diagnostics ∧
      (∀ a ∈ accounts, selection.admits a.block.kind = true →
        a.record.toList.length + (a.diagnostics.filter Diagnostic.dropsBlock).length = 1) ∧
      (∀ a ∈ accounts, ∀ d ∈ a.diagnostics, d.file = a.block.file ∧ a.block.lines.initial ≤ d.line ∧
        d.line ≤ a.block.lines.initial + a.block.lines.total + 1) ∧
      e.records.length + (e.run.diagnostics.filter Diagnostic.dropsBlock).length =
        (e.run.blocks.filter fun b => selection.admits b.kind).length := by
  intro e
  let accounts := (Run.start filetype selection table).accounts disk inputs
  have hblocks : e.run.blocks = accounts.map Account.block := Run.blocks_accounts ..
  have hrecords : e.records = accounts.filterMap Account.record := Run.records_accounts ..
  have hdiagnostics : e.run.diagnostics = accounts.flatMap Account.diagnostics := Run.diagnostics_accounts ..
  have haccurate := fun a ha =>
    Run.accurate_of_mem_accounts disk (.start filetype selection table) inputs hread (a := a) ha
  have hone : ∀ a ∈ accounts, a.record.toList.length + (a.diagnostics.filter Diagnostic.dropsBlock).length =
      if selection.admits a.block.kind then 1 else 0 := by
    intro a ha
    obtain ⟨input, -, ls, -, hacc⟩ := haccurate a ha
    exact hacc.one_outcome
  refine ⟨Run.failure_of_readable hread _, ?_, accounts, haccurate, hblocks, hrecords, hdiagnostics, ?_,
    ?_, ?_⟩
  · rw [hblocks, List.range_eq_range']
    exact Run.map_id_accounts disk (.start filetype selection table) inputs
  · intro a ha hs
    rw [hone a ha, if_pos hs]
  · intro a ha d hd
    obtain ⟨input, -, ls, -, hacc⟩ := haccurate a ha
    exact hacc.line hd
  · rw [hrecords, hdiagnostics, hblocks]
    exact Account.length_outcomes hone

def oddBlocks : List String :=
  ["##", "# text", "stray", "##!tag", "# f - Work.", "f() \x7b", "##", "#", "# struct g", "g() \x7b",
    "##", "# ?",
    "h() \x7b", "##", "#", "i() \x7b"]

def oddBlocksDisk : Disk :=
  Disk.empty.addFile (Path.ofString "a.sh") (Text.Utf8.encode (Source.text oddBlocks))

theorem diagnostics_account_for_odd_blocks :
    let e := (Run.start "" .function .standard).extract oddBlocksDisk [.verbatim "a.sh"]
    (∀ input ∈ [Input.verbatim "a.sh"], Run.Readable oddBlocksDisk input) ∧
      e.run.diagnostics =
        [⟨.warning, "unclosed block", "a.sh", 3⟩,
          ⟨.warning, "function blocks may not have a markup tag", "a.sh", 6⟩,
          ⟨.warning, "ignoring non-function block", "a.sh", 9⟩,
          ⟨.error, "missing title in function block", "a.sh", 12⟩,
          ⟨.warning, "empty function block", "a.sh", 14⟩,
          ⟨.error, "missing title in function block", "a.sh", 14⟩] ∧
      e.records.length + (e.run.diagnostics.filter Diagnostic.dropsBlock).length = 4 := by
  intro e
  have hread : ∀ input ∈ [Input.verbatim "a.sh"], Run.Readable oddBlocksDisk input := by
    intro input hi
    rw [List.mem_singleton.mp hi]
    exact ⟨oddBlocks, by decide +kernel⟩
  have hselected :
      (e.run.blocks.filter fun b => Selection.function.admits b.kind).length = 4 := by
    decide +kernel
  obtain ⟨-, -, accounts, -, -, -, -, -, -, hcount⟩ :=
    diagnostics_account_for_every_block "" .function .standard oddBlocksDisk [.verbatim "a.sh"] hread
  exact ⟨hread, by decide +kernel, hcount.trans hselected⟩

end CommentDoc
