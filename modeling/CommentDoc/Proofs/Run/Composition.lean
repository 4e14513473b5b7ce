import CommentDoc.Proofs.Record.Writing
import CommentDoc.Proofs.Run.Entries
import CommentDoc.Proofs.Source.Lines
import CommentDoc.Text.Unicode

namespace CommentDoc

def Block.shift (k : Nat) (b : Block) : Block :=
  { b with id := b.id + k }

def Record.shift (k : Nat) (r : Record) : Record :=
  { r with id := r.id + k }

lemma Block.record_shift [Text.Edition] (k : Nat) (b : Block) :
    (b.shift k).record = b.record.map (Record.shift k) := by
  have hc : (b.shift k).content = b.content := rfl
  rw [record, record, hc]
  cases b.content <;> rfl

lemma Record.writeAll_append (records records' : List Record) :
    writeAll (records ++ records') = writeAll records ++ writeAll records' := by
  simp [writeAll]

namespace Run

namespace Entry

def shift (k : Nat) (e : Entry) : Entry :=
  { e with id := e.id + k }

lemma block_shift (k : Nat) (e : Entry) : (e.shift k).block = e.block.shift k := rfl

lemma diagnostics_shift [Text.Edition] (selection : Selection) (k : Nat) (e : Entry) :
    (e.shift k).diagnostics selection = e.diagnostics selection := rfl

lemma record?_shift [Text.Edition] (selection : Selection) (k : Nat) (e : Entry) :
    (e.shift k).record? selection = (e.record? selection).map (Record.shift k) := by
  have hkind : (e.shift k).found.kind = e.found.kind := rfl
  rw [record?, record?, hkind, block_shift, Block.record_shift]
  by_cases h : selection.admits e.found.kind
  · rw [if_pos h, if_pos h]
    cases e.block.record <;> rfl
  · rw [if_neg h, if_neg h]
    rfl

end Entry

lemma entriesOf_shift (file : String) (n k : Nat) (founds : List Found) :
    entriesOf file (n + k) founds = (entriesOf file n founds).map (Entry.shift k) := by
  induction founds generalizing n with
  | nil => rfl
  | cons found founds ih =>
    rw [entriesOf, entriesOf, List.map_cons, ← ih, Nat.add_right_comm]
    rfl

lemma entries_shift (disk : Disk) (delimiters : Input → Delimiters) (n k : Nat) (inputs : List Input) :
    entries disk delimiters (n + k) inputs = (entries disk delimiters n inputs).map (Entry.shift k) := by
  induction inputs generalizing n with
  | nil => rfl
  | cons input inputs ih =>
    rcases hf : founds disk (delimiters input) input with ⟨fs, _ | cause⟩
    · simp only [entries, hf, List.map_append, entriesOf_shift]
      rw [Nat.add_right_comm, ih]
    · simp only [entries, hf, entriesOf_shift]

lemma extract_shift [Text.Edition] {fresh run : Run} {es : List Entry} (h : Extends fresh run es)
    (hfresh : fresh.blocks = [])
    (disk : Disk) (inputs : List Input) :
    (run.extract disk inputs).run.blocks =
        run.blocks ++ (fresh.extract disk inputs).run.blocks.map (Block.shift run.blocks.length) ∧
      (run.extract disk inputs).records =
        (fresh.extract disk inputs).records.map (Record.shift run.blocks.length) ∧
      ∃ ds, (run.extract disk inputs).run.diagnostics = run.diagnostics ++ ds ∧
        (fresh.extract disk inputs).run.diagnostics = fresh.diagnostics ++ ds := by
  have hid : run.nextId = fresh.nextId + run.blocks.length := by
    rw [Run.nextId, Run.nextId, hfresh, List.length_nil, Nat.zero_add]
  have hentries : entries disk run.delimiters run.nextId inputs =
      (entries disk fresh.delimiters fresh.nextId inputs).map (Entry.shift run.blocks.length) := by
    rw [h.delimiters, hid, entries_shift]
  obtain ⟨hrun, hrecords⟩ := extends_extract disk run inputs
  obtain ⟨hfrom, hrecords'⟩ := extends_extract disk fresh inputs
  rw [hentries] at hrun hrecords
  refine ⟨?_, ?_, _, hrun.diagnostics, ?_⟩
  · rw [hrun.blocks, hfrom.blocks, hfresh, List.nil_append, List.map_map, List.map_map]
    rfl
  · rw [hrecords, hrecords', h.selection, List.filterMap_map, List.map_filterMap]
    congr 1
    funext e
    exact e.record?_shift fresh.selection run.blocks.length
  · simp only [hfrom.diagnostics, h.selection, List.flatMap_map, Entry.diagnostics_shift]

lemma failure_eq [Text.Edition] (disk : Disk) (inputs : List Input) (run run' : Run) :
    (run.extract disk inputs).failure = (run'.extract disk inputs).failure := by
  rcases readable_cases disk inputs with h | ⟨before, input, after, cause, rfl, hbefore, hcause⟩
  · rw [failure_of_readable h, failure_of_readable h]
  · rw [failure_of_unreadable hbefore hcause, failure_of_unreadable hbefore hcause]

end Run

/-- In particular, a block that is open at the end of a file has no lines of the next file. -/
theorem files_differ_by_id_offset [Text.Edition] (filetype : String) (selection : Selection)
    (table : Table) (disk : Disk)
    (first second : List Input) (hfirst : ∀ input ∈ first, Run.Readable disk input) :
    let fresh := Run.start filetype selection table
    let p := fresh.extract disk first
    let q := fresh.extract disk second
    let n := p.run.blocks.length
    let once := fresh.extract disk (first ++ second)
    let again := p.run.extract disk second
    once.run.blocks = p.run.blocks ++ q.run.blocks.map (Block.shift n) ∧
    once.records = p.records ++ q.records.map (Record.shift n) ∧
    once.run.diagnostics = p.run.diagnostics ++ q.run.diagnostics ∧
    once.text = p.text ++ Record.writeAll (q.records.map (Record.shift n)) ∧
    once.records.length = p.records.length + q.records.length ∧
    p.failure = none ∧ once.failure = q.failure ∧
    again = { once with records := q.records.map (Record.shift n) } := by
  intro fresh p q n once again
  have honce : once = { again with records := p.records ++ again.records } :=
    Run.extract_append hfirst fresh second
  obtain ⟨hblocks, hrecords, ds, hds, hds'⟩ :=
    Run.extract_shift (Run.extends_extract disk fresh first).1 rfl disk second
  have hrun : once.run = again.run := by rw [honce]
  have hall : once.records = p.records ++ q.records.map (Record.shift n) := by
    rw [honce]
    exact congrArg (p.records ++ ·) hrecords
  refine ⟨?_, hall, ?_, ?_, ?_, Run.failure_of_readable hfirst fresh, ?_, ?_⟩
  · rw [hrun]
    exact hblocks
  · have hq : q.run.diagnostics = ds := hds'
    rw [hrun, hq]
    exact hds
  · rw [Run.Extraction.text_eq, Run.Extraction.text_eq, hall, Record.writeAll_append]
  · rw [hall, List.length_append, List.length_map]
  · rw [honce]
    exact Run.failure_eq disk second p.run fresh
  · rw [honce, ← hrecords]

def unendedDisk : Disk :=
  (Disk.empty.addFile (Path.ofString "a.sh") (Text.Utf8.encode (Source.text ["##", "# text"]))).addFile
    (Path.ofString "b.sh") (Text.Utf8.encode (Source.text ["# more", "##", "# other", "##"]))

theorem files_differ_after_unended_block :
    (∀ input ∈ [Input.verbatim "a.sh"], Run.Readable unendedDisk input) ∧
      ((Run.start "" .all .standard).extract unendedDisk
        ([.verbatim "a.sh"] ++ [.verbatim "b.sh"])).run.blocks =
        [⟨0, .generic, "none", "a.sh", ⟨1, 1⟩, ["text"]⟩,
          ⟨1, .generic, "none", "b.sh", ⟨2, 1⟩, ["other"]⟩] := by
  have hread : ∀ input ∈ [Input.verbatim "a.sh"], Run.Readable unendedDisk input := by
    intro input hi
    rw [List.mem_singleton.mp hi]
    exact ⟨["##", "# text"], by decide +kernel⟩
  have hfirst : ((Run.start "" .all .standard).extract unendedDisk [.verbatim "a.sh"]).run.blocks =
      [⟨0, .generic, "none", "a.sh", ⟨1, 1⟩, ["text"]⟩] := by decide +kernel
  have hsecond : ((Run.start "" .all .standard).extract unendedDisk [.verbatim "b.sh"]).run.blocks =
      [⟨0, .generic, "none", "b.sh", ⟨2, 1⟩, ["other"]⟩] := by decide +kernel
  obtain ⟨hblocks, -⟩ :=
    files_differ_by_id_offset "" .all .standard unendedDisk [.verbatim "a.sh"] [.verbatim "b.sh"] hread
  refine ⟨hread, ?_⟩
  rw [hblocks, hfirst, hsecond]
  rfl

end CommentDoc
