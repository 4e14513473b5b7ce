import CommentDoc.Proofs.Record.Framing
import CommentDoc.Proofs.Record.Writing
import CommentDoc.Proofs.Run.Entries

namespace CommentDoc

namespace Run

lemma entry_of_mem_records [Text.Edition] {disk : Disk} {run : Run} {inputs : List Input} {r : Record}
    (h : r ∈ (run.extract disk inputs).records) :
    ∃ e ∈ entries disk run.delimiters run.nextId inputs, e.block.record = .ok r := by
  rw [(extends_extract disk run inputs).2] at h
  obtain ⟨e, he, hr⟩ := List.mem_filterMap.mp h
  exact ⟨e, he, Entry.record_of_record? hr⟩

lemma valid_of_mem_records [Text.Edition] {disk : Disk} {run : Run} {inputs : List Input} {r : Record}
    (h : r ∈ (run.extract disk inputs).records) : r.Valid := by
  obtain ⟨e, he, hr⟩ := entry_of_mem_records h
  obtain ⟨input, -, -, hfound⟩ := mem_entries he
  have hproper := (founds_ordered disk _ input).1 e.found hfound
  exact Block.valid_record hproper.initial hr

lemma oneLine_of_mem_records [Text.Edition] {disk : Disk} {run : Run} {inputs : List Input}
    (hfiles : ∀ input ∈ inputs, OneLine input.file) {r : Record} (h : r ∈ (run.extract disk inputs).records) :
    ∀ t ∈ r.texts, OneLine t := by
  obtain ⟨e, he, hr⟩ := entry_of_mem_records h
  obtain ⟨input, hinput, hfile, hfound⟩ := mem_entries he
  obtain ⟨bs, hbefore⟩ := founds_prefix disk (run.delimiters input) input
  have hlined := Scan.oneLined_of_mem_blocks (hbefore.mem hfound)
  have hname : OneLine e.file := hfile ▸ hfiles input hinput
  exact Block.oneLine_record hlined.markup hname hlined.captured hr

end Run

theorem output_is_one_record_per_line [Text.Edition] [Scalars] (disk : Disk) (run : Run) (inputs : List Input)
    (hfiles : ∀ input ∈ inputs, OneLine input.file) :
    let e := run.extract disk inputs
    (∀ r ∈ e.records, ∀ t ∈ r.texts, OneLine t) ∧
    e.text.toList.count '\n' = e.records.length ∧
    (e.failure = none → e.count = .ok e.records.length) ∧
    (e.text = "" ∨ e.text.toList.getLast? = some '\n') ∧
    Record.readAll? e.text = some e.records := by
  intro e
  have htexts : ∀ r ∈ e.records, ∀ t ∈ r.texts, OneLine t := fun r hr => Run.oneLine_of_mem_records hfiles hr
  have hlines : ∀ r ∈ e.records, OneLine r.line := fun r hr => Record.oneLine_line (htexts r hr)
  have hvalid : ∀ r ∈ e.records, r.Valid := fun r hr => Run.valid_of_mem_records hr
  rw [e.text_eq]
  refine ⟨htexts, Record.count_newline_writeAll hlines, e.count_eq, ?_,
    Record.readAll?_writeAll hlines hvalid⟩
  by_cases hnil : e.records = []
  · left
    rw [hnil]
    rfl
  · right
    exact Record.getLast?_writeAll hnil

def controlDisk : Disk :=
  Disk.empty.addFile (Path.ofString "a.sh") (Text.Utf8.encode (Source.text
    ["##!x\x01y", "# a\x1f\"b\"\t", "##", "##", "# f - say\r", "# @x:\x0c one", "f() \x7b"]))

theorem output_with_control_characters :
    let inputs := [Input.verbatim "a.sh", .verbatim "b.sh", .verbatim "a.sh"]
    let e := (Run.start "" .all .standard).extract controlDisk inputs
    (∀ input ∈ inputs, OneLine input.file) ∧ e.failure = some (.failed "b.sh" .noEntry) ∧
      e.records.map (·.content) = [.generic ["a\x1f\"b\"\t"], .function ⟨"f", "say", [⟨"x", "one"⟩], []⟩] ∧
      e.text.toList.count '\n' = 2 ∧ Record.readAll? e.text = some e.records := by
  intro inputs e
  have hfiles : ∀ input ∈ inputs, OneLine input.file := by decide
  have hcontents : e.records.map (·.content) =
      [.generic ["a\x1f\"b\"\t"], .function ⟨"f", "say", [⟨"x", "one"⟩], []⟩] := by decide +kernel
  have hlength : e.records.length = 2 := by
    rw [← List.length_map (f := (·.content)), hcontents]
    rfl
  obtain ⟨-, hcount, -, -, hread⟩ :=
    output_is_one_record_per_line controlDisk (.start "" .all .standard) inputs hfiles
  exact ⟨hfiles, by decide +kernel, hcontents, hcount.trans hlength, hread⟩

end CommentDoc
