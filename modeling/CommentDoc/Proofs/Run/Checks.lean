import CommentDoc.Proofs.Run.Framing
import CommentDoc.Proofs.Run.ReadErrors
import CommentDoc.Proofs.Validation.Remaking

/-! A run in which everything is made through the check of its type. No check ever fails, so the
run is the same. -/

namespace CommentDoc

namespace Run

def reportChecked [Scalars] (run : Run) (ds : List Diagnostic) : Except Breach Run := do
  let ds ← ds.mapM Diagnostic.remade
  return run.report ds

def registerChecked [Text.Edition] [Scalars] (run : Run) (file : String) (found : Found) :
    Except Breach (Run × Block) := do
  let run ← run.reportChecked (found.diagnostics file)
  let lines ← (LineSpan.mk found.initial found.captured.length).remade
  let block ← (Block.mk run.nextId found.kind found.markup file lines found.captured).remade
  return ({ run with blocks := run.blocks ++ [block] }, block)

def parseChecked [Text.Edition] [Scalars] (run : Run) (block : Block) : Except Breach (Run × Option Record) :=
  match block.content with
  | .ok content => do
    let content ← content.remade
    let record ← (block.withContent content).remade
    return (run, some record)
  | .error fault => do
    let run ← run.reportChecked (fault.diagnostics block.file block.lines.initial)
    return (run, none)

def takeChecked [Text.Edition] [Scalars] (run : Run) (file : String) (found : Found) :
    Except Breach (Run × Option Record) := do
  let (run, block) ← run.registerChecked file found
  if run.selection.admits block.kind then run.parseChecked block else return (run, none)

def takeAllChecked [Text.Edition] [Scalars] (run : Run) (file : String) :
    List Found → Except Breach (Run × List Record)
  | [] => .ok (run, [])
  | found :: rest => do
    let (run, record?) ← run.takeChecked file found
    let (run, records) ← run.takeAllChecked file rest
    return (run, record?.toList ++ records)

def extractChecked [Text.Edition] [Scalars] (disk : Disk) (run : Run) : List Input → Except Breach Extraction
  | [] => .ok ⟨run, [], none⟩
  | input :: rest => do
    let filetype ← run.table.resolved input.path run.defaultFiletype
    let family ← run.table.row filetype
    let run := run.note (.scanning input.file filetype family)
    let (founds, failure) := founds disk family.delimiters input
    let (run, records) ← run.takeAllChecked input.file founds
    match failure with
    | some e => return ⟨run, records, some e⟩
    | none =>
      let later ← run.extractChecked disk rest
      return { later with records := records ++ later.records }

def writeChecked [Text.Edition] [Scalars] (limit : Option DigitLimit) (disk : Disk) (run : Run)
    (inputs : List Input) :
    Except Breach (Extraction × String) := do
  let e ← run.extractChecked disk inputs
  match Written.nothing.write limit e.records with
  | (written, none) => return (e, written.text)
  | (_, some error) => .error (.notEncodable error)

lemma reportChecked_eq [Scalars] (run : Run) (ds : List Diagnostic) :
    run.reportChecked ds = .ok (run.report ds) := by
  rw [reportChecked, mapM_eq_self fun d _ => d.remade_eq]
  rfl

lemma registerChecked_eq [Text.Edition] [Scalars] (run : Run) (file : String) {found : Found}
    (h : found.Proper) :
    run.registerChecked file found = .ok (run.register file found) := by
  have hlines : (LineSpan.mk found.initial found.captured.length).remade =
      .ok ⟨found.initial, found.captured.length⟩ :=
    LineSpan.remade_iff.mpr h.initial
  have hblock : (found.toBlock run.nextId file).remade = .ok (found.toBlock run.nextId file) :=
    Block.remade_iff.mpr (h.toBlock run.nextId file)
  rw [registerChecked, reportChecked_eq]
  simp only [bind, Except.bind, hlines]
  simp only [Found.toBlock] at hblock
  simp only [nextId, blocks_report] at hblock ⊢
  rw [hblock]
  rfl

lemma parseChecked_eq [Text.Edition] [Scalars] (run : Run) {block : Block} (h : 1 ≤ block.lines.initial) :
    run.parseChecked block = .ok (run.parse block) := by
  cases hc : block.content with
  | error fault =>
    simp only [parseChecked, parse, Block.record, hc, Except.map, reportChecked_eq]
    rfl
  | ok content =>
    have hrecord : block.record = .ok (block.withContent content) := by simp [Block.record, hc, Except.map]
    have hvalid := Block.valid_record h hrecord
    have hcontent : content.remade = .ok content := Content.remade_eq hvalid.name
    simp only [parseChecked, parse, hc, hrecord, hcontent, bind, Except.bind, Record.remade_iff.mpr hvalid]
    rfl

lemma takeChecked_eq [Text.Edition] [Scalars] (run : Run) (file : String) {found : Found} (h : found.Proper) :
    run.takeChecked file found = .ok (run.take file found) := by
  have hparse : (run.register file found).1.parseChecked (run.register file found).2 =
      .ok ((run.register file found).1.parse (run.register file found).2) := parseChecked_eq _ h.initial
  rw [takeChecked, registerChecked_eq run file h, take]
  simp only [bind, Except.bind]
  split
  · exact hparse
  · rfl

lemma takeAllChecked_eq [Text.Edition] [Scalars] (run : Run) (file : String) {founds : List Found}
    (h : ∀ f ∈ founds, f.Proper) :
    run.takeAllChecked file founds = .ok (run.takeAll file founds) := by
  induction founds generalizing run with
  | nil => rfl
  | cons found founds ih =>
    obtain ⟨hfound, hrest⟩ := List.forall_mem_cons.mp h
    have htake := takeChecked_eq run file hfound
    rw [takeAllChecked, htake]
    simp only [bind, Except.bind, ih _ hrest]
    rfl

lemma extractChecked_eq [Text.Edition] [Scalars] (disk : Disk) (run : Run) (inputs : List Input) :
    run.extractChecked disk inputs = .ok (run.extract disk inputs) := by
  induction inputs generalizing run with
  | nil => rfl
  | cons input inputs ih =>
    have htake := takeAllChecked_eq (run.noteScanning input) input.file
        (founds_ordered disk (run.delimiters input) input).1
    rw [extractChecked, Table.resolved_eq]
    simp only [bind, Except.bind, Table.row_eq]
    rcases hf : founds disk (run.delimiters input) input with ⟨fs, ending⟩
    rw [hf] at htake
    have hchecked : founds disk
        (run.table.family (run.table.resolve input.path run.defaultFiletype)).delimiters input =
        (fs, ending) := hf
    simp only [hchecked]
    change ((run.noteScanning input).takeAllChecked input.file fs).bind _ = _
    rw [htake]
    cases ending <;> simp only [Except.bind, ih, extract, hf] <;> rfl

lemma writeChecked_eq [Text.Edition] [Scalars] {limit : Option DigitLimit} {disk : Disk} {run : Run}
    {inputs : List Input}
    (h : ∀ r ∈ (run.extract disk inputs).records, r.Fits limit) :
    run.writeChecked limit disk inputs = .ok (run.extract disk inputs, (run.extract disk inputs).text) := by
  have hwritten : Written.nothing.write limit (run.extract disk inputs).records =
      ((run.extract disk inputs).written, none) := by
    rw [Written.write_of_fits h, Extraction.written_eq]
    simp [Written.nothing]
  rw [writeChecked, extractChecked_eq]
  simp only [bind, Except.bind, hwritten]
  rfl

lemma open?_of_lines {disk : Disk} {input : Input} {e : ReadError} (h : lines disk input = .error e)
    (hfailed : ∀ file cause, e ≠ .failed file cause) : open? disk input = .error e := by
  have hb := octets_of_error h
  cases ho : open? disk input with
  | error e' => simpa [octets, ho] using hb
  | ok identity =>
    cases hf : disk.readingFault? identity with
    | none => simp [octets, ho, hf] at hb
    | some cause =>
      simp only [octets, ho, hf, Except.error.injEq] at hb
      exact absurd hb.symm (hfailed _ _)

lemma open?_eq_nullInName {disk : Disk} {input : Input} (h : open? disk input = .error .nullInName) :
    input.path.text.toList.any isNull = true := by
  rcases open?_error_cases h with ⟨half, he, -⟩ | ⟨-, hnull⟩ | ⟨cause, he, -⟩
  · cases he
  · exact hnull
  · cases he

lemma open?_eq_notEncodable {disk : Disk} {input : Input} {half : Stray}
    (h : open? disk input = .error (.notEncodable half)) : input.stray = some half := by
  rcases open?_error_cases h with ⟨half', he, hstray⟩ | ⟨he, -⟩ | ⟨cause, he, -⟩
  · obtain rfl := ReadError.notEncodable.inj he
    exact hstray
  · cases he
  · cases he

end Run

def brokenOffDisk : Disk :=
  Disk.empty.addFaulty (Path.ofString "a.sh")
    (Text.Utf8.encode (Source.text ["##", "# text", "##", "##", "# lost"])) ⟨none, some .inputOutput, none⟩

end CommentDoc
