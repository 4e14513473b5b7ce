import CommentDoc.Proofs.Run.Reading
import CommentDoc.Proofs.Run.Registration
import Mathlib.Tactic.Lemma

/-! What a run makes of its files, told without the run: an entry for every block that is found. -/

namespace CommentDoc

def Block.faults [Text.Edition] (b : Block) : List Diagnostic :=
  match b.content with
  | .ok _ => []
  | .error fault => fault.diagnostics b.file b.lines.initial

namespace Run

def Readable (disk : Disk) (input : Input) : Prop :=
  ∃ ls, lines disk input = .ok ls

structure Entry where
  id : Nat
  file : String
  found : Found

namespace Entry

variable [Text.Edition]

def block (e : Entry) : Block :=
  e.found.toBlock e.id e.file

def record? (selection : Selection) (e : Entry) : Option Record :=
  if selection.admits e.found.kind then e.block.record.toOption else none

def faults (selection : Selection) (e : Entry) : List Diagnostic :=
  if selection.admits e.found.kind then e.block.faults else []

def diagnostics (selection : Selection) (e : Entry) : List Diagnostic :=
  e.found.diagnostics e.file ++ e.faults selection

lemma record_of_record? {selection : Selection} {e : Entry} {r : Record}
    (h : e.record? selection = some r) :
    e.block.record = .ok r := by
  unfold record? at h
  split at h
  · cases hr : e.block.record with
    | error fault => simp [hr, Except.toOption] at h
    | ok r' => simpa [hr, Except.toOption] using h
  · cases h

end Entry

def entriesOf (file : String) : (n : Nat) → List Found → List Entry
  | _, [] => []
  | n, found :: rest => ⟨n, file, found⟩ :: entriesOf file (n + 1) rest

def entries (disk : Disk) (delimiters : Input → Delimiters) : (n : Nat) → List Input → List Entry
  | _, [] => []
  | n, input :: rest =>
    match founds disk (delimiters input) input with
    | (fs, some _) => entriesOf input.file n fs
    | (fs, none) => entriesOf input.file n fs ++ entries disk delimiters (n + fs.length) rest

@[simp] lemma length_entriesOf (file : String) (n : Nat) (founds : List Found) :
    (entriesOf file n founds).length = founds.length := by
  induction founds generalizing n with
  | nil => rfl
  | cons found founds ih => simp [entriesOf, ih]

lemma map_id_entriesOf (file : String) (n : Nat) (founds : List Found) :
    (entriesOf file n founds).map Entry.id = List.range' n founds.length := by
  induction founds generalizing n with
  | nil => rfl
  | cons found founds ih => simp [entriesOf, ih, List.range'_succ]

lemma map_id_entries (disk : Disk) (delimiters : Input → Delimiters) (n : Nat) (inputs : List Input) :
    (entries disk delimiters n inputs).map Entry.id =
      List.range' n (entries disk delimiters n inputs).length := by
  induction inputs generalizing n with
  | nil => rfl
  | cons input inputs ih =>
    rcases hf : founds disk (delimiters input) input with ⟨fs, _ | cause⟩
    · simp only [entries, hf, List.map_append, map_id_entriesOf, ih, List.length_append, length_entriesOf]
      exact List.range'_append_1
    · simp only [entries, hf, map_id_entriesOf, length_entriesOf]

lemma mem_entriesOf {file : String} {n : Nat} {founds : List Found} {e : Entry}
    (h : e ∈ entriesOf file n founds) :
    e.file = file ∧ e.found ∈ founds := by
  induction founds generalizing n with
  | nil => simp [entriesOf] at h
  | cons found founds ih =>
    rcases List.mem_cons.mp h with rfl | h
    · simp
    · obtain ⟨hfile, hfound⟩ := ih h
      exact ⟨hfile, List.mem_cons_of_mem _ hfound⟩

lemma mem_entries {disk : Disk} {delimiters : Input → Delimiters} {n : Nat} {inputs : List Input} {e : Entry}
    (h : e ∈ entries disk delimiters n inputs) :
    ∃ input ∈ inputs, e.file = input.file ∧ e.found ∈ (founds disk (delimiters input) input).1 := by
  induction inputs generalizing n with
  | nil => simp [entries] at h
  | cons input inputs ih =>
    rcases hf : founds disk (delimiters input) input with ⟨fs, _ | cause⟩
    · simp only [entries, hf] at h
      rcases List.mem_append.mp h with h | h
      · refine ⟨input, by simp, ?_⟩
        rw [hf]
        exact mem_entriesOf h
      · obtain ⟨input', hm, hrest⟩ := ih h
        exact ⟨input', List.mem_cons_of_mem _ hm, hrest⟩
    · simp only [entries, hf] at h
      refine ⟨input, by simp, ?_⟩
      rw [hf]
      exact mem_entriesOf h

/-- One run goes on from another: it has the same options, and the blocks and the diagnostics of
some more entries. -/
structure Extends [Text.Edition] (run run' : Run) (es : List Entry) : Prop where
  blocks : run'.blocks = run.blocks ++ es.map Entry.block
  diagnostics : run'.diagnostics = run.diagnostics ++ es.flatMap (Entry.diagnostics run.selection)
  selection : run'.selection = run.selection
  delimiters : run'.delimiters = run.delimiters

lemma Extends.trans [Text.Edition] {run run' run'' : Run} {es es' : List Entry} (h : Extends run run' es)
    (h' : Extends run' run'' es') : Extends run run'' (es ++ es') where
  blocks := by simp [h'.blocks, h.blocks]
  diagnostics := by simp [h'.diagnostics, h.diagnostics, h.selection]
  selection := h'.selection.trans h.selection
  delimiters := h'.delimiters.trans h.delimiters

lemma Extends.nextId [Text.Edition] {run run' : Run} {es : List Entry} (h : Extends run run' es) :
    run'.nextId = run.nextId + es.length := by
  simp [Run.nextId, h.blocks]

lemma extends_refl [Text.Edition] (run : Run) : Extends run run [] :=
  ⟨by simp, by simp, rfl, rfl⟩

lemma extends_noteScanning [Text.Edition] (run : Run) (input : Input) :
    Extends run (run.noteScanning input) [] :=
  ⟨(List.append_nil _).symm, by simp [noteScanning], rfl, rfl⟩

@[simp] lemma report_nil (run : Run) : run.report [] = run := by
  obtain ⟨defaultFiletype, selection, table, blocks, log⟩ := run
  simp [report]

lemma parse_eq [Text.Edition] (run : Run) (block : Block) :
    run.parse block = (run.report block.faults, block.record.toOption) := by
  unfold parse Block.faults Block.record
  cases block.content with
  | ok content => simp [Except.map, Except.toOption]
  | error fault => rfl

lemma take_eq [Text.Edition] (run : Run) (file : String) (found : Found) :
    run.take file found =
      ((run.register file found).1.report (Entry.faults run.selection ⟨run.nextId, file, found⟩),
        Entry.record? run.selection ⟨run.nextId, file, found⟩) := by
  by_cases h : run.selection.admits found.kind
  · have ht : run.take file found = (run.register file found).1.parse (run.register file found).2 := if_pos h
    rw [ht, parse_eq, Entry.faults, Entry.record?, if_pos h, if_pos h]
    rfl
  · have ht : run.take file found = ((run.register file found).1, none) := if_neg h
    rw [ht, Entry.faults, Entry.record?, if_neg h, if_neg h, report_nil]

lemma extends_take [Text.Edition] (run : Run) (file : String) (found : Found) :
    Extends run (run.take file found).1 [⟨run.nextId, file, found⟩] := by
  rw [take_eq]
  refine ⟨?_, ?_, rfl, rfl⟩
  · rw [blocks_report, blocks_register]
    rfl
  · rw [diagnostics_report, diagnostics_register]
    simp [Entry.diagnostics]

lemma extends_takeAll [Text.Edition] (run : Run) (file : String) (founds : List Found) :
    Extends run (run.takeAll file founds).1 (entriesOf file run.nextId founds) ∧
      (run.takeAll file founds).2 =
        (entriesOf file run.nextId founds).filterMap (Entry.record? run.selection) := by
  induction founds generalizing run with
  | nil => exact ⟨extends_refl run, rfl⟩
  | cons found founds ih =>
    have htake := extends_take run file found
    obtain ⟨hrest, hrecords⟩ := ih (run.take file found).1
    rw [htake.nextId] at hrest hrecords
    refine ⟨htake.trans hrest, ?_⟩
    have hrecord : (run.take file found).2 =
        Entry.record? run.selection ⟨run.nextId, file, found⟩ := by
      rw [take_eq]
    simp only [takeAll, entriesOf, List.filterMap_cons, hrecords, hrecord, htake.selection]
    cases Entry.record? run.selection ⟨run.nextId, file, found⟩ <;> rfl

theorem extends_extract [Text.Edition] (disk : Disk) (run : Run) (inputs : List Input) :
    Extends run (run.extract disk inputs).run (entries disk run.delimiters run.nextId inputs) ∧
      (run.extract disk inputs).records =
        (entries disk run.delimiters run.nextId inputs).filterMap (Entry.record? run.selection) := by
  induction inputs generalizing run with
  | nil => exact ⟨extends_refl run, rfl⟩
  | cons input inputs ih =>
    rcases hf : founds disk (run.delimiters input) input with ⟨fs, ending⟩
    have hnote := extends_noteScanning run input
    obtain ⟨hfile, hrecords⟩ := extends_takeAll (run.noteScanning input) input.file fs
    have hbefore := hnote.trans hfile
    obtain ⟨hrest, hlater⟩ := ih ((run.noteScanning input).takeAll input.file fs).1
    rw [hbefore.nextId, hbefore.delimiters] at hrest hlater
    rw [hbefore.selection] at hlater
    simp only [hnote.nextId, hnote.selection, List.length_nil, Nat.add_zero, List.nil_append,
      length_entriesOf]
      at hbefore hrecords hrest hlater
    cases ending with
    | some cause =>
      simp only [extract, entries, hf]
      exact ⟨hbefore, hrecords⟩
    | none =>
      simp only [extract, entries, hf, hrecords, hlater, List.filterMap_append]
      exact ⟨hbefore.trans hrest, trivial⟩

lemma extract_congr [Text.Edition] {disk disk' : Disk} {inputs : List Input}
    (h : ∀ input ∈ inputs, ∀ d, founds disk' d input = founds disk d input) (run : Run) :
    run.extract disk' inputs = run.extract disk inputs := by
  induction inputs generalizing run with
  | nil => rfl
  | cons input inputs ih =>
    obtain ⟨hinput, hrest⟩ := List.forall_mem_cons.mp h
    simp only [extract, hinput, ih hrest]

lemma extract_append [Text.Edition] {disk : Disk} {before : List Input}
    (h : ∀ input ∈ before, Readable disk input) (run : Run)
    (after : List Input) :
    run.extract disk (before ++ after) =
      { (run.extract disk before).run.extract disk after with
        records :=
          (run.extract disk before).records ++
            ((run.extract disk before).run.extract disk after).records } := by
  induction before generalizing run with
  | nil => rfl
  | cons input before ih =>
    obtain ⟨ls, hl⟩ := h input (by simp)
    simp only [List.cons_append, extract, founds_of_lines _ hl, ih fun i hi => h i (by simp [hi]),
      List.append_assoc]

lemma failure_of_readable [Text.Edition] {disk : Disk} {inputs : List Input}
    (h : ∀ input ∈ inputs, Readable disk input) (run : Run) :
    (run.extract disk inputs).failure = none := by
  induction inputs generalizing run with
  | nil => rfl
  | cons input inputs ih =>
    obtain ⟨ls, hl⟩ := h input (by simp)
    simp only [extract, founds_of_lines _ hl]
    exact ih (fun i hi => h i (by simp [hi])) _

lemma readable_cases (disk : Disk) (inputs : List Input) :
    (∀ input ∈ inputs, Readable disk input) ∨
      ∃ before input after cause, inputs = before ++ input :: after ∧ (∀ i ∈ before, Readable disk i) ∧
        lines disk input = .error cause := by
  induction inputs with
  | nil => exact Or.inl (by simp)
  | cons input inputs ih =>
    cases hl : lines disk input with
    | error cause => exact Or.inr ⟨[], input, inputs, cause, rfl, by simp, hl⟩
    | ok ls =>
      have hinput : Readable disk input := ⟨ls, hl⟩
      rcases ih with h | ⟨before, input', after, cause, rfl, hbefore, hcause⟩
      · exact Or.inl (List.forall_mem_cons.mpr ⟨hinput, h⟩)
      · exact Or.inr ⟨input :: before, input', after, cause, rfl,
          List.forall_mem_cons.mpr ⟨hinput, hbefore⟩, hcause⟩

lemma failure_of_unreadable [Text.Edition] {disk : Disk} {before : List Input}
    (h : ∀ input ∈ before, Readable disk input)
    {input : Input} {cause : ReadError} (hl : lines disk input = .error cause) (run : Run)
      (after : List Input) :
    (run.extract disk (before ++ input :: after)).failure = some cause := by
  rw [extract_append h]
  have hf := founds_of_error ((run.extract disk before).run.delimiters input) hl
  rcases hp : founds disk ((run.extract disk before).run.delimiters input) input with ⟨fs, ending⟩
  rw [hp] at hf
  subst hf
  simp only [extract, hp]

lemma extract_unopened [Text.Edition] {disk : Disk} {before : List Input}
    (h : ∀ input ∈ before, Readable disk input)
    {input : Input} {cause : ReadError} (ho : open? disk input = .error cause) (run : Run)
      (after : List Input) :
    run.extract disk (before ++ input :: after) =
      ⟨(run.extract disk before).run.noteScanning input, (run.extract disk before).records, some cause⟩ := by
  simp only [extract_append h, extract, founds_of_unopened _ ho, takeAll, List.append_nil]

end Run

end CommentDoc
