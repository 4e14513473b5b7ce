import CommentDoc.Proofs.Scan.Upcoming
import Mathlib.Logic.Relation
import Mathlib.Tactic.Lemma

/-! A run taken step by step. Extracting everything at once and drawing the records one at a time
both go through the same points. -/

namespace CommentDoc

variable [Text.Edition]

namespace Run

inductive Task where
  | opening (inputs : List Input)
  | scanning (file : String) (ahead : List Found) (ending : Option ReadError) (inputs : List Input)
  | judging (block : Block) (file : String) (ahead : List Found) (ending : Option ReadError)
    (inputs : List Input)
  | failed (cause : ReadError)

structure Point where
  run : Run
  records : List Record
  begun : List Input
  task : Task

def Point.start (run : Run) (inputs : List Input) : Point :=
  ⟨run, [], [], .opening inputs⟩

inductive Step (disk : Disk) : Point → Point → Prop
  | opens {run : Run} {records begun input inputs} :
      Step disk ⟨run, records, begun, .opening (input :: inputs)⟩
        ⟨run.noteScanning input, records, begun ++ [input],
          .scanning input.file (founds disk (run.delimiters input) input).1
            (founds disk (run.delimiters input) input).2 inputs⟩
  | finds {run : Run} {records begun file found ahead ending inputs} :
      Step disk ⟨run, records, begun, .scanning file (found :: ahead) ending inputs⟩
        ⟨(run.register file found).1, records, begun,
          .judging (run.register file found).2 file ahead ending inputs⟩
  | passes {run : Run} {records begun block file ahead ending inputs} : ¬ run.selection.admits block.kind →
      Step disk ⟨run, records, begun, .judging block file ahead ending inputs⟩
        ⟨run, records, begun, .scanning file ahead ending inputs⟩
  | parses {run : Run} {records begun block file ahead ending inputs} : run.selection.admits block.kind →
      Step disk ⟨run, records, begun, .judging block file ahead ending inputs⟩
        ⟨(run.parse block).1, records ++ (run.parse block).2.toList, begun,
          .scanning file ahead ending inputs⟩
  | ends {run : Run} {records begun file inputs} :
      Step disk ⟨run, records, begun, .scanning file [] none inputs⟩ ⟨run, records, begun, .opening inputs⟩
  | fails {run : Run} {records begun file cause inputs} :
      Step disk ⟨run, records, begun, .scanning file [] (some cause) inputs⟩
        ⟨run, records, begun, .failed cause⟩

abbrev Reaches (disk : Disk) : Point → Point → Prop :=
  Relation.ReflTransGen (Step disk)

variable (disk : Disk) (run : Run) (records : List Record) (begun inputs : List Input) (file : String)
  (ending : Option ReadError)

lemma reaches_take (found : Found) (ahead : List Found) :
    Reaches disk ⟨run, records, begun, .scanning file (found :: ahead) ending inputs⟩
      ⟨(run.take file found).1, records ++ (run.take file found).2.toList, begun,
        .scanning file ahead ending inputs⟩ := by
  refine .head .finds (.single ?_)
  by_cases h : (run.register file found).1.selection.admits (run.register file found).2.kind
  · have ht : run.take file found = (run.register file found).1.parse (run.register file found).2 := if_pos h
    rw [ht]
    exact .parses h
  · have ht : run.take file found = ((run.register file found).1, none) := if_neg h
    rw [ht, Option.toList_none, List.append_nil]
    exact .passes h

lemma reaches_takeAll (founds : List Found) :
    Reaches disk ⟨run, records, begun, .scanning file founds ending inputs⟩
      ⟨(run.takeAll file founds).1, records ++ (run.takeAll file founds).2, begun,
        .scanning file [] ending inputs⟩ := by
  induction founds generalizing run records with
  | nil => rw [takeAll, List.append_nil]
  | cons found founds ih =>
    refine (reaches_take disk run records begun inputs file ending found founds).trans ?_
    rw [takeAll, ← List.append_assoc]
    exact ih _ _

def Extraction.task (e : Extraction) : Task :=
  match e.failure with
  | none => .opening []
  | some cause => .failed cause

lemma reaches_extract :
    ∃ begun', Reaches disk ⟨run, records, begun, .opening inputs⟩
      ⟨(run.extract disk inputs).run, records ++ (run.extract disk inputs).records, begun',
        (run.extract disk inputs).task⟩ := by
  induction inputs generalizing run records begun with
  | nil =>
    refine ⟨begun, ?_⟩
    rw [extract, List.append_nil]
    exact .refl
  | cons input inputs ih =>
    have hopens : Step disk ⟨run, records, begun, .opening (input :: inputs)⟩ _ := .opens
    rcases hf : founds disk (run.delimiters input) input with ⟨fs, ending⟩
    rw [hf] at hopens
    have hfile := reaches_takeAll disk (run.noteScanning input) records
        (begun ++ [input]) inputs input.file ending fs
    cases ending with
    | some cause =>
      refine ⟨begun ++ [input], .head hopens ?_⟩
      simp only [extract, hf]
      exact hfile.tail .fails
    | none =>
      obtain ⟨begun', hr⟩ := ih ((run.noteScanning input).takeAll input.file fs).1
        (records ++ ((run.noteScanning input).takeAll input.file fs).2) (begun ++ [input])
      refine ⟨begun', .head hopens ((hfile.tail .ends).trans ?_)⟩
      simp only [extract, hf, ← List.append_assoc]
      exact hr

lemma reaches_visitAll (founds : List Found) :
    Reaches disk ⟨run, records, begun, .scanning file founds ending inputs⟩
      ⟨(Scan.visitAll (fun run found => run.take file found) run founds).1,
        records ++ (Scan.visitAll (fun run found => run.take file found) run founds).2.1.toList, begun,
        .scanning file (Scan.visitAll
          (fun run found => run.take file found) run founds).2.2 ending inputs⟩ := by
  induction founds generalizing run with
  | nil =>
    simp only [Scan.visitAll, Option.toList_none, List.append_nil]
    exact .refl
  | cons found founds ih =>
    have htake := reaches_take disk run records begun inputs file ending found founds
    rcases ht : run.take file found with ⟨run', _ | record⟩
    · rw [ht, Option.toList_none, List.append_nil] at htake
      simp only [Scan.visitAll, ht]
      exact htake.trans (ih run')
    · rw [ht] at htake
      simp only [Scan.visitAll, ht]
      exact htake

end Run

namespace Scanner

lemma nextRecord_of_isOpen {s : Scanner} (h : s.IsOpen) (disk : Disk) (run : Run) :
    ∃ s', s.nextRecord disk run =
        ((Scan.visitAll (fun run found => run.take s.input.file found) run (s.upcoming disk)).1, s',
          reply (Scan.visitAll (fun run found => run.take s.input.file found) run (s.upcoming disk)).2.1
            (s.ending disk)) ∧
      s'.upcoming disk =
        (Scan.visitAll (fun run found => run.take s.input.file found) run (s.upcoming disk)).2.2 ∧
      ((Scan.visitAll (fun run found => run.take s.input.file found) run (s.upcoming disk)).2.1 ≠ none →
        s'.ending disk = s.ending disk) ∧
      s'.input = s.input ∧ s'.IsOpen := by
  obtain ⟨s', hs, hrest⟩ := seek_spec h disk (fun run found => run.take s.input.file found) run
  refine ⟨s', ?_, hrest⟩
  simp only [nextRecord, opened_of_isOpen h, hs]

lemma nextRecord_make (run : Run) (input : Input) (disk : Disk) :
    (∃ s : Scanner, s.IsOpen ∧ s.input = input ∧
      (s.upcoming disk, s.ending disk) = Run.founds disk (run.delimiters input) input ∧
      (make run input none).nextRecord disk run = s.nextRecord disk (run.noteScanning input)) ∨
    ∃ (cause : ReadError) (s : Scanner), Run.founds disk (run.delimiters input) input = ([], some cause) ∧
      (make run input none).nextRecord disk run =
        (run.noteScanning input, s, .error (.unreadable cause)) := by
  cases ho : Run.open? disk input with
  | error cause =>
    have hf := Run.founds_of_unopened (run.delimiters input) ho
    refine Or.inr ⟨cause, ?_⟩
    cases cause with
    | failed file error =>
      refine ⟨{ make run input none with phase := .exhausted }, hf, ?_⟩
      simp only [nextRecord, opened, make, ho]
      rfl
    | nullInName | notEncodable =>
      refine ⟨make run input none, hf, ?_⟩
      simp only [nextRecord, opened, make, ho]
      rfl
  | ok identity =>
    let s : Scanner := ⟨input, run.filetype input, run.delimiters input, .reading (.start identity) 1⟩
    have hs : s.IsOpen := by simp [s, IsOpen]
    have hm : (make run input none).opened disk run = (run.noteScanning input, s, none) := by
      simp [opened, make, ho, s, Run.noteScanning]
    refine Or.inl ⟨s, hs, rfl, ?_, by simp only [nextRecord, hm, opened_of_isOpen hs]⟩
    rw [Run.founds_of_open _ ho]
    cases hf : disk.readingFault? identity <;>
      simp [s, upcoming, ending, Reader.fault?, Reader.lines, Reader.start, Reader.ahead, Run.legible, hf]

end Scanner

namespace Stream

inductive Matches (disk : Disk) : Stream → Run.Task → Prop
  | opening {inputs : List Input} : Matches disk ⟨none, inputs⟩ (.opening inputs)
  | scanning {s : Scanner} {inputs : List Input} : s.IsOpen →
      Matches disk ⟨some s, inputs⟩ (.scanning s.input.file (s.upcoming disk) (s.ending disk) inputs)
  | failed {cause : ReadError} : Matches disk finished (.failed cause)

def draw (disk : Disk) : (n : Nat) → Stream → Run → Run × List Record
  | 0, _, run => (run, [])
  | n + 1, st, run =>
    let (run, st, answer) := st.pull disk run
    let (run, records) := draw disk n st run
    (run, answer.toOption.join.toList ++ records)

variable {disk : Disk} {run : Run} {records : List Record} {begun inputs : List Input}

def Leads (disk : Disk) (p : Run.Point)
    (r : Run × Stream × Except ScanError (Option Record)) : Prop :=
  ∃ begun task, r.2.1.Matches disk task ∧
    Run.Reaches disk p ⟨r.1, p.records ++ r.2.2.toOption.join.toList, begun, task⟩

lemma Leads.of_reaches {p q : Run.Point} {r : Run × Stream × Except ScanError (Option Record)}
    (h : Run.Reaches disk p q) (hr : q.records = p.records) (hq : Leads disk q r) : Leads disk p r := by
  obtain ⟨begun, task, hm, hs⟩ := hq
  rw [hr] at hs
  exact ⟨begun, task, hm, h.trans hs⟩

lemma leads_of_isOpen {s : Scanner} (h : s.IsOpen) (run : Run) (records : List Record)
    (begun : List Input)
    (hrest : ∀ (run : Run), Leads disk ⟨run, records, begun, .opening inputs⟩ (pullInputs disk run inputs)) :
    Leads disk ⟨run, records, begun, .scanning s.input.file (s.upcoming disk) (s.ending disk) inputs⟩
      (pull ⟨some s, inputs⟩ disk run) := by
  obtain ⟨s', hn, hu, he, hi, ho⟩ := Scanner.nextRecord_of_isOpen h disk run
  have hreach := Run.reaches_visitAll disk run records begun inputs s.input.file (s.ending disk)
      (s.upcoming disk)
  have hempty := Scan.visitAll_left (fun run found => Run.take run s.input.file found) run (s.upcoming disk)
  generalize Scan.visitAll (fun run found => Run.take run s.input.file found) run (s.upcoming disk) = v at *
  obtain ⟨run', _ | record, ahead⟩ := v
  · have hahead : ahead = [] := hempty rfl
    subst hahead
    rw [Option.toList_none, List.append_nil] at hreach
    cases hending : s.ending disk with
    | none =>
      rw [hending] at hn hreach
      have hpull : pull ⟨some s, inputs⟩ disk run = pullInputs disk run' inputs := by simp [pull, hn]
      rw [hpull]
      exact (hrest run').of_reaches (hreach.tail .ends) rfl
    | some cause =>
      rw [hending] at hn hreach
      have hpull : pull ⟨some s, inputs⟩ disk run = (run', finished, .error (.unreadable cause)) := by
        simp [pull, hn]
      rw [hpull]
      refine ⟨begun, .failed cause, .failed, ?_⟩
      simp only [Except.toOption, Option.join_none, Option.toList_none, List.append_nil]
      exact hreach.tail .fails
  · have hpull : pull ⟨some s, inputs⟩ disk run = (run', ⟨some s', inputs⟩, .ok (some record)) := by
      simp [pull, hn]
    have hm : Matches disk ⟨some s', inputs⟩ _ := .scanning ho
    rw [hi, hu, he (by simp)] at hm
    rw [hpull]
    exact ⟨begun, _, hm, hreach⟩

lemma leads_pullInputs (disk : Disk) (run : Run) (records : List Record)
    (begun inputs : List Input) :
    Leads disk ⟨run, records, begun, .opening inputs⟩ (pullInputs disk run inputs) := by
  induction inputs generalizing run begun with
  | nil =>
    refine ⟨begun, _, .opening, ?_⟩
    simp only [pullInputs, Except.toOption, Option.join_some, Option.toList_none, List.append_nil]
    exact .refl
  | cons input inputs ih =>
    have hopens : Run.Step disk ⟨run, records, begun, .opening (input :: inputs)⟩ _ := .opens
    obtain ⟨s, hs, hi, hf, hn⟩ | ⟨cause, s, hf, hn⟩ := Scanner.nextRecord_make run input disk
    · have hpull : pullInputs disk run (input :: inputs) =
          pull ⟨some s, inputs⟩ disk (run.noteScanning input) := by
        simp only [pullInputs, pull, hn]
      have ho := leads_of_isOpen hs (run.noteScanning input) records (begun ++ [input]) fun run' => ih run' _
      rw [← hf] at hopens
      rw [hi] at ho
      rw [hpull]
      exact ho.of_reaches (.single hopens) rfl
    · have hpull : pullInputs disk run (input :: inputs) =
          (run.noteScanning input, finished, .error (.unreadable cause)) := by
        simp only [pullInputs, hn]
      rw [hf] at hopens
      rw [hpull]
      refine ⟨begun ++ [input], .failed cause, .failed, ?_⟩
      simp only [Except.toOption, Option.join_none, Option.toList_none, List.append_nil]
      exact .head hopens (.single .fails)

lemma leads_pull {st : Stream} {task : Run.Task} (h : st.Matches disk task) (run : Run)
    (records : List Record)
    (begun : List Input) : Leads disk ⟨run, records, begun, task⟩ (st.pull disk run) := by
  cases h with
  | opening => exact leads_pullInputs disk run records begun _
  | scanning ho => exact leads_of_isOpen ho run records begun fun run' =>
    leads_pullInputs disk run' records begun _
  | @failed cause =>
    refine ⟨begun, .failed cause, .failed, ?_⟩
    simp only [pull, finished, pullInputs, Except.toOption, Option.join_some, Option.toList_none,
      List.append_nil]
    exact .refl

lemma reaches_draw {st : Stream} {task : Run.Task} (h : st.Matches disk task) (n : Nat)
    (run : Run)
    (records : List Record) (begun : List Input) :
    ∃ begun' task', Run.Reaches disk ⟨run, records, begun, task⟩
      ⟨(draw disk n st run).1, records ++ (draw disk n st run).2, begun', task'⟩ := by
  induction n generalizing st task run records begun with
  | zero =>
    refine ⟨begun, task, ?_⟩
    simp only [draw, List.append_nil]
    exact .refl
  | succ n ih =>
    obtain ⟨begun₁, task₁, hm, hr⟩ := leads_pull h run records begun
    obtain ⟨begun', task', hd⟩ := ih hm (st.pull disk run).1
      (records ++ (st.pull disk run).2.2.toOption.join.toList) begun₁
    refine ⟨begun', task', hr.trans ?_⟩
    rw [draw, ← List.append_assoc]
    exact hd

end Stream

end CommentDoc
