import CommentDoc.Proofs.Run.Progress

namespace CommentDoc

namespace Run

variable [Text.Edition]

lemma takeAll_visitAll (run : Run) (file : String) (founds : List Found) :
    run.takeAll file founds =
      match Scan.visitAll (fun run found => run.take file found) run founds with
      | (run, none, _) => (run, [])
      | (run, some record, ahead) => ((run.takeAll file ahead).1, record :: (run.takeAll file ahead).2) := by
  induction founds generalizing run with
  | nil => rfl
  | cons found founds ih =>
    rcases ht : run.take file found with ⟨run', _ | record⟩
    · simp only [takeAll, Scan.visitAll, ht, Option.toList_none, List.nil_append]
      exact ih run'
    · simp only [takeAll, Scan.visitAll, ht]
      rfl

def extractFrom (disk : Disk) (run : Run) (file : String) (founds : List Found)
    (ending : Option ReadError) (inputs : List Input) : Extraction :=
  match ending with
  | some cause => ⟨(run.takeAll file founds).1, (run.takeAll file founds).2, some cause⟩
  | none =>
    let later := (run.takeAll file founds).1.extract disk inputs
    { later with records := (run.takeAll file founds).2 ++ later.records }

lemma extract_cons {disk : Disk} {input : Input} {fs : List Found}
    {ending : Option ReadError} {run : Run}
    (h : founds disk (run.delimiters input) input = (fs, ending)) (inputs : List Input) :
    run.extract disk (input :: inputs) =
      (run.noteScanning input).extractFrom disk input.file fs ending inputs := by
  cases ending <;> simp only [extract, h, extractFrom]

end Run

lemma Scan.length_visitAll {σ β : Type} (visit : σ → Found → σ × Option β) (state : σ) (founds : List Found)
    (h : (visitAll visit state founds).2.1 ≠ none) :
    (visitAll visit state founds).2.2.length < founds.length := by
  induction founds generalizing state with
  | nil => exact absurd rfl h
  | cons found founds ih =>
    rw [visitAll] at h ⊢
    rcases hv : visit state found with ⟨state', _ | answer⟩
    · rw [hv] at h
      exact Nat.lt_succ_of_lt (ih state' h)
    · exact Nat.lt_succ_self _

variable [Text.Edition]

namespace Stream

inductive Yields (disk : Disk) : Stream → Run → Run.Extraction → Prop
  | ends {st st' : Stream} {run run' : Run} :
      st.pull disk run = (run', st', .ok none) → Yields disk st run ⟨run', [], none⟩
  | fails {st st' : Stream} {run run' : Run} {cause : ReadError} :
      st.pull disk run = (run', st', .error (.unreadable cause)) → Yields disk st run ⟨run', [], some cause⟩
  | record {st st' : Stream} {run run' : Run} {record : Record} {later : Run.Extraction} :
      st.pull disk run = (run', st', .ok (some record)) → Yields disk st' run' later →
      Yields disk st run { later with records := record :: later.records }

variable {disk : Disk}

lemma Yields.unique {st : Stream} {run : Run} {e e' : Run.Extraction}
    (h : Yields disk st run e)
    (h' : Yields disk st run e') : e = e' := by
  induction h generalizing e' with
  | ends hp => cases h' <;> simp_all
  | fails hp => cases h' <;> simp_all
  | record hp _ ih =>
    cases h' with
    | ends hp' => simp_all
    | fails hp' => simp_all
    | record hp' hl =>
      rw [hp] at hp'
      simp only [Prod.mk.injEq, Except.ok.injEq, Option.some.injEq] at hp'
      obtain ⟨rfl, rfl, rfl⟩ := hp'
      rw [ih hl]

lemma Yields.of_pull_eq {st st' : Stream} {run run' : Run} {e : Run.Extraction}
    (h : st.pull disk run = st'.pull disk run') (ht : Yields disk st' run' e) : Yields disk st run e := by
  cases ht with
  | ends hp => exact .ends (h.trans hp)
  | fails hp => exact .fails (h.trans hp)
  | record hp hl => exact .record (h.trans hp) hl

lemma yields_of_isOpen {inputs : List Input}
    (hrest : ∀ run : Run, Yields disk ⟨none, inputs⟩ run (run.extract disk inputs)) {s : Scanner}
      (h : s.IsOpen)
    (run : Run) :
    Yields disk ⟨some s, inputs⟩ run
      (run.extractFrom disk s.input.file (s.upcoming disk) (s.ending disk) inputs) := by
  -- every record that is drawn leaves fewer blocks in the file
  induction hn : (s.upcoming disk).length using Nat.strongRecOn generalizing s run with
  | ind n ih =>
    obtain ⟨s', hnext, hahead, hending, hinput, hopen⟩ := Scanner.nextRecord_of_isOpen h disk run
    have htake := run.takeAll_visitAll s.input.file (s.upcoming disk)
    have hlength := Scan.length_visitAll (fun run found => Run.take run s.input.file found) run
        (s.upcoming disk)
    generalize Scan.visitAll (fun run found => Run.take run s.input.file found) run (s.upcoming disk) = v at *
    obtain ⟨run', _ | record, ahead⟩ := v
    · cases he : s.ending disk with
      | none =>
        rw [he] at hnext
        have hpull : pull ⟨some s, inputs⟩ disk run = pull ⟨none, inputs⟩ disk run' := by simp [pull, hnext]
        have hfrom : run.extractFrom disk s.input.file (s.upcoming disk) none inputs =
            run'.extract disk inputs := by
          simp only [Run.extractFrom, htake, List.nil_append]
        rw [hfrom]
        exact (hrest run').of_pull_eq hpull
      | some cause =>
        rw [he] at hnext
        have hpull : pull ⟨some s, inputs⟩ disk run = (run', finished, .error (.unreadable cause)) := by
          simp [pull, hnext]
        simp only [Run.extractFrom, htake]
        exact .fails hpull
    · have hpull : pull ⟨some s, inputs⟩ disk run = (run', ⟨some s', inputs⟩, .ok (some record)) := by
        simp [pull, hnext]
      have hlater := ih ahead.length (by simpa [hn] using hlength) hopen run' (by rw [hahead])
      have hrecord := Yields.record hpull hlater
      rw [hahead, hinput, hending (by simp)] at hrecord
      cases he : s.ending disk <;> simpa [Run.extractFrom, htake, he] using hrecord

lemma yields_inputs (disk : Disk) (run : Run) (inputs : List Input) :
    Yields disk ⟨none, inputs⟩ run (run.extract disk inputs) := by
  induction inputs generalizing run with
  | nil => exact .ends rfl
  | cons input inputs ih =>
    obtain ⟨s, hopen, hinput, hfounds, hnext⟩ | ⟨cause, s, hfounds, hnext⟩ :=
      Scanner.nextRecord_make run input disk
    · have hpull : pull ⟨none, input :: inputs⟩ disk run =
          pull ⟨some s, inputs⟩ disk (run.noteScanning input) := by
        simp only [pull, pullInputs, hnext]
      have hfile := yields_of_isOpen ih hopen (run.noteScanning input)
      rw [hinput, ← Run.extract_cons hfounds.symm] at hfile
      exact hfile.of_pull_eq hpull
    · have hpull : pull ⟨none, input :: inputs⟩ disk run =
          (run.noteScanning input, finished, .error (.unreadable cause)) := by
        simp only [pull, pullInputs, hnext]
      rw [Run.extract_cons hfounds]
      exact .fails hpull

theorem yields_iff {run : Run} {inputs : List Input} {e : Run.Extraction} :
    Yields disk (start inputs) run e ↔ e = run.extract disk inputs := by
  have hdraw := yields_inputs disk run inputs
  constructor
  · intro h
    exact h.unique hdraw
  · rintro rfl
    exact hdraw

end Stream

end CommentDoc
