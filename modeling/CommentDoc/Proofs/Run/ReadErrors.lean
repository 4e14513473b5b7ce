import CommentDoc.Proofs.Run.Drawing
import CommentDoc.Proofs.Run.Entries
import CommentDoc.Text.Unicode

namespace CommentDoc

namespace Run

structure CannotOpen (disk : Disk) (input : Input) (cause : FileError) : Prop where
  encodable : input.stray = none
  name : input.path.text.toList.any isNull = false
  error : disk.openFile input.path = .error cause

def BreaksOff (disk : Disk) (input : Input) (cause : FileError) : Prop :=
  ∃ identity, open? disk input = .ok identity ∧ disk.readingFault? identity = some cause

lemma open?_error_cases {disk : Disk} {input : Input} {e : ReadError} (h : open? disk input = .error e) :
    (∃ half, e = .notEncodable half ∧ input.stray = some half) ∨
    (e = .nullInName ∧ input.path.text.toList.any isNull = true) ∨
    ∃ cause, e = .failed input.file cause ∧ CannotOpen disk input cause := by
  unfold open? at h
  split at h
  next half hs => exact .inl ⟨half, (Except.error.inj h).symm, hs⟩
  next hs =>
    split at h
    next hn => exact .inr (.inl ⟨(Except.error.inj h).symm, hn⟩)
    next hn =>
      cases he : disk.openFile input.path with
      | ok identity => simp [he, Except.mapError] at h
      | error cause =>
        rw [he] at h
        exact .inr (.inr ⟨cause, (Except.error.inj h).symm, hs, eq_false_of_ne_true hn, he⟩)

lemma open?_eq_failed_iff {disk : Disk} {input : Input} {file : String} {cause : FileError} :
    open? disk input = .error (.failed file cause) ↔ file = input.file ∧ CannotOpen disk input cause := by
  constructor
  · intro h
    rcases open?_error_cases h with ⟨half, he, -⟩ | ⟨he, -⟩ | ⟨cause', he, hcause⟩
    · cases he
    · cases he
    · obtain ⟨rfl, rfl⟩ := ReadError.failed.inj he
      exact ⟨rfl, hcause⟩
  · rintro ⟨rfl, hs, hn, he⟩
    simp [open?, hs, hn, he, Except.mapError]

lemma breaksOff_iff {disk : Disk} {input : Input} {identity : Nat} {cause : FileError}
    (ho : open? disk input = .ok identity) :
    BreaksOff disk input cause ↔ disk.readingFault? identity = some cause := by
  constructor
  · rintro ⟨identity', hi, hf⟩
    obtain rfl := Except.ok.inj (ho.symm.trans hi)
    exact hf
  · intro hf
    exact ⟨identity, ho, hf⟩

lemma lines_eq_failed_iff {disk : Disk} {input : Input} {file : String} {cause : FileError} :
    lines disk input = .error (.failed file cause) ↔
      file = input.file ∧ (CannotOpen disk input cause ∨ BreaksOff disk input cause) := by
  have hlines : lines disk input = .error (.failed file cause) ↔
      octets disk input = .error (.failed file cause) := by
    cases hb : octets disk input <;> simp [lines, hb, Except.map]
  rw [hlines]
  cases ho : open? disk input with
  | error e =>
    have hbreaks : ¬ BreaksOff disk input cause := by
      rintro ⟨identity, hi, -⟩
      cases ho.symm.trans hi
    rw [or_iff_left hbreaks, ← open?_eq_failed_iff, ho]
    simp [octets, ho]
  | ok identity =>
    have hopen : ¬ CannotOpen disk input cause := by
      intro hc
      cases ho.symm.trans (open?_eq_failed_iff.mpr ⟨rfl, hc⟩)
    rw [or_iff_right hopen, breaksOff_iff ho]
    cases hf : disk.readingFault? identity with
    | none => simp [octets, ho, hf]
    | some error => simp [octets, ho, hf, eq_comm]

lemma unreadable_of_failure [Text.Edition] {disk : Disk} {run : Run} {inputs : List Input} {cause : ReadError}
    (h : (run.extract disk inputs).failure = some cause) :
    ∃ input ∈ inputs, lines disk input = .error cause := by
  rcases readable_cases disk inputs with hr | ⟨before, input, after, cause', rfl, hbefore, hcause⟩
  · rw [failure_of_readable hr] at h
    cases h
  · rw [failure_of_unreadable hbefore hcause] at h
    obtain rfl : cause' = cause := Option.some.inj h
    exact ⟨input, by simp, hcause⟩

end Run

lemma ReadError.message_failed [Text.Edition] (file : String) (cause : FileError) :
    (ReadError.failed file cause).message =
      "unable to read file: " ++ cause.message ++ " (file: " ++ file ++ ")" := by
  have htexts : Failure.detailTexts
      ⟨.sourceRead, "unable to read file: " ++ cause.message, [("file_path", .text file)]⟩ =
        ["file: " ++ file] := rfl
  have hopening : " (" ++ ("file: " ++ (file ++ ")")) = " (file: " ++ (file ++ ")") :=
    String.append_assoc.symm
  simpa [message, Failure.text, htexts, String.append_assoc] using hopening

theorem read_error_cuts_run [Text.Edition] (disk : Disk) (run : Run) :
    (∀ (before : List Input) (input : Input) (after : List Input) (cause : FileError),
      (∀ i ∈ before, Run.Readable disk i) → Run.CannotOpen disk input cause →
      let complete := run.extract disk before
      let cut := run.extract disk (before ++ input :: after)
      complete.failure = none ∧
      cut.failure = some (.failed input.file cause) ∧
      (ReadError.failed input.file cause).message =
        "unable to read file: " ++ cause.message ++ " (file: " ++ input.file ++ ")" ∧
      cut.records = complete.records ∧ cut.text = complete.text ∧
      cut.run.blocks = complete.run.blocks ∧ cut.run.diagnostics = complete.run.diagnostics ∧
      ∀ drawn, Stream.Yields disk (.start (before ++ input :: after)) run drawn ↔ drawn = cut) ∧
    ∀ (inputs : List Input) (file : String) (cause : FileError),
      (run.extract disk inputs).failure = some (.failed file cause) →
      ∃ input ∈ inputs, file = input.file ∧
        (Run.CannotOpen disk input cause ∨ Run.BreaksOff disk input cause) := by
  constructor
  · intro before input after cause hbefore hinput complete cut
    have ho : Run.open? disk input = .error (.failed input.file cause) :=
      Run.open?_eq_failed_iff.mpr ⟨rfl, hinput⟩
    have hcut : cut = ⟨complete.run.noteScanning input, complete.records, some (.failed input.file cause)⟩ :=
      Run.extract_unopened hbefore ho run after
    refine ⟨Run.failure_of_readable hbefore run, by rw [hcut], ReadError.message_failed _ _,
      by rw [hcut], ?_, ?_, ?_,
      fun drawn => Stream.yields_iff⟩
    · rw [hcut]
      rfl
    · rw [hcut]
      rfl
    · rw [hcut]
      exact Run.diagnostics_scanning _ _ _ _
  · intro inputs file cause h
    obtain ⟨input, hm, hl⟩ := Run.unreadable_of_failure h
    exact ⟨input, hm, Run.lines_eq_failed_iff.mp hl⟩

def strayFileDisk : Disk :=
  Disk.empty.addFile (Path.ofString "a.sh") (Text.Utf8.encode (Source.text ["##", "# text", "stray"]))

theorem read_error_between_readable_files :
    let inputs := [Input.verbatim "a.sh"] ++ .verbatim "./b.sh" :: [.verbatim "a.sh"]
    let cut := (Run.start "" .all .standard).extract strayFileDisk inputs
    Run.Readable strayFileDisk (.verbatim "a.sh") ∧
    Run.CannotOpen strayFileDisk (.verbatim "./b.sh") .noEntry ∧
      cut.failure = some (.failed "./b.sh" .noEntry) ∧
      cut.run.blocks = [⟨0, .generic, "none", "a.sh", ⟨1, 1⟩, ["text"]⟩] ∧
      cut.run.diagnostics = [⟨.warning, "unclosed block", "a.sh", 3⟩] := by
  intro inputs cut
  have hread : Run.Readable strayFileDisk (.verbatim "a.sh") := ⟨["##", "# text", "stray"], by decide +kernel⟩
  have hopen : Run.CannotOpen strayFileDisk (.verbatim "./b.sh") .noEntry :=
    ⟨rfl, by decide, by decide⟩
  have hblocks : ((Run.start "" .all .standard).extract strayFileDisk [.verbatim "a.sh"]).run.blocks =
      [⟨0, .generic, "none", "a.sh", ⟨1, 1⟩, ["text"]⟩] := by decide +kernel
  have hdiagnostics :
      ((Run.start "" .all .standard).extract strayFileDisk [.verbatim "a.sh"]).run.diagnostics =
      [⟨.warning, "unclosed block", "a.sh", 3⟩] := by decide +kernel
  obtain ⟨-, hfailure, -, -, -, hcut, hcut', -⟩ :=
    (read_error_cuts_run strayFileDisk (.start "" .all .standard)).1
    [.verbatim "a.sh"] (.verbatim "./b.sh") [.verbatim "a.sh"] .noEntry (by simpa using hread) hopen
  exact ⟨hread, hopen, hfailure, hcut.trans hblocks, hcut'.trans hdiagnostics⟩

end CommentDoc
