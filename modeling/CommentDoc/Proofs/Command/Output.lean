import CommentDoc.Command.Standard
import CommentDoc.Proofs.Command.Stages
import CommentDoc.Proofs.Disk.Writing
import CommentDoc.Proofs.Record.Writing
import CommentDoc.Proofs.Run.Entries
import CommentDoc.Text.Unicode

/-! No file but the output is touched, and it has the records of the inputs as they were, unless
it is one of the inputs: it is emptied before they are read. -/

namespace CommentDoc.Command

open Text.Utf8 (Octets)

namespace Destination

def put (disk : Disk) (octets : Octets) : Destination → Disk
  | .stdout => disk
  | .file place => disk.putAt place octets

def SameBut (disk disk' : Disk) : Destination → Prop
  | .stdout => disk' = disk
  | .file place => disk.SameBut place disk'

def Is (disk : Disk) (p : Path) (d : Destination) : Prop :=
  ∃ place i, d = .file place ∧ disk.node? place = some (.file i) ∧ disk.fileAt p = .ok i

variable {disk : Disk} {d : Destination} {p : Path} {i : Nat}

lemma put_put (disk : Disk) (octets octets' : Octets) (d : Destination) :
    d.put (d.put disk octets) octets' = d.put disk octets' := by
  cases d with
  | stdout => rfl
  | file place => exact Disk.putAt_putAt disk place octets octets'

lemma sameBut_put (disk : Disk) (octets : Octets) (d : Destination) : d.SameBut disk (d.put disk octets) := by
  cases d with
  | stdout => rfl
  | file place => exact Disk.sameBut_putAt disk place octets

lemma grows_put (disk : Disk) (octets : Octets) (d : Destination) : disk.Grows (d.put disk octets) := by
  cases d with
  | stdout => exact fun _ _ => id
  | file place => exact Disk.grows_putAt disk place octets

lemma faults_put (disk : Disk) (octets : Octets) (d : Destination) :
    (d.put disk octets).faults = disk.faults := by
  cases d with
  | stdout => rfl
  | file place => exact (Disk.sameBut_putAt disk place octets).faults

lemma content_put (hdisk : disk.Sound) (h : disk.fileAt p = .ok i) (hd : ¬ d.Is disk p) (octets : Octets) :
    (d.put disk octets).content i = disk.content i := by
  cases d with
  | stdout => rfl
  | file place =>
    obtain ⟨-, place', -, hnode⟩ := Disk.fileAt_eq_ok_iff.mp h
    have hplace : disk.node? place ≠ some (.file i) := fun hplace => hd ⟨place, i, rfl, hplace, h⟩
    exact (Disk.sameBut_putAt disk place octets).content i (hdisk _ _ hnode) hplace

lemma read_put (hdisk : disk.Sound) (h : disk.fileAt p = .ok i) (hd : ¬ d.Is disk p) (octets : Octets) :
    (d.put disk octets).read p = disk.read p := by
  rw [Disk.read_eq_of_fileAt h, Disk.read_eq_of_fileAt ((grows_put disk octets d).fileAt h),
    content_put hdisk h hd]

end Destination

def Reads (disk : Disk) : Option String → Prop
  | none => False
  | some name => Run.Readable disk (.normal name)

section Inputs

variable {disk : Disk} {name : String}

lemma octets_normal_iff {bs : Octets} :
    Run.octets disk (.normal name) = .ok bs ↔
      hasNull (Path.ofString name).text = false ∧
        ∃ i, disk.openFile (Path.ofString name) = .ok i ∧ disk.readingFault? i = none ∧
          disk.content i = bs := by
  rw [Run.octets_eq_ok_iff]
  have hopen : Run.open? disk (.normal name) =
      if hasNull (Path.ofString name).text then .error .nullInName
      else (disk.openFile (Path.ofString name)).mapError (.failed (Path.ofString name).text) := rfl
  rw [hopen]
  cases hasNull (Path.ofString name).text with
  | true => simp
  | false => cases disk.openFile (Path.ofString name) <;> simp [Except.mapError]

lemma Reads.octets (h : Reads disk (some name)) :
    ∃ i, disk.fileAt (Path.ofString name) = .ok i ∧
      Run.octets disk (.normal name) = .ok (disk.content i) := by
  obtain ⟨ls, hl⟩ := h
  obtain ⟨bs, hbs, -⟩ := Run.octets_of_lines hl
  obtain ⟨-, i, hopen, -, rfl⟩ := octets_normal_iff.mp hbs
  exact ⟨i, (Disk.openFile_eq_ok_iff.mp hopen).1, hbs⟩

lemma Reads.namesFile {p : Option String} (h : Reads disk p) : NamesFile disk p := by
  cases p with
  | none => exact h.elim
  | some name =>
    obtain ⟨i, hfile, hoctets⟩ := h.octets
    obtain ⟨hnull, -⟩ := octets_normal_iff.mp hoctets
    simp [NamesFile, isFile, hnull, hfile]

lemma octets_put {bs : Octets} (h : Run.octets disk (.normal name) = .ok bs) (octets : Octets)
    (d : Destination) :
    ∃ i, disk.fileAt (Path.ofString name) = .ok i ∧
      Run.octets (d.put disk octets) (.normal name) = .ok ((d.put disk octets).content i) := by
  obtain ⟨hnull, i, hopen, hfault, -⟩ := octets_normal_iff.mp h
  have hfaults := Destination.faults_put disk octets d
  refine ⟨i, (Disk.openFile_eq_ok_iff.mp hopen).1, octets_normal_iff.mpr ⟨hnull, i, ?_, ?_, rfl⟩⟩
  · exact Disk.openFile_of_grows (Destination.grows_put disk octets d) hfaults hopen
  · rwa [Disk.readingFault?, hfaults]

end Inputs

lemma prepare_eq_put (disk : Disk) (d : Destination) : prepare disk d = d.put disk [] := by
  cases d <;> rfl

lemma exists_of_mem_inputs {o : Options} {input : Input} (h : input ∈ inputs o) :
    ∃ name, some name ∈ o.paths ∧ input = .normal name := by
  obtain ⟨p, hp, hinput⟩ := List.mem_filterMap.mp h
  obtain ⟨name, rfl, rfl⟩ := Option.map_eq_some_iff.mp hinput
  exact ⟨name, hp, rfl⟩

section Running

variable [Text.Edition] {w : World} {o : Options} {d : Destination}

lemma failure_extraction (hfiles : ∀ p ∈ o.paths, Reads w.disk p) (s : Settings) (d : Destination) :
    (extraction w o s d).failure = none := by
  refine Run.failure_of_readable (fun input hinput => ?_) _
  obtain ⟨name, hname, rfl⟩ := exists_of_mem_inputs hinput
  obtain ⟨_, -, hoctets⟩ := (hfiles _ hname).octets
  obtain ⟨i, -, hafter⟩ := octets_put hoctets [] d
  rw [prepare_eq_put]
  exact ⟨_, Run.lines_of_octets hafter⟩

lemma extraction_of_apart (hdisk : w.disk.Sound) (hfiles : ∀ p ∈ o.paths, Reads w.disk p)
    (hd : ∀ name, some name ∈ o.paths → ¬ d.Is w.disk (Path.ofString name)) (s : Settings) :
    extraction w o s d = (Run.start s.defaultFiletype s.blocks .standard).extract w.disk (inputs o) := by
  refine Run.extract_congr (fun input hinput delimiters => ?_) _
  obtain ⟨name, hname, rfl⟩ := exists_of_mem_inputs hinput
  obtain ⟨i, hfile, hoctets⟩ := (hfiles _ hname).octets
  obtain ⟨i', hfile', hafter⟩ := octets_put hoctets [] d
  obtain rfl : i = i' := Except.ok.inj (hfile.symm.trans hfile')
  rw [Destination.content_put hdisk hfile (hd name hname)] at hafter
  rw [prepare_eq_put, Run.founds_of_lines _ (Run.lines_of_octets hafter),
    Run.founds_of_lines _ (Run.lines_of_octets hoctets)]

end Running

def Published (e : Effect) (text : String) : (output : Option String) → Prop
  | none => e.stdout = text
  | some "-" => e.stdout = text
  | some name => e.stdout = "" ∧ e.disk.read (Path.ofString name) = .ok (Text.Utf8.encode text.toList)

lemma published_some_iff {e : Effect} {text name : String} (hname : name ≠ "-") :
    Published e text (some name) ↔
      e.stdout = "" ∧ e.disk.read (Path.ofString name) = .ok (Text.Utf8.encode text.toList) := by
  rw [Published]
  exact hname

section Publishing

variable [Text.Edition] [Packages]

lemma disk_completion (w : World) (o : Options) (s : Settings) (d : Destination) :
    (completion w o s d).disk = d.put w.disk (Text.Utf8.encode (extraction w o s d).text.toList) := by
  have hput : (completion w o s d).disk =
      d.put (prepare w.disk d) (Text.Utf8.encode (extraction w o s d).text.toList) := by
    cases d <;> rfl
  rw [hput, prepare_eq_put, Destination.put_put]

lemma published_completion {w : World} {o : Options} {d : Destination} (hdisk : w.disk.Sound)
    (hout : destination w.disk o.output = .ok d) (s : Settings) :
    Published (completion w o s d) (extraction w o s d).text o.output := by
  unfold destination at hout
  split at hout
  next houtput =>
    obtain rfl := Except.ok.inj hout
    rw [houtput]
    rfl
  next houtput =>
    obtain rfl := Except.ok.inj hout
    rw [houtput]
    rfl
  next name hdash houtput =>
    cases htarget : w.disk.target (Path.ofString name) with
    | error cause =>
      rw [htarget] at hout
      cases hout
    | ok place =>
      rw [htarget] at hout
      obtain rfl := Except.ok.inj hout
      rw [houtput, published_some_iff hdash, disk_completion]
      exact ⟨rfl, Disk.read_putAt hdisk htarget _⟩

theorem inputs_are_published [Scalars] (w : World) (tokens : List String) (o : Options)
    (as : List EnvFile.Assignment) (s : Settings) (d : Destination) (hdisk : w.disk.Sound)
    (hparse : invocation tokens = .extract o) (hs : Configured w o as s) (hne : o.paths ≠ [])
    (hfiles : ∀ p ∈ o.paths, Reads w.disk p) (hout : Opens w.disk o.output d) :
    ∃ e, run w tokens = .finished e ∧ e.status = 0 ∧ d.SameBut w.disk e.disk ∧
      ((∀ name, some name ∈ o.paths → ¬ d.Is w.disk (Path.ofString name)) →
        Published e ((Run.start s.defaultFiletype s.blocks .standard).extract w.disk
          (inputs o)).text o.output ∧
        ∀ name, some name ∈ o.paths →
          e.disk.read (Path.ofString name) = w.disk.read (Path.ofString name)) := by
  have hnames : ∀ p ∈ o.paths, NamesFile w.disk p := fun p hp => (hfiles p hp).namesFile
  refine ⟨completion w o s d, run_of_opens hparse hs hne hnames hout, ?_, ?_, fun hd =>
    ⟨?_, fun name hname => ?_⟩⟩
  · have hstatus : (completion w o s d).status = if (extraction w o s d).failure.isSome then 1 else 0 := rfl
    rw [hstatus, failure_extraction hfiles]
    rfl
  · rw [disk_completion]
    exact Destination.sameBut_put _ _ _
  · rw [← extraction_of_apart hdisk hfiles hd]
    exact published_completion hdisk hout.2 s
  · obtain ⟨i, hfile, -⟩ := (hfiles _ hname).octets
    rw [disk_completion]
    exact Destination.read_put hdisk hfile (hd name hname) _

end Publishing

def shelf : World where
  disk := ((Disk.empty.addFile (Path.ofString "a.sh") (Text.Utf8.encode "##\n# text\n##\n".toList)).addFile
    (Path.ofString "lib/b.sh") (Text.Utf8.encode "##\n# f - g\nf() \x7b\n".toList)).addFile
    (Path.ofString "out.jsonl") (Text.Utf8.encode "older\n".toList)
  environment := []

def ontoOlderOutput : Options :=
  ⟨[some "a.sh", some "./lib/b.sh"], false, true, some "out.jsonl", none, false⟩

theorem inputs_published_onto_older_output :
    invocation ["-g", "a.sh", "-oout.jsonl", "./lib/b.sh"] = .extract ontoOlderOutput ∧
      (∀ p ∈ ontoOlderOutput.paths, Reads shelf.disk p) ∧
      ∃ e, run shelf ["-g", "a.sh", "-oout.jsonl", "./lib/b.sh"] = .finished e ∧ e.status = 0 ∧
        e.stdout = "" ∧
        e.disk.read (Path.ofString "out.jsonl") = .ok (Text.Utf8.encode
          (Record.writeAll [⟨0, .generic, "none", "a.sh", ⟨1, 1⟩, .generic ["text"]⟩]).toList) ∧
        e.disk.read (Path.ofString "a.sh") = .ok (Text.Utf8.encode "##\n# text\n##\n".toList) := by
  have hdisk : shelf.disk.Sound := ((Disk.sound_empty.addFile _ _).addFile _ _).addFile _ _
  have hparse : invocation ["-g", "a.sh", "-oout.jsonl", "./lib/b.sh"] =
      .extract ontoOlderOutput := by decide +kernel
  have hs : Configured shelf ontoOlderOutput [] ⟨"", .generic, 30, true⟩ :=
    configured_of_toOption (by decide +kernel) (by decide +kernel)
  have hfiles : ∀ p ∈ ontoOlderOutput.paths, Reads shelf.disk p := by
    intro p hp
    rcases List.mem_pair.mp hp with rfl | rfl
    · exact ⟨["##", "# text", "##"], by decide +kernel⟩
    · exact ⟨["##", "# f - g", "f() \x7b"], by decide +kernel⟩
  have hout : Opens shelf.disk ontoOlderOutput.output (.file ["home", "out.jsonl"]) :=
    ⟨by decide +kernel, rfl⟩
  obtain ⟨e, hrun, hstatus, -, hpublished⟩ :=
    inputs_are_published shelf _ _ _ _ _ hdisk hparse hs (by decide) hfiles hout
  have hapart : ∀ name, some name ∈ ontoOlderOutput.paths →
      ¬ Destination.Is shelf.disk (Path.ofString name) (.file ["home", "out.jsonl"]) := by
    rintro name hname ⟨place, i, hplace, hnode, hfile⟩
    obtain rfl := Destination.file.inj hplace
    have hi : shelf.disk.node? ["home", "out.jsonl"] = some (.file 2) := by decide +kernel
    obtain rfl := Node.file.inj (Option.some.inj (hi.symm.trans hnode))
    rcases List.mem_pair.mp hname with hname | hname <;> obtain rfl := Option.some.inj hname
    · exact absurd hfile (by decide +kernel)
    · exact absurd hfile (by decide +kernel)
  obtain ⟨hpub, hinputs⟩ := hpublished hapart
  obtain ⟨hstdout, hread⟩ := (published_some_iff (by decide : "out.jsonl" ≠ "-")).mp hpub
  have hrecords : ((Run.start "" .generic .standard).extract shelf.disk (inputs ontoOlderOutput)).records =
      [⟨0, .generic, "none", "a.sh", ⟨1, 1⟩, .generic ["text"]⟩] := by decide +kernel
  refine ⟨hparse, hfiles, e, hrun, hstatus, hstdout, hread.trans ?_,
    (hinputs "a.sh" (by decide)).trans (by decide +kernel)⟩
  rw [Run.Extraction.text_eq, hrecords]

theorem output_onto_input_loses_input :
    invocation ["-o", "a.sh", "a.sh"] = .extract ⟨[some "a.sh"], false, false, some "a.sh", none, false⟩ ∧
      NamesFile shelf.disk (some "a.sh") ∧ Opens shelf.disk (some "a.sh") (.file ["home", "a.sh"]) ∧
      ((Run.start "" .all .standard).extract shelf.disk [.normal "a.sh"]).text ≠ "" ∧
      run shelf ["-o", "a.sh", "a.sh"] = .finished ⟨0, "", "", shelf.disk.putAt ["home", "a.sh"] []⟩ :=
  ⟨by decide +kernel, by decide +kernel, ⟨by decide +kernel, rfl⟩, by decide +kernel, by decide +kernel⟩

end CommentDoc.Command
