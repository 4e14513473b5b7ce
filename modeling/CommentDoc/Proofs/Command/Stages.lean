import CommentDoc.Command.Basic
import CommentDoc.Proofs.Scan.Segmentation

/-! The stages of the command: its settings, its paths, its output and then the files. How it ends
tells which stage ended it. -/

namespace CommentDoc.Command

def NamesFile (disk : Disk) : Option String → Prop
  | none => False
  | some name => isFile disk (Path.ofString name) = .ok true

def Unclear (disk : Disk) (name : String) (cause : FileError) : Prop :=
  isFile disk (Path.ofString name) = .error cause

/-- Of the paths that lead to no file, `p` is the first. -/
def FirstMissing (disk : Disk) (paths : List (Option String)) (p : Option String) : Prop :=
  ∃ before after, paths = before ++ p :: after ∧ (∀ q ∈ before, NamesFile disk q) ∧ ¬ NamesFile disk p

section Paths

variable {disk : Disk} {paths : List (Option String)} {name : String} {cause : FileError}

instance (disk : Disk) (p : Option String) : Decidable (NamesFile disk p) :=
  match p with
  | none => .isFalse id
  | some name => inferInstanceAs (Decidable (isFile disk (Path.ofString name) = .ok true))

lemma isFile_of_missing (hfile : ¬ NamesFile disk (some name)) (hclear : ∀ cause, ¬ Unclear disk name cause) :
    isFile disk (Path.ofString name) = .ok false := by
  cases h : isFile disk (Path.ofString name) with
  | error cause => exact absurd h (hclear cause)
  | ok found =>
    cases found with
    | false => rfl
    | true => exact absurd h hfile

lemma obstacle?_cons (disk : Disk) (name : String) (rest : List (Option String)) :
    obstacle? disk (some name :: rest) =
      match isFile disk (Path.ofString name) with
      | .error e => some (.refused e (Path.ofString name).text)
      | .ok false => some (.noFile (Path.ofString name).text)
      | .ok true => obstacle? disk rest := by
  have hcons := obstacle?.eq_def disk (some name :: rest)
  cases hfile : isFile disk (Path.ofString name) with
  | error e => simp only [hcons, hfile]
  | ok found => cases found <;> simp only [hcons, hfile]

lemma obstacle?_append {before : List (Option String)} (h : ∀ p ∈ before, NamesFile disk p)
    (after : List (Option String)) : obstacle? disk (before ++ after) = obstacle? disk after := by
  induction before with
  | nil => rfl
  | cons p before ih =>
    obtain ⟨hp, hbefore⟩ := List.forall_mem_cons.mp h
    cases p with
    | none => exact hp.elim
    | some name =>
      have hfile : isFile disk (Path.ofString name) = .ok true := hp
      simp only [List.cons_append, obstacle?_cons, hfile, ih hbefore]

lemma obstacle?_of_files (h : ∀ p ∈ paths, NamesFile disk p) : obstacle? disk paths = none := by
  rw [← List.append_nil paths, obstacle?_append h]
  rfl

lemma FirstMissing.obstacle?_none (h : FirstMissing disk paths none) :
    obstacle? disk paths = some .noPath := by
  obtain ⟨before, after, rfl, hbefore, -⟩ := h
  rw [obstacle?_append hbefore]
  rfl

lemma FirstMissing.obstacle?_unclear (h : FirstMissing disk paths (some name))
    (hcause : Unclear disk name cause) :
    obstacle? disk paths = some (.refused cause (Path.ofString name).text) := by
  obtain ⟨before, after, rfl, hbefore, -⟩ := h
  have hfile : isFile disk (Path.ofString name) = .error cause := hcause
  simp only [obstacle?_append hbefore, obstacle?_cons, hfile]

lemma FirstMissing.obstacle?_noFile (h : FirstMissing disk paths (some name))
    (hclear : ∀ cause, ¬ Unclear disk name cause) :
    obstacle? disk paths = some (.noFile (Path.ofString name).text) := by
  obtain ⟨before, after, rfl, hbefore, hfile⟩ := h
  simp only [obstacle?_append hbefore, obstacle?_cons, isFile_of_missing hfile hclear]

lemma files_or_firstMissing (disk : Disk) (paths : List (Option String)) :
    (∀ p ∈ paths, NamesFile disk p) ∨ ∃ p, FirstMissing disk paths p := by
  induction paths with
  | nil => exact Or.inl (by simp)
  | cons p paths ih =>
    by_cases hp : NamesFile disk p
    · rcases ih with h | ⟨q, before, after, rfl, hbefore, hq⟩
      · exact Or.inl (List.forall_mem_cons.mpr ⟨hp, h⟩)
      · exact Or.inr ⟨q, p :: before, after, rfl, List.forall_mem_cons.mpr ⟨hp, hbefore⟩, hq⟩
    · exact Or.inr ⟨p, [], paths, rfl, by simp, hp⟩

lemma FirstMissing.ne_nil {p : Option String} (h : FirstMissing disk paths p) : paths ≠ [] := by
  obtain ⟨before, after, rfl, -, -⟩ := h
  simp

lemma FirstMissing.not_files {p : Option String} (h : FirstMissing disk paths p) :
    ¬ ∀ q ∈ paths, NamesFile disk q := by
  obtain ⟨before, after, rfl, -, hp⟩ := h
  exact fun hall => hp (hall p (by simp))

lemma FirstMissing.unique {p q : Option String} (hp : FirstMissing disk paths p)
    (hq : FirstMissing disk paths q) :
    p = q := by
  obtain ⟨before, after, hpaths, hbefore, hp⟩ := hp
  obtain ⟨before', after', hpaths', hbefore', hq⟩ := hq
  exact (Segmentation.append_cons_unique (P := fun p => ¬ NamesFile disk p) (by simpa using hbefore)
    (by simpa using hbefore') hp hq (hpaths.symm.trans hpaths')).2.1

end Paths

variable [Text.Edition] [Packages]

def Opens (disk : Disk) (output : Option String) (d : Destination) : Prop :=
  (output.map hasNull).getD false = false ∧ destination disk output = .ok d

def inputs (o : Options) : List Input :=
  o.paths.filterMap (·.map Input.normal)

def extraction (w : World) (o : Options) (s : Settings) (d : Destination) : Run.Extraction :=
  (Run.start s.defaultFiletype s.blocks .standard).extract (prepare w.disk d) (inputs o)

def completion (w : World) (o : Options) (s : Settings) (d : Destination) : Effect :=
  effect (prepare w.disk d) (LogStyle.ofSettings s o.quiet) d (extraction w o s d)

section Extracting

variable {w : World} {o : Options} {s : Settings}

lemma extract_of_files (hne : o.paths ≠ []) (hfiles : ∀ p ∈ o.paths, NamesFile w.disk p)
    (hnull : (o.output.map hasNull).getD false = false) :
    extract w o s =
      match destination w.disk o.output with
      | .error _ => .finished (gaveUp w (.noOutput (o.output.getD "")))
      | .ok d => .finished (completion w o s d) := by
  have hempty : o.paths.isEmpty = false := by simpa using hne
  simp only [extract, hempty, obstacle?_of_files hfiles, hnull]
  cases destination w.disk o.output <;> rfl

lemma extract_of_null (hne : o.paths ≠ []) (hfiles : ∀ p ∈ o.paths, NamesFile w.disk p)
    (hnull : (o.output.map hasNull).getD false = true) : extract w o s = .nullInName := by
  have hempty : o.paths.isEmpty = false := by simpa using hne
  simp only [extract, hempty, obstacle?_of_files hfiles, hnull]
  rfl

lemma extract_of_obstacle {obstacle : Obstacle} (h : obstacle? w.disk o.paths = some obstacle) :
    extract w o s =
      match obstacle with
      | .noFile path => .finished (gaveUp w (.noFile path))
      | .refused e name => .refused e name
      | .noPath => .noPath := by
  have hempty : o.paths.isEmpty = false := by
    cases hpaths : o.paths with
    | nil =>
      rw [hpaths] at h
      cases h
    | cons p paths => rfl
  simp only [extract, hempty, h]
  cases obstacle <;> rfl

end Extracting

variable [Scalars]

structure Configured (w : World) (o : Options) (as : List EnvFile.Assignment) (s : Settings) : Prop where
  assignments : envAssignments w = .ok as
  settings : settings (sources w as) o = .ok s

/-- How the command ends, by the stage that ends it. -/
inductive Ends (w : World) (o : Options) : Outcome → Prop
  | badEnvironment {failure} : envAssignments w = .error failure → Ends w o (.noEnvironment failure)
  | badSettings {as f} : envAssignments w = .ok as → settings (sources w as) o = .error f →
      Ends w o (.finished (gaveUp w f))
  | noPaths {as s} : Configured w o as s → o.paths = [] → Ends w o (.finished (gaveUp w .noInputFiles))
  | nullPath {as s} : Configured w o as s → FirstMissing w.disk o.paths none → Ends w o .noPath
  | unclear {as s name cause} : Configured w o as s → FirstMissing w.disk o.paths (some name) →
      Unclear w.disk name cause → Ends w o (.refused cause (Path.ofString name).text)
  | missing {as s name} : Configured w o as s → FirstMissing w.disk o.paths (some name) →
      (∀ cause, ¬ Unclear w.disk name cause) →
      Ends w o (.finished (gaveUp w (.noFile (Path.ofString name).text)))
  | badOutputName {as s} : Configured w o as s → o.paths ≠ [] → (∀ p ∈ o.paths, NamesFile w.disk p) →
      (o.output.map hasNull).getD false = true → Ends w o .nullInName
  | noOutput {as s cause} : Configured w o as s → o.paths ≠ [] → (∀ p ∈ o.paths, NamesFile w.disk p) →
      (o.output.map hasNull).getD false = false → destination w.disk o.output = .error cause →
      Ends w o (.finished (gaveUp w (.noOutput (o.output.getD ""))))
  | extracts {as s d} : Configured w o as s → o.paths ≠ [] → (∀ p ∈ o.paths, NamesFile w.disk p) →
      Opens w.disk o.output d → Ends w o (.finished (completion w o s d))

section Settings

variable {w : World} {o : Options} {sources : Settings.Sources} {s : Settings}

lemma configured_of_toOption {as : List EnvFile.Assignment} (has : envAssignments w = .ok as)
    (hs : (Command.settings (Command.sources w as) o).toOption = some s) : Configured w o as s := by
  refine ⟨has, ?_⟩
  cases h : Command.settings (Command.sources w as) o with
  | error f =>
    rw [h] at hs
    cases hs
  | ok s' =>
    rw [h] at hs
    rw [Option.some.inj hs]

lemma settings_error {f : Fatal} (h : settings sources o = .error f) :
    (∃ invalid, f = .settings sources invalid) ∨ f = .exclusiveSelectors := by
  unfold settings at h
  cases hload : Settings.load (Packages.value? sources) with
  | error invalid =>
    rw [hload] at h
    exact Or.inl ⟨invalid, (Except.error.inj h).symm⟩
  | ok s =>
    rw [hload] at h
    cases hsel : selection? o with
    | ok selection =>
      rw [hsel] at h
      cases h
    | error f' =>
      rw [hsel] at h
      obtain rfl : f' = f := Except.error.inj h
      unfold selection? at hsel
      split at hsel
      · exact Or.inr (Except.error.inj hsel).symm
      · split at hsel
        · cases hsel
        · split at hsel <;> cases hsel

end Settings

variable {w : World} {o : Options} {as : List EnvFile.Assignment} {s : Settings} {tokens : List String}

lemma run_of_configured (hparse : invocation tokens = .extract o) (hs : Configured w o as s) :
    run w tokens = extract w o s := by
  simp only [run, hparse, hs.assignments, hs.settings]

lemma run_of_opens {d : Destination} (hparse : invocation tokens = .extract o) (hs : Configured w o as s)
    (hne : o.paths ≠ []) (hfiles : ∀ p ∈ o.paths, NamesFile w.disk p) (hout : Opens w.disk o.output d) :
    run w tokens = .finished (completion w o s d) := by
  rw [run_of_configured hparse hs, extract_of_files hne hfiles hout.1, hout.2]

lemma ends_extract (hs : Configured w o as s) : Ends w o (extract w o s) := by
  rcases files_or_firstMissing w.disk o.paths with hfiles | ⟨p, hp⟩
  · by_cases hne : o.paths = []
    · have hextract : extract w o s = .finished (gaveUp w .noInputFiles) := by
        simp only [extract, hne]
        rfl
      rw [hextract]
      exact .noPaths hs hne
    cases hnull : (o.output.map hasNull).getD false with
    | true =>
      rw [extract_of_null hne hfiles hnull]
      exact .badOutputName hs hne hfiles hnull
    | false =>
      rw [extract_of_files hne hfiles hnull]
      cases hout : destination w.disk o.output with
      | error cause => exact .noOutput hs hne hfiles hnull hout
      | ok d => exact .extracts hs hne hfiles ⟨hnull, hout⟩
  · cases p with
    | none =>
      rw [extract_of_obstacle hp.obstacle?_none]
      exact .nullPath hs hp
    | some name =>
      by_cases hclear : ∃ cause, Unclear w.disk name cause
      · obtain ⟨cause, hcause⟩ := hclear
        rw [extract_of_obstacle (hp.obstacle?_unclear hcause)]
        exact .unclear hs hp hcause
      · have hclear := not_exists.mp hclear
        rw [extract_of_obstacle (hp.obstacle?_noFile hclear)]
        exact .missing hs hp hclear

theorem ends_run (hparse : invocation tokens = .extract o) : Ends w o (run w tokens) := by
  cases has : envAssignments w with
  | error failure =>
    have hrun : run w tokens = .noEnvironment failure := by simp only [run, hparse, has]
    rw [hrun]
    exact .badEnvironment has
  | ok as =>
    cases hs : settings (sources w as) o with
    | error f =>
      have hrun : run w tokens = .finished (gaveUp w f) := by simp only [run, hparse, has, hs]
      rw [hrun]
      exact .badSettings has hs
    | ok s =>
      rw [run_of_configured hparse ⟨has, hs⟩]
      exact ends_extract ⟨has, hs⟩

end CommentDoc.Command
