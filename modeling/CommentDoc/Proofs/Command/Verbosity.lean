import CommentDoc.Proofs.Command.Stages
import CommentDoc.Proofs.Command.Standard
import CommentDoc.Proofs.Settings.Verbosity

/-! How much is logged, and how, shows on standard error only, as long as the environment file
makes nothing else of it. -/

namespace CommentDoc

def Outcome.data : Outcome → Outcome
  | .finished e => .finished { e with stderr := "" }
  | outcome => outcome

namespace LogEntry

def line [Text.Edition] (e : LogEntry) : String :=
  e.levelName ++ ": " ++ e.message ++ "\n"

def isError (e : LogEntry) : Bool :=
  LogStyle.errorLevel ≤ e.level

lemma line_error [Text.Edition] {d : Diagnostic} (h : d.severity = .error) :
    line (.report d) = "ERROR: " ++ d.file ++ ":" ++ toString d.line ++ ": " ++ d.message ++ "\n" := by
  have hname : levelName (.report d) = "ERROR" := congrArg Labelled.name h
  have hmessage : message (.report d) = d.text := rfl
  have hlead : "ERROR: " = "ERROR" ++ ": " := rfl
  simp only [line, hname, hmessage, hlead, Diagnostic.text, String.append_assoc]

lemma level_le_errorLevel (e : LogEntry) : e.level ≤ LogStyle.errorLevel := by
  cases e with
  | scanning => simp [level, LogStyle.errorLevel]
  | report d =>
    rw [level]
    split <;> decide

lemma filter_isError (log : List LogEntry) :
    log.filter isError = ((log.filterMap diagnostic?).filter (·.severity = .error)).map .report := by
  induction log with
  | nil => rfl
  | cons e log ih =>
    cases e with
    | scanning => exact ih
    | report d =>
      obtain ⟨severity, message, file, line⟩ := d
      cases severity
      · exact ih
      · exact congrArg (LogEntry.report _ :: ·) ih

end LogEntry

namespace LogStyle

def shown (style : LogStyle) (log : List LogEntry) : List LogEntry :=
  log.filter fun e => style.threshold ≤ e.level

lemma render_plain [Text.Edition] [Packages] {style : LogStyle} (h : style.rich = false)
    (log : List LogEntry) :
    style.render log = String.join ((style.shown log).map LogEntry.line) := by
  have hline : style.line = LogEntry.line := by
    funext e
    rw [line, h]
    rfl
  rw [render, hline, shown]

variable {s : Settings} {log : List LogEntry}

lemma threshold_quiet (s : Settings) : (ofSettings s true).threshold = max s.logLevel errorLevel := by
  have hne : max s.logLevel errorLevel ≠ 0 := by
    simp only [errorLevel]
    omega
  simp only [ofSettings, if_true, effective, if_neg hne]

lemma shown_quiet (s : Settings) (log : List LogEntry) :
    (ofSettings s true).shown log = ((ofSettings s false).shown log).filter LogEntry.isError := by
  rw [shown, shown, List.filter_filter, threshold_quiet]
  congr 1
  funext e
  have hthreshold : max s.logLevel errorLevel ≤ e.level ↔
      errorLevel ≤ e.level ∧ (ofSettings s false).threshold ≤ e.level := by
    simp only [ofSettings, Bool.false_eq_true, if_false, effective, errorLevel, Settings.warningLevel]
    split <;> omega
  simp only [LogEntry.isError, hthreshold, Bool.decide_and]

lemma shown_quiet_of_le (h : s.logLevel ≤ errorLevel) :
    (ofSettings s true).shown log = log.filter LogEntry.isError := by
  have hmax : max s.logLevel errorLevel = errorLevel := by omega
  rw [shown, threshold_quiet, hmax]
  rfl

lemma shown_quiet_of_lt (h : errorLevel < s.logLevel) : (ofSettings s true).shown log = [] := by
  rw [shown, threshold_quiet, List.filter_eq_nil_iff]
  intro e _
  have hlevel := e.level_le_errorLevel
  rw [decide_eq_true_eq]
  omega

end LogStyle

namespace Invocation

lemma aloud_cases {i i' : Invocation} (h : i'.aloud = i.aloud) :
    (∃ o quiet, i = .extract o ∧ i' = .extract { o with quiet := quiet }) ∨
    (i' = i ∧ ∀ o, i ≠ .extract o) := by
  cases i with
  | extract o =>
    cases i' with
    | extract o' =>
      obtain ⟨paths, functions, generics, output, filetype, quiet⟩ := o'
      simp only [aloud, Invocation.extract.injEq, Options.mk.injEq] at h
      obtain ⟨rfl, rfl, rfl, rfl, rfl, -⟩ := h
      exact Or.inl ⟨o, quiet, rfl, rfl⟩
    | _ => cases h
  | _ =>
    cases i' <;> cases h
    exact Or.inr ⟨rfl, by simp⟩

end Invocation

namespace Command

inductive SameButQuiet [Packages] : List String → List String → Prop
  | flag {before after flag} : flag ∈ quietFlags → Selector.endOfOptions ∉ before →
      SameButQuiet (before ++ after) (before ++ flag :: after)
  | reading {tokens tokens'} : (invocation tokens').aloud = (invocation tokens).aloud →
    SameButQuiet tokens tokens'

lemma SameButQuiet.aloud_eq [Packages] [LawfulPackages] {tokens tokens' : List String}
    (hquiet : SameButQuiet tokens tokens') (h : invocation tokens ≠ .usageError)
    (h' : invocation tokens' ≠ .usageError) : (invocation tokens').aloud = (invocation tokens).aloud := by
  cases hquiet with
  | reading haloud => exact haloud
  | @flag before after flag hflag hbefore =>
    have hother : ∀ flag ∈ quietFlags, Selector.isSelector flag = false ∧
        flag ≠ Selector.endOfOptions := by decide
    obtain ⟨hselector, hend⟩ := hother flag hflag
    obtain ⟨b, a, hb, hkeep, hkeep'⟩ := Selector.keepLast_insert hselector hend hbefore after
    rw [invocation, hkeep] at h
    rw [invocation, hkeep'] at h'
    rw [invocation, invocation, hkeep, hkeep']
    exact LawfulPackages.aloud_insert hflag hb h h'

lemma value?_sources [Packages] [LawfulPackages] {w w' : World} {as : List EnvFile.Assignment}
    (henvironment : Settings.SameButVerbosity w.environment w'.environment)
    (hfile : Settings.SettlesData as) {field : String} (hfield : field ∈ Settings.dataFields) :
    Packages.value? (sources w as) field = Packages.value? (sources w' as) field :=
  LawfulPackages.value?_congr rfl (Settings.filter_environment henvironment hfield)
    (Settings.filter_table henvironment hfile hfield)

section Records

variable [Text.Edition]

def records (w : World) (o : Options) (s : Settings) (d : Destination) : List LogEntry :=
  (LogStyle.ofSettings s o.quiet).shown (extraction w o s d).run.log

def loggedErrors (s : Settings) (run : Run) : List Diagnostic :=
  if s.logLevel ≤ LogStyle.errorLevel then run.diagnostics.filter (·.severity = .error) else []

lemma records_quiet (w : World) (o : Options) (s : Settings) (d : Destination) (hquiet : o.quiet = false) :
    records w { o with quiet := true } s d = (records w o s d).filter LogEntry.isError := by
  rw [records, records, hquiet]
  exact LogStyle.shown_quiet s _

lemma filter_records (w : World) (o : Options) (s : Settings) (d : Destination) (hquiet : o.quiet = false) :
    (records w o s d).filter LogEntry.isError = (loggedErrors s (extraction w o s d).run).map .report := by
  rw [records, hquiet, ← LogStyle.shown_quiet, loggedErrors]
  split
  next h => rw [LogStyle.shown_quiet_of_le h, LogEntry.filter_isError, Run.diagnostics]
  next h => rw [LogStyle.shown_quiet_of_lt (Int.not_le.mp h), List.map_nil]

lemma line_of_mem_loggedErrors {s : Settings} {run : Run} {error : Diagnostic}
    (h : error ∈ loggedErrors s run) :
    LogEntry.line (.report error) =
      "ERROR: " ++ error.file ++ ":" ++ toString error.line ++ ": " ++ error.message ++ "\n" := by
  apply LogEntry.line_error
  unfold loggedErrors at h
  split at h
  · simpa using (List.mem_filter.mp h).2
  · cases h

end Records

section Effects

variable [Text.Edition] [Packages] {w w' : World} {o : Options} {s s' : Settings} {d : Destination}

lemma data_extract (hdisk : w'.disk = w.disk) (hfiletype : s'.defaultFiletype = s.defaultFiletype)
    (hblocks : s'.blocks = s.blocks) (quiet : Bool) :
    (extract w' { o with quiet := quiet } s').data = (extract w o s).data := by
  simp only [extract, gaveUp, hdisk, hfiletype, hblocks]
  split
  · rfl
  -- what keeps a path from being read
  split
  · rfl
  · rfl
  · rfl
  split
  · rfl
  split
  · rfl
  · rfl

lemma stderr_completion (hstatus : (completion w o s d).status = 0) (hrich : s.richLogging = false) :
    (completion w o s d).stderr = String.join ((records w o s d).map LogEntry.line) := by
  have hfailure : (extraction w o s d).failure = none := by
    cases hfailure : (extraction w o s d).failure with
    | none => rfl
    | some e => simp [completion, effect, hfailure] at hstatus
  have hstyle : (LogStyle.ofSettings s o.quiet).rich = false := hrich
  simp only [completion, effect, logged, hfailure, LogStyle.render_plain hstyle, records, String.append_empty]

end Effects

section Comparing

variable [Text.Edition] [Scalars] [Packages]

/-- A command line that the command takes, with settings that it takes. -/
def Valid (w : World) : Invocation → Prop
  | .usageError => False
  | .extract o => ∃ as s, Configured w o as s
  | _ => True

lemma Valid.ne_usageError {w : World} {invocation : Invocation} (h : Valid w invocation) :
    invocation ≠ .usageError := by
  rintro rfl
  exact h

section Settings

variable {w w' : World} {o : Options} {as : List EnvFile.Assignment} {s s' : Settings} {quiet : Bool}

lemma Configured.unique {as' : List EnvFile.Assignment} (h : Configured w o as s)
    (h' : Configured w o as' s') :
    as' = as ∧ s' = s := by
  obtain rfl := Except.ok.inj (h.assignments.symm.trans h'.assignments)
  exact ⟨rfl, Except.ok.inj (h'.settings.symm.trans h.settings)⟩

lemma Configured.withQuiet (h : Configured w o as s) (quiet : Bool) :
    Configured w { o with quiet := quiet } as s :=
  ⟨h.assignments, h.settings⟩

lemma settings_eq_ok {sources : Settings.Sources} (h : settings sources o = .ok s) :
    ∃ loaded selection, Settings.load (Packages.value? sources) = .ok loaded ∧ selection? o = .ok selection ∧
      s.defaultFiletype = o.filetype.getD loaded.defaultFiletype ∧
      s.blocks = selection.getD loaded.blocks := by
  unfold settings at h
  cases hload : Settings.load (Packages.value? sources) with
  | error invalid =>
    rw [hload] at h
    cases h
  | ok loaded =>
    rw [hload] at h
    cases hselection : selection? o with
    | error f =>
      rw [hselection] at h
      cases h
    | ok selection =>
      rw [hselection] at h
      obtain rfl := Except.ok.inj h
      exact ⟨loaded, selection, rfl, rfl, rfl, rfl⟩

lemma data_settings_eq [LawfulPackages]
    (henvironment : Settings.SameButVerbosity w.environment w'.environment)
    (hfile : Settings.SettlesData as) (hs : Configured w o as s)
    (hs' : Configured w' { o with quiet := quiet } as s') :
    s'.defaultFiletype = s.defaultFiletype ∧ s'.blocks = s.blocks := by
  obtain ⟨loaded, selection, hload, hselection, hfiletype, hblocks⟩ := settings_eq_ok hs.settings
  obtain ⟨loaded', selection', hload', hselection', hfiletype', hblocks'⟩ := settings_eq_ok hs'.settings
  obtain rfl : selection = selection' := Except.ok.inj (hselection.symm.trans hselection')
  obtain ⟨hloadedType, hloadedBlocks⟩ := Settings.fields_of_load hload
  obtain ⟨hloadedType', hloadedBlocks'⟩ := Settings.fields_of_load hload'
  have hfield : ∀ {α : Type} {name : String} {default : α} {check : Value → Checked α},
      name ∈ Settings.dataFields →
      Settings.field (Packages.value? (sources w as)) name default check =
        Settings.field (Packages.value? (sources w' as)) name default check := by
    intro α name default check hname
    rw [Settings.field, Settings.field, value?_sources henvironment hfile hname]
  rw [hfield (by decide)] at hloadedType hloadedBlocks
  rw [hfiletype, hfiletype', hblocks, hblocks', Except.ok.inj (hloadedType.symm.trans hloadedType'),
    Except.ok.inj (hloadedBlocks.symm.trans hloadedBlocks')]
  exact ⟨rfl, rfl⟩

end Settings

section Runs

variable {w w' : World} {o : Options} {as : List EnvFile.Assignment} {s s' : Settings} {d : Destination}
  {tokens tokens' : List String}

lemma Ends.completes {outcome : Outcome} (hends : Ends w o outcome) {e : Effect} (he : outcome = .finished e)
    (hstatus : e.status = 0) :
    ∃ as s d, Configured w o as s ∧ o.paths ≠ [] ∧ (∀ p ∈ o.paths, NamesFile w.disk p) ∧
      Opens w.disk o.output d ∧
      e = completion w o s d := by
  have hgaveUp : ∀ {f}, e ≠ gaveUp w f := by
    rintro f rfl
    cases hstatus
  cases hends with
  | extracts hs hne hfiles hout => exact ⟨_, _, _, hs, hne, hfiles, hout, (Outcome.finished.inj he).symm⟩
  | badSettings | noPaths | missing | noOutput => exact absurd (Outcome.finished.inj he).symm hgaveUp
  | _ => cases he

lemma run_of_other (h : ∀ o, invocation tokens ≠ .extract o) (h' : invocation tokens' = invocation tokens) :
    run w' tokens' = run w tokens := by
  rw [run, run, h']
  cases hparse : invocation tokens with
  | extract o => exact absurd hparse (h o)
  | _ => rfl

lemma data_run_eq [LawfulPackages] {quiet : Bool} (hdisk : w'.disk = w.disk)
    (henvironment : Settings.SameButVerbosity w.environment w'.environment)
    (hparse : invocation tokens = .extract o)
    (hparse' : invocation tokens' = .extract { o with quiet := quiet }) {as as' : List EnvFile.Assignment}
    (hs : Configured w o as s) (hs' : Configured w' { o with quiet := quiet } as' s')
    (hfile : Settings.SettlesData as) :
    (run w' tokens').data = (run w tokens).data := by
  have hassignments : envAssignments w' = envAssignments w := by
    rw [envAssignments, envAssignments, hdisk]
  obtain rfl : as' = as :=
    Except.ok.inj (hs'.assignments.symm.trans (hassignments.trans hs.assignments))
  obtain ⟨hfiletype, hblocks⟩ := data_settings_eq henvironment hfile hs hs'
  rw [run_of_configured hparse hs, run_of_configured hparse' hs']
  exact data_extract hdisk hfiletype hblocks quiet

theorem verbosity_leaves_data [LawfulPackages] (w w' : World) (tokens tokens' : List String)
    (hdisk : w'.disk = w.disk) (henvironment : Settings.SameButVerbosity w.environment w'.environment)
    (hquiet : SameButQuiet tokens tokens') (hvalid : Valid w (invocation tokens))
    (hvalid' : Valid w' (invocation tokens')) :
    ((∀ as, envAssignments w = .ok as → Settings.SettlesData as) →
      (run w' tokens').data = (run w tokens).data) ∧
    ∀ o o' as s e, invocation tokens = .extract o → invocation tokens' = .extract o' → o.quiet = false →
      o'.quiet = true → Configured w o as s → s.richLogging = false → run w tokens = .finished e →
      e.status = 0 →
      ∃ e' d, run w tokens' = .finished e' ∧ Opens w.disk o.output d ∧
        e.stderr = String.join ((records w o s d).map LogEntry.line) ∧
        e'.stderr = String.join (((records w o s d).filter LogEntry.isError).map LogEntry.line) ∧
        (records w o s d).filter LogEntry.isError = (loggedErrors s (extraction w o s d).run).map .report ∧
        ∀ error ∈ loggedErrors s (extraction w o s d).run, LogEntry.line (.report error) =
          "ERROR: " ++ error.file ++ ":" ++ toString error.line ++ ": " ++ error.message ++ "\n" := by
  have hcases := Invocation.aloud_cases (hquiet.aloud_eq hvalid.ne_usageError hvalid'.ne_usageError)
  constructor
  · intro hfile
    rcases hcases with ⟨o, quiet, hparse, hparse'⟩ | ⟨hsame, hother⟩
    · rw [hparse] at hvalid
      rw [hparse'] at hvalid'
      obtain ⟨as, s, hs⟩ := hvalid
      obtain ⟨as', s', hs'⟩ := hvalid'
      exact data_run_eq hdisk henvironment hparse hparse' hs hs' (hfile as hs.assignments)
    · rw [run_of_other hother hsame]
  · intro o o' as s e hparse hparse' hloud hquiet hs hrich hrun hstatus
    obtain rfl : o' = { o with quiet := true } := by
      rw [hparse, hparse'] at hcases
      rcases hcases with ⟨o₁, quiet, heq, heq'⟩ | ⟨-, hother⟩
      · obtain rfl := Invocation.extract.inj heq
        obtain rfl := Invocation.extract.inj heq'
        rw [← hquiet]
      · exact absurd rfl (hother o)
    obtain ⟨as', s', d, hs', hne, hfiles, hout, rfl⟩ := (ends_run hparse).completes hrun hstatus
    obtain ⟨rfl, rfl⟩ := hs.unique hs'
    refine ⟨_, d, run_of_opens hparse' (hs.withQuiet true) hne hfiles hout, hout,
      stderr_completion hstatus hrich, ?_, filter_records w o s' d hloud,
      fun _ herror => line_of_mem_loggedErrors herror⟩
    rw [← records_quiet w o s' d hloud]
    exact stderr_completion hstatus hrich

end Runs

end Comparing

-- what the file says of the level does not count where the environment says something else
def twoReports (level : String) : World where
  disk :=
    (Disk.empty.addFile (Path.ofString "a.sh")
      (Text.Utf8.encode "##\n#\nf() \x7b\n##\n# x\n##\n".toList)).addFile
      envFile (Text.Utf8.encode
        "procdoc_rich_logging=0\nPROCDOC_LOG_LEVEL=50\nKIND=all\nPROCDOC_BLOCKS=$\x7bKIND\x7d\n".toList)
  environment := [("PROCDOC_LOG_LEVEL", level)]

def loud : Options :=
  ⟨[some "a.sh"], false, false, none, none, false⟩

theorem verbosity_leaves_two_reports :
    (run (twoReports "error") ["a.sh", "-q"]).data = (run (twoReports "0") ["a.sh"]).data ∧
      ∃ e e', run (twoReports "0") ["a.sh"] = .finished e ∧
        run (twoReports "0") ["a.sh", "-q"] = .finished e' ∧
        e.stdout = Record.writeAll [⟨1, .generic, "none", "a.sh", ⟨4, 1⟩, .generic ["x"]⟩] ∧
        e.stderr = "WARNING: a.sh:1: empty function block\nERROR: a.sh:1: missing title in function block\n" ∧
        e'.stderr = "ERROR: a.sh:1: missing title in function block\n" := by
  have hparse : invocation ["a.sh"] = .extract loud := by decide +kernel
  have hparse' : invocation ["a.sh", "-q"] = .extract { loud with quiet := true } := by decide +kernel
  have has : envAssignments (twoReports "0") =
      .ok [("procdoc_rich_logging", some "0"), ("PROCDOC_LOG_LEVEL", some "50"), ("KIND", some "all"),
        ("PROCDOC_BLOCKS", some "$\x7bKIND\x7d")] := by decide +kernel
  have hs : Configured (twoReports "0") loud _ ⟨"", .all, 0, false⟩ :=
    configured_of_toOption has (by decide +kernel)
  have hs' : Configured (twoReports "error") { loud with quiet := true } _ ⟨"", .all, 40, false⟩ :=
    configured_of_toOption has (by decide +kernel)
  have hrun : run (twoReports "0") ["a.sh"] =
      .finished ⟨0, Record.writeAll [⟨1, .generic, "none", "a.sh", ⟨4, 1⟩, .generic ["x"]⟩],
        "WARNING: a.sh:1: empty function block\nERROR: a.sh:1: missing title in function block\n",
        (twoReports "0").disk⟩ := by decide +kernel
  have hquiet : SameButQuiet (["a.sh"] ++ []) (["a.sh"] ++ "-q" :: []) := .flag (by decide) (by decide)
  have henvironment :
      Settings.SameButVerbosity (twoReports "0").environment (twoReports "error").environment := by
    unfold Settings.SameButVerbosity
    decide +kernel
  obtain ⟨hdata, hlog⟩ :=
    verbosity_leaves_data (twoReports "0") (twoReports "error") ["a.sh"] ["a.sh", "-q"] rfl
    henvironment hquiet (by rw [hparse]; exact ⟨_, _, hs⟩) (by rw [hparse']; exact ⟨_, _, hs'⟩)
  obtain ⟨e', d, hrun', hout, -, hstderr, hrecords, -⟩ :=
    hlog _ _ _ _ _ hparse hparse' rfl rfl hs rfl hrun rfl
  refine ⟨hdata ?_, _, e', hrun, hrun', rfl, rfl, ?_⟩
  · intro as has'
    obtain rfl := Except.ok.inj (has.symm.trans has')
    unfold Settings.SettlesData
    decide +kernel
  · obtain rfl : Destination.stdout = d := Except.ok.inj hout.2
    have herrors : loggedErrors ⟨"", .all, 0, false⟩
        (extraction (twoReports "0") loud ⟨"", .all, 0, false⟩ .stdout).run =
        [⟨.error, "missing title in function block", "a.sh", 1⟩] := by decide +kernel
    rw [hstderr, hrecords, herrors]
    decide +kernel

-- the value of the filetype refers to a variable of verbosity
def filetypeOfLogging (rich : String) : World where
  disk :=
    (Disk.empty.addFile (Path.ofString "notes") (Text.Utf8.encode "/**\n* x\n**/\n".toList)).addFile envFile
      (Text.Utf8.encode "PROCDOC_DEFAULT_FILETYPE=$\x7bPROCDOC_RICH_LOGGING\x7ds\n".toList)
  environment := [("PROCDOC_RICH_LOGGING", rich)]

theorem environment_file_undoes_verbosity :
    Settings.SameButVerbosity (filetypeOfLogging "t").environment (filetypeOfLogging "f").environment ∧
      Valid (filetypeOfLogging "t") (invocation ["notes"]) ∧
      Valid (filetypeOfLogging "f") (invocation ["notes"]) ∧
      (run (filetypeOfLogging "t") ["notes"]).data ≠ (run (filetypeOfLogging "f") ["notes"]).data := by
  have hparse : invocation ["notes"] =
      .extract ⟨[some "notes"], false, false, none, none, false⟩ := by decide +kernel
  have has : ∀ rich, envAssignments (filetypeOfLogging rich) =
      .ok [("PROCDOC_DEFAULT_FILETYPE", some "$\x7bPROCDOC_RICH_LOGGING\x7ds")] := by
    intro rich
    have hsame : envAssignments (filetypeOfLogging rich) = envAssignments (filetypeOfLogging "") := rfl
    rw [hsame]
    decide +kernel
  refine ⟨?_, ?_, ?_, by decide +kernel⟩
  · unfold Settings.SameButVerbosity
    decide +kernel
  · rw [hparse]
    exact ⟨_, ⟨"ts", .all, 30, true⟩, configured_of_toOption (has "t") (by decide +kernel)⟩
  · rw [hparse]
    exact ⟨_, ⟨"fs", .all, 30, false⟩, configured_of_toOption (has "f") (by decide +kernel)⟩

end Command

end CommentDoc
