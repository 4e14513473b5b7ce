import CommentDoc.Proofs.Run.Entries
import CommentDoc.Proofs.Run.Invariant
import Mathlib.Data.List.Sort

namespace CommentDoc

def Diagnostic.isScanWarning (d : Diagnostic) : Bool :=
  d.severity = .warning &&
    (d.message = "unclosed block" || d.message = "function blocks may not have a markup tag")

lemma Found.isScanWarning {f : Found} {file : String} {d : Diagnostic} (h : d ∈ f.diagnostics file) :
    d.isScanWarning = true := by
  obtain ⟨kind, markup, initial, captured, warning⟩ := f
  cases warning with
  | none => simp [Found.diagnostics] at h
  | some w =>
    obtain ⟨warning, line⟩ := w
    obtain rfl : d = _ := List.mem_singleton.mp h
    cases warning <;> rfl

lemma ContentFault.not_isScanWarning {fault : ContentFault} {file : String} {initial : Nat} {d : Diagnostic}
    (h : d ∈ fault.diagnostics file initial) : d.isScanWarning = false := by
  cases fault with
  | blank =>
    simp only [diagnostics, remarks, List.mem_append, List.mem_singleton] at h
    rcases h with rfl | rfl <;> rfl
  | header fault index =>
    simp only [diagnostics, remarks, List.nil_append, List.mem_singleton] at h
    subst h
    cases fault <;> rfl

namespace Block

lemma faults_of_generic [Text.Edition] {b : Block} (h : b.kind = .generic) : b.faults = [] := by
  simp [faults, content, h]

lemma not_isScanWarning [Text.Edition] {b : Block} {d : Diagnostic} (h : d ∈ b.faults) :
    d.isScanWarning = false := by
  unfold faults at h
  cases hc : b.content with
  | ok content => simp [hc] at h
  | error fault =>
    rw [hc] at h
    exact ContentFault.not_isScanWarning h

end Block

namespace Run

variable [Text.Edition]

namespace Entry

lemma kind_of_record? {selection : Selection} {e : Entry} {r : Record}
    (h : e.record? selection = some r) :
    r.kind = e.found.kind :=
  (Block.record_of (record_of_record? h)).kind

lemma record?_eq_filter (selection : Selection) (e : Entry) :
    e.record? selection = (e.record? .all).filter fun r => selection.admits r.kind := by
  cases hr : e.record? .all with
  | none =>
    have hnone : e.block.record.toOption = none := hr
    simp [record?, hnone]
  | some r =>
    have hsome : e.block.record.toOption = some r := hr
    rw [record?, hsome, Option.filter_some, kind_of_record? hr]

lemma faults_of_generic {e : Entry} (h : e.found.kind = .generic) (selection : Selection) :
    e.faults selection = [] := by
  have hnone : e.block.faults = [] := Block.faults_of_generic h
  simp [faults, hnone]

lemma faults_function (e : Entry) : e.faults .function = e.faults .all := by
  cases hk : e.found.kind with
  | function => simp [faults, hk, Selection.admits]
  | generic => rw [faults_of_generic hk, faults_of_generic hk]

lemma faults_generic (e : Entry) : e.faults .generic = [] := by
  cases hk : e.found.kind with
  | function => simp [faults, hk, Selection.admits]
  | generic => exact faults_of_generic hk .generic

lemma diagnostics_generic (e : Entry) :
    e.diagnostics .generic = (e.diagnostics .all).filter Diagnostic.isScanWarning := by
  have hscan : (e.found.diagnostics e.file).filter Diagnostic.isScanWarning = e.found.diagnostics e.file :=
    List.filter_eq_self.mpr fun d hd => Found.isScanWarning hd
  have hfaults : (e.faults .all).filter Diagnostic.isScanWarning = [] := by
    apply List.filter_eq_nil_iff.mpr
    intro d hd
    rw [Block.not_isScanWarning hd]
    exact Bool.false_ne_true
  rw [diagnostics, diagnostics, List.filter_append, hscan, hfaults, faults_generic]

end Entry

variable (filetype : String) (table : Table) (disk : Disk) (inputs : List Input)

lemma records_ascending (selection : Selection) :
    ((start filetype selection table).extract disk inputs).records.Pairwise (·.id < ·.id) := by
  obtain ⟨begun, hreach⟩ := reaches_extract disk (start filetype selection table) [] [] inputs
  exact ((Point.Sound.start (start filetype selection table) rfl inputs).reaches hreach).invariant.ascending

lemma blocks_selection (selection : Selection) :
    ((start filetype selection table).extract disk inputs).run.blocks =
      ((start filetype .all table).extract disk inputs).run.blocks := by
  rw [(extends_extract disk (start filetype selection table) inputs).1.blocks,
    (extends_extract disk (start filetype .all table) inputs).1.blocks]
  rfl

lemma records_selection (selection : Selection) :
    ((start filetype selection table).extract disk inputs).records =
      ((start filetype .all table).extract disk inputs).records.filter fun r => selection.admits r.kind := by
  have hrecord : Entry.record? selection =
      fun e => (Entry.record? .all e).filter fun r => selection.admits r.kind := by
    funext e
    exact e.record?_eq_filter selection
  rw [(extends_extract disk (start filetype selection table) inputs).2,
    (extends_extract disk (start filetype .all table) inputs).2, List.filter_filterMap]
  exact congrArg (fun f => List.filterMap f _) hrecord

lemma diagnostics_start (selection : Selection) :
    ((start filetype selection table).extract disk inputs).run.diagnostics =
      (entries disk (start filetype selection table).delimiters 0 inputs).flatMap
        (Entry.diagnostics selection) :=
  (extends_extract disk (start filetype selection table) inputs).1.diagnostics

lemma diagnostics_function :
    ((start filetype .function table).extract disk inputs).run.diagnostics =
      ((start filetype .all table).extract disk inputs).run.diagnostics := by
  have hentry : Entry.diagnostics .function = Entry.diagnostics .all := by
    funext e
    rw [Entry.diagnostics, Entry.diagnostics, Entry.faults_function]
  rw [diagnostics_start, diagnostics_start, hentry]
  rfl

lemma diagnostics_generic :
    ((start filetype .generic table).extract disk inputs).run.diagnostics =
      ((start filetype .all table).extract disk inputs).run.diagnostics.filter Diagnostic.isScanWarning := by
  have hentry : Entry.diagnostics .generic =
      fun e => (Entry.diagnostics .all e).filter Diagnostic.isScanWarning := by
    funext e
    exact e.diagnostics_generic
  rw [diagnostics_start, diagnostics_start, List.filter_flatMap, hentry]
  rfl

end Run

lemma Record.merge_filter {records : List Record} (h : records.Pairwise (·.id < ·.id)) :
    List.merge (records.filter (·.kind = .function)) (records.filter (·.kind = .generic))
      (·.id ≤ ·.id) = records := by
  have hle : records.Pairwise fun a b => decide (a.id ≤ b.id) = true := by
    refine h.imp ?_
    intro a b hab
    simpa using Nat.le_of_lt hab
  have hnot : (fun r : Record => decide (r.kind = .generic)) = fun r => !decide (r.kind = .function) := by
    funext r
    cases r.kind <;> rfl
  have hids : (records.map Record.id).Nodup := by
    apply List.pairwise_map.mpr
    exact h.imp Nat.ne_of_lt
  have hmerge : (List.merge (records.filter (·.kind = .function)) (records.filter (·.kind = .generic))
      (·.id ≤ ·.id)).Pairwise fun a b => decide (a.id ≤ b.id) = true := by
    apply List.pairwise_merge _ _ _ _ (hle.filter _) (hle.filter _)
    · intro a b c hab hbc
      simp only [decide_eq_true_eq] at hab hbc ⊢
      exact Nat.le_trans hab hbc
    · intro a b
      simpa using Nat.le_total a.id b.id
  have hperm : (List.merge (records.filter (·.kind = .function)) (records.filter (·.kind = .generic))
      (·.id ≤ ·.id)).Perm records := by
    refine (List.merge_perm_append _).trans ?_
    rw [hnot]
    exact List.filter_append_perm _ records
  refine hperm.eq_of_pairwise ?_ hmerge hle
  intro a b ha hb hab hba
  simp only [decide_eq_true_eq] at hab hba
  exact List.inj_on_of_nodup_map hids (hperm.subset ha) hb (Nat.le_antisymm hab hba)

theorem selection_only_filters [Text.Edition] (filetype : String) (table : Table) (disk : Disk)
    (inputs : List Input) :
    let extraction (selection : Selection) := (Run.start filetype selection table).extract disk inputs
    (extraction .function).run.blocks = (extraction .all).run.blocks ∧
    (extraction .generic).run.blocks = (extraction .all).run.blocks ∧
    (extraction .function).records = (extraction .all).records.filter (·.kind = .function) ∧
    (extraction .generic).records = (extraction .all).records.filter (·.kind = .generic) ∧
    (extraction .all).records =
      List.merge (extraction .function).records (extraction .generic).records (·.id ≤ ·.id) ∧
    (extraction .function).run.diagnostics = (extraction .all).run.diagnostics ∧
    (extraction .generic).run.diagnostics =
      (extraction .all).run.diagnostics.filter Diagnostic.isScanWarning ∧
    ((∀ input ∈ inputs, Run.Readable disk input) ∧ (∀ selection, (extraction selection).failure = none) ∨
      ∃ before input after cause, inputs = before ++ input :: after ∧ (∀ i ∈ before, Run.Readable disk i) ∧
        Run.lines disk input = .error cause ∧ ∀ selection, (extraction selection).failure = some cause) := by
  intro extraction
  have hfunction := Run.records_selection filetype table disk inputs .function
  have hgeneric := Run.records_selection filetype table disk inputs .generic
  refine ⟨Run.blocks_selection .., Run.blocks_selection .., hfunction, hgeneric, ?_,
    Run.diagnostics_function ..,
    Run.diagnostics_generic .., ?_⟩
  · rw [hfunction, hgeneric]
    exact (Record.merge_filter (Run.records_ascending filetype table disk inputs .all)).symm
  · rcases Run.readable_cases disk inputs with h | ⟨before, input, after, cause, rfl, hbefore, hcause⟩
    · exact Or.inl ⟨h, fun selection => Run.failure_of_readable h _⟩
    · refine Or.inr ⟨before, input, after, cause, rfl, hbefore, hcause, ?_⟩
      intro selection
      exact Run.failure_of_unreadable hbefore hcause _ after

end CommentDoc
