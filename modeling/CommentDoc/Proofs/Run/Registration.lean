import CommentDoc.Run.Basic
import Mathlib.Data.List.Forall2
import Mathlib.Tactic.Lemma

namespace CommentDoc.Run

@[simp] lemma blocks_note (run : Run) (entry : LogEntry) : (run.note entry).blocks = run.blocks := rfl

@[simp] lemma blocks_report (run : Run) (ds : List Diagnostic) : (run.report ds).blocks = run.blocks := rfl

@[simp] lemma diagnostics_report (run : Run) (ds : List Diagnostic) :
    (run.report ds).diagnostics = run.diagnostics ++ ds := by
  have hd : (ds.map LogEntry.report).filterMap LogEntry.diagnostic? = ds := by
    simp [List.filterMap_map, Function.comp_def, LogEntry.diagnostic?]
  simp [report, diagnostics, hd]

@[simp] lemma diagnostics_scanning (run : Run) (file filetype : String) (family : Family) :
    (run.note (.scanning file filetype family)).diagnostics = run.diagnostics := by
  simp [note, diagnostics, LogEntry.diagnostic?]

@[simp] lemma blocks_register (run : Run) (file : String) (found : Found) :
    (run.register file found).1.blocks = run.blocks ++ [found.toBlock run.nextId file] := rfl

@[simp] lemma register_snd (run : Run) (file : String) (found : Found) :
    (run.register file found).2 = found.toBlock run.nextId file := rfl

@[simp] lemma diagnostics_register (run : Run) (file : String) (found : Found) :
    (run.register file found).1.diagnostics = run.diagnostics ++ found.diagnostics file :=
  run.diagnostics_report (found.diagnostics file)

lemma blocks_registerAll (run : Run) (file : String) (founds : List Found) :
    (run.registerAll file founds).1.blocks = run.blocks ++ (run.registerAll file founds).2 := by
  induction founds generalizing run with
  | nil => simp [registerAll]
  | cons found founds ih => simp [registerAll, ih]

lemma diagnostics_registerAll (run : Run) (file : String) (founds : List Found) :
    (run.registerAll file founds).1.diagnostics =
      run.diagnostics ++ founds.flatMap fun found => found.diagnostics file := by
  induction founds generalizing run with
  | nil => simp [registerAll]
  | cons found founds ih => simp [registerAll, ih]

lemma registerAll_snd (run : Run) (file : String) (founds : List Found) :
    (run.registerAll file founds).2 = founds.mapIdx fun i found => found.toBlock (run.nextId + i) file := by
  induction founds generalizing run with
  | nil => rfl
  | cons found founds ih =>
    have hid : (run.register file found).1.nextId = run.nextId + 1 := by simp [nextId]
    simp [registerAll, ih, hid, List.mapIdx_cons, Nat.add_assoc, Nat.add_comm 1]

lemma forall₂_registerAll {ι : Type} {f : ι → Found} {R : ι → Block → Prop} {file : String} {is : List ι}
    (run : Run) (h : ∀ i ∈ is, ∀ id, R i ((f i).toBlock id file)) :
    List.Forall₂ R is (run.registerAll file (is.map f)).2 := by
  induction is generalizing run with
  | nil => exact .nil
  | cons i is ih => exact .cons (h i (by simp) _) (ih _ fun j hj => h j (by simp [hj]))

end CommentDoc.Run
