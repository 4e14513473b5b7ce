import CommentDoc.Proofs.Record.RoundTrip
import CommentDoc.Run.Basic
import Mathlib.Data.Nat.Digits.Defs

namespace CommentDoc

lemma DigitLimit.allows_of_lt {n : Nat} (h : n < 10 ^ 640) (limit : Option DigitLimit) :
    DigitLimit.Allows limit n := by
  intro l _
  have hle : (Nat.toDigits 10 n).length ≤ l.digits :=
    (Nat.toDigits_length 10 n 640 (by decide) h).trans l.least_le
  exact hle

structure Record.Small (r : Record) : Prop where
  id : r.id < 10 ^ 640
  initial : r.lines.initial < 10 ^ 640
  total : r.lines.total < 10 ^ 640

lemma Record.Small.fits {r : Record} (h : r.Small) (limit : Option DigitLimit) : r.Fits limit := by
  simp only [Record.Fits, Record.integers, List.forall_mem_cons]
  exact ⟨DigitLimit.allows_of_lt h.id limit, DigitLimit.allows_of_lt h.initial limit,
    DigitLimit.allows_of_lt h.total limit, by simp⟩

lemma Record.fits_none (r : Record) : r.Fits none := by
  simp [Record.Fits, DigitLimit.Allows]

namespace Written

lemma write_of_fits {limit : Option DigitLimit} {rs : List Record} (h : ∀ r ∈ rs, r.Fits limit)
    (w : Written) :
    w.write limit rs = (⟨w.pieces ++ rs.flatMap fun r => [r.line, "\n"], w.count + rs.length⟩, none) := by
  induction rs generalizing w with
  | nil => simp [write]
  | cons r rs ih =>
    obtain ⟨hr, hrs⟩ := List.forall_mem_cons.mp h
    have hline := (r.printed_serialize limit).fits hr
    simp only [write, hline]
    rw [ih hrs, add]
    simp [Nat.add_assoc, Nat.add_comm 1]

theorem write_of_exceeds {limit : Option DigitLimit} {before after : List Record} {r : Record} {n : Int}
    (h : ∀ r ∈ before, r.Fits limit) (hn : n ∈ r.integers) (hexceeds : ¬ DigitLimit.Allows limit n)
    (w : Written) :
    ∃ l ∈ limit, w.write limit (before ++ r :: after) =
      ((w.write limit before).1, some (.tooManyDigits l)) := by
  obtain ⟨l, hl, he⟩ := (r.printed_serialize limit).exceeds n hn hexceeds
  refine ⟨l, hl, ?_⟩
  induction before generalizing w with
  | nil => simp only [List.nil_append, write, he]
  | cons b before ih =>
    obtain ⟨hb, hbefore⟩ := List.forall_mem_cons.mp h
    simp only [List.cons_append, write, (b.printed_serialize limit).fits hb]
    exact ih hbefore _

end Written

namespace Run.Extraction

lemma written_eq (e : Extraction) :
    e.written = ⟨e.records.flatMap fun r => [r.line, "\n"], e.records.length⟩ := by
  rw [written, Written.write_of_fits fun r _ => r.fits_none]
  simp [Written.nothing]

lemma text_eq (e : Extraction) : e.text = Record.writeAll e.records := by
  apply String.toList_injective
  simp [text, written_eq, Written.text, Record.writeAll, String.toList_join, List.flatMap_map,
    List.flatMap_assoc]

lemma count_eq (e : Extraction) (h : e.failure = none) : e.count = .ok e.records.length := by
  rw [count, h, written_eq]

end Run.Extraction

end CommentDoc
