import CommentDoc.Proofs.Scan.Order
import CommentDoc.Run.Basic
import Mathlib.Tactic.Lemma

/-! A file that breaks off while it is read gives the first of the blocks that its lines would
give. -/

namespace CommentDoc

namespace Scan

/-- The blocks of the lines from number `n` on, which are all that is left of the file or end
where reading breaks off. -/
def foundsFrom (d : Delimiters) (whole : Bool) (n : Nat) (b : Option Draft) (ls : List String) : List Found :=
  if whole then blocksFrom d n b ls else endedFrom d n b ls

section

variable {d : Delimiters} {whole : Bool} {n : Nat} {b b' : Draft} {found : Found} {line : String}

@[simp] lemma foundsFrom_nil : foundsFrom d whole n none [] = [] := by
  cases whole <;> rfl

lemma foundsFrom_none (ls : List String) :
    foundsFrom d whole n none (line :: ls) = foundsFrom d whole (n + 1) (Draft.open? d n line) ls := by
  cases whole <;> rfl

lemma foundsFrom_inl (h : b.read d n line = .inl b') (ls : List String) :
    foundsFrom d whole n (some b) (line :: ls) = foundsFrom d whole (n + 1) (some b') ls := by
  cases whole <;> simp [foundsFrom, blocksFrom, endedFrom, h]

lemma foundsFrom_inr (h : b.read d n line = .inr found) (ls : List String) :
    foundsFrom d whole n (some b) (line :: ls) = found :: foundsFrom d whole (n + 1) none ls := by
  cases whole <;> simp [foundsFrom, blocksFrom, endedFrom, h]

end

lemma endedFrom_prefix (d : Delimiters) (n : Nat) (b : Option Draft) (ls : List String) :
    endedFrom d n b ls <+: blocksFrom d n b ls := by
  induction ls generalizing n b with
  | nil => exact List.nil_prefix
  | cons line ls ih =>
    cases b with
    | none => exact ih (n + 1) (Draft.open? d n line)
    | some b =>
      cases hr : b.read d n line with
      | inl b' =>
        simp only [endedFrom, blocksFrom, hr]
        exact ih (n + 1) (some b')
      | inr found =>
        simp only [endedFrom, blocksFrom, hr]
        exact List.cons_prefix_cons.mpr ⟨rfl, ih (n + 1) none⟩

end Scan

namespace Run

variable {disk : Disk} {input : Input}

lemma octets_eq_ok_iff {bs : Text.Utf8.Octets} :
    octets disk input = .ok bs ↔
      ∃ identity, open? disk input = .ok identity ∧ disk.readingFault? identity = none ∧
        disk.content identity = bs := by
  cases ho : open? disk input with
  | error e => simp [octets, ho]
  | ok identity => cases hf : disk.readingFault? identity <;> simp [octets, ho, hf]

lemma lines_of_octets {bs : Text.Utf8.Octets} (h : octets disk input = .ok bs) :
    lines disk input = .ok (Source.lines bs) := by
  rw [lines, h]
  rfl

lemma octets_of_lines {ls : List String} (h : lines disk input = .ok ls) :
    ∃ bs, octets disk input = .ok bs ∧ Source.lines bs = ls := by
  cases hb : octets disk input with
  | error e => simp [lines, hb, Except.map] at h
  | ok bs => exact ⟨bs, rfl, by simpa [lines, hb, Except.map] using h⟩

lemma octets_of_error {e : ReadError} (h : lines disk input = .error e) : octets disk input = .error e := by
  cases hb : octets disk input <;> simp_all [lines, Except.map]

variable (d : Delimiters)

lemma founds_of_open {identity : Nat} (h : open? disk input = .ok identity) :
    founds disk d input =
      (Scan.foundsFrom d (disk.readingFault? identity).isNone 1 none (Source.lines (legible disk identity)),
        (disk.readingFault? identity).map (.failed input.file)) := by
  cases hf : disk.readingFault? identity <;> simp [founds, h, hf, Scan.foundsFrom, Scan.blocks, Scan.ended]

lemma founds_of_lines {ls : List String} (h : lines disk input = .ok ls) :
    founds disk d input = (Scan.blocks d ls, none) := by
  obtain ⟨bs, hb, rfl⟩ := octets_of_lines h
  obtain ⟨identity, ho, hf, rfl⟩ := octets_eq_ok_iff.mp hb
  simp [founds, ho, hf, legible]

lemma founds_of_error {e : ReadError} (h : lines disk input = .error e) :
    (founds disk d input).2 = some e := by
  have hb := octets_of_error h
  cases ho : open? disk input with
  | error e' =>
    obtain rfl : e' = e := by simpa [octets, ho] using hb
    simp [founds, ho]
  | ok identity =>
    cases hf : disk.readingFault? identity with
    | none => simp [octets, ho, hf] at hb
    | some cause =>
      obtain rfl : ReadError.failed input.file cause = e := by simpa [octets, ho, hf] using hb
      simp [founds, ho, hf]

lemma founds_of_unopened {e : ReadError} (h : open? disk input = .error e) :
    founds disk d input = ([], some e) := by
  simp [founds, h]

lemma founds_prefix (disk : Disk) (d : Delimiters) (input : Input) :
    ∃ bs, (founds disk d input).1 <+: Scan.blocks d (Source.lines bs) := by
  cases ho : open? disk input with
  | error e =>
    refine ⟨[], ?_⟩
    rw [founds_of_unopened d ho]
    exact List.nil_prefix
  | ok identity =>
    refine ⟨legible disk identity, ?_⟩
    cases hf : disk.readingFault? identity with
    | none => simp [founds, ho, hf]
    | some cause =>
      simp only [founds, ho, hf]
      exact Scan.endedFrom_prefix d 1 none _

lemma founds_ordered (disk : Disk) (d : Delimiters) (input : Input) :
    (∀ f ∈ (founds disk d input).1, f.Proper) ∧
      (founds disk d input).1.Pairwise (·.initial < ·.initial) := by
  obtain ⟨bs, h⟩ := founds_prefix disk d input
  obtain ⟨hproper, hordered⟩ := Scan.blocks_ordered d (Source.lines bs)
  exact ⟨fun f hf => hproper f (h.mem hf), hordered.sublist h.sublist⟩

end Run

end CommentDoc
