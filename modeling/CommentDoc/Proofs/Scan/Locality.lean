import CommentDoc.Proofs.Scan.Order
import CommentDoc.Proofs.Scan.Placement

/-! Scanning a file in two parts. What has ended in the first part stays as it is, and what
follows is scanned as a file of its own unless a block is open at its start. -/

namespace CommentDoc

namespace Scan

def progress (d : Delimiters) : (n : Nat) → (b : Option Draft) → List String → List Found × Option Draft
  | _, b, [] => ([], b)
  | n, none, line :: rest => progress d (n + 1) (Draft.open? d n line) rest
  | n, some b, line :: rest =>
    match b.read d n line with
    | .inl b => progress d (n + 1) (some b) rest
    | .inr found => (found :: (progress d (n + 1) none rest).1, (progress d (n + 1) none rest).2)

lemma blocksFrom_append (d : Delimiters) (n : Nat) (b : Option Draft) (as bs : List String) :
    blocksFrom d n b (as ++ bs) =
      (progress d n b as).1 ++ blocksFrom d (n + as.length) (progress d n b as).2 bs := by
  induction as generalizing n b with
  | nil =>
    rw [progress]
    rfl
  | cons line as ih =>
    have hlength : n + (line :: as).length = n + 1 + as.length := by
      rw [List.length_cons]
      omega
    rw [List.cons_append, hlength]
    cases b with
    | none =>
      rw [blocksFrom, progress]
      exact ih (n + 1) _
    | some b =>
      rw [blocksFrom, progress]
      cases b.read d n line with
      | inl b' => exact ih (n + 1) (some b')
      | inr found => exact congrArg (found :: ·) (ih (n + 1) none)

lemma blocksFrom_eq_progress (d : Delimiters) (n : Nat) (b : Option Draft) (ls : List String) :
    blocksFrom d n b ls = (progress d n b ls).1 ++ ((progress d n b ls).2.map Draft.finish).toList := by
  have happend := blocksFrom_append d n b ls []
  rw [List.append_nil] at happend
  rw [happend]
  cases (progress d n b ls).2 <;> rfl

end Scan

def Found.lastLine (f : Found) : Nat :=
  f.initial + f.captured.length + 1

def Draft.At (n : Nat) (b : Draft) : Prop :=
  b.initial + b.captured.length + 1 = n

lemma Draft.At.push {n : Nat} {b : Draft} (h : b.At n) (text : List Char) : (b.push text).At (n + 1) := by
  simp only [At, Draft.push, List.length_append, List.length_singleton] at h ⊢
  omega

lemma Draft.at_of_open? {d : Delimiters} {n : Nat} {line : String} {b : Draft}
    (h : Draft.open? d n line = some b) :
    b.At (n + 1) := by
  obtain ⟨kind, -, rfl⟩ := Option.map_eq_some_iff.mp h
  rfl

lemma Draft.At.lastLine_settle {n : Nat} {b : Draft} (h : b.At n) (kind : BlockKind)
    (warning : Option (ScanWarning × Nat)) : (b.settle kind warning).lastLine = n := h

namespace Scan

lemma progress_at (d : Delimiters) (n : Nat) (b : Option Draft) (ls : List String) (hb : ∀ b' ∈ b, b'.At n) :
    (∀ f ∈ (progress d n b ls).1, f.lastLine < n + ls.length) ∧
      ∀ b' ∈ (progress d n b ls).2, b'.At (n + ls.length) := by
  induction ls generalizing n b with
  | nil =>
    rw [progress]
    exact ⟨by simp, hb⟩
  | cons line ls ih =>
    have hlength : n + (line :: ls).length = n + 1 + ls.length := by
      rw [List.length_cons]
      omega
    rw [hlength]
    cases b with
    | none =>
      rw [progress]
      exact ih (n + 1) _ fun b' ho => Draft.at_of_open? ho
    | some b =>
      have hat := hb b rfl
      rw [progress]
      obtain ⟨text, -, hr⟩ | ⟨kind, warning, hr⟩ := b.read_cases d n line
      · rw [hr]
        refine ih (n + 1) _ ?_
        rintro _ ⟨⟩
        exact hat.push text
      · rw [hr]
        obtain ⟨hfounds, hopen⟩ := ih (n + 1) none (by simp)
        refine ⟨?_, hopen⟩
        intro f hf
        rcases List.mem_cons.mp hf with rfl | hf
        · rw [hat.lastLine_settle]
          omega
        · exact hfounds f hf

lemma blocksFrom_open (d : Delimiters) (n : Nat) (b : Draft) (ls : List String) :
    ∃ f rest, blocksFrom d n (some b) ls = f :: rest ∧ f.initial = b.initial ∧ b.captured <+: f.captured := by
  induction ls generalizing n b with
  | nil => exact ⟨b.finish, [], rfl, rfl, List.prefix_refl _⟩
  | cons line ls ih =>
    obtain ⟨text, -, hr⟩ | ⟨kind, warning, hr⟩ := b.read_cases d n line
    · obtain ⟨f, rest, hf, hinitial, hcaptured⟩ := ih (n + 1) (b.push text)
      refine ⟨f, rest, ?_, hinitial, (List.prefix_append _ _).trans hcaptured⟩
      rw [blocksFrom, hr]
      exact hf
    · refine ⟨b.settle kind warning, blocksFrom d (n + 1) none ls, ?_, rfl, List.prefix_refl _⟩
      rw [blocksFrom, hr]

end Scan

def Draft.down (k : Nat) (b : Draft) : Draft :=
  { b with initial := b.initial + k }

def Found.down (k : Nat) (f : Found) : Found :=
  { f with
    initial := f.initial + k
    warning := f.warning.map fun w => (w.1, w.2 + k) }

lemma Draft.open?_down (d : Delimiters) (n k : Nat) (line : String) :
    Draft.open? d (n + k) line = (Draft.open? d n line).map (Draft.down k) := by
  rw [Draft.open?, Draft.open?, Option.map_map]
  rfl

lemma Draft.close_down (b : Draft) (foot : BlockKind) (n k : Nat) :
    (b.down k).close foot (n + k) = (b.close foot n).down k := by
  rw [close_eq, close_eq]
  simp only [settle, Found.down, Option.map_if]
  rfl

lemma Draft.read_down (d : Delimiters) (b : Draft) (n k : Nat) (line : String) :
    (b.down k).read d (n + k) line = (b.read d n line).map (Draft.down k) (Found.down k) := by
  have hkind : (b.down k).kind = b.kind := rfl
  rw [Draft.read, Draft.read, hkind]
  cases d.footKind? (Source.unindented line) with
  | some foot => exact congrArg Sum.inr (b.close_down foot n k)
  | none =>
    cases d.strip? b.kind (Source.unindented line) with
    | some text => rfl
    | none => rfl

namespace Scan

lemma blocksFrom_down (d : Delimiters) (n k : Nat) (b : Option Draft) (ls : List String) :
    blocksFrom d (n + k) (b.map (Draft.down k)) ls = (blocksFrom d n b ls).map (Found.down k) := by
  induction ls generalizing n b with
  | nil => cases b <;> rfl
  | cons line ls ih =>
    have hnext : n + k + 1 = n + 1 + k := Nat.add_right_comm n k 1
    cases b with
    | none =>
      rw [Option.map_none, blocksFrom, blocksFrom, Draft.open?_down, hnext]
      exact ih (n + 1) _
    | some b =>
      rw [Option.map_some, blocksFrom, blocksFrom, Draft.read_down, hnext]
      cases b.read d n line with
      | inl b' => exact ih (n + 1) (some b')
      | inr found => exact congrArg (found.down k :: ·) (ih (n + 1) none)

end Scan

def Found.Ended (family : Family) (ls : List String) (f : Found) : Prop :=
  ∃ line, Source.line? ls f.lastLine = some line ∧ (family.FootLine line ∨ ¬ family.LeadLine line)

lemma Found.ended_iff {family : Family} {ls : List String} {f : Found}
    (h : f ∈ Scan.blocks family.delimiters ls) :
    f.Ended family ls ↔ f.lastLine ≤ ls.length := by
  constructor
  · rintro ⟨line, hline, -⟩
    exact (List.getElem?_eq_some_iff.mp hline).1
  · intro hle
    have hreport := (Scan.placed_of_mem_blocks h 0 "").2
    generalize f.diagnostics "" = reported at hreport
    cases hreport with
    | endOfFile hend =>
      have hcut : ls.length = f.initial + f.captured.length := hend
      rw [Found.lastLine] at hle
      omega
    | foot _ hline hfoot _ => exact ⟨_, hline, Or.inl hfoot⟩
    | mistagged _ hline hm => exact ⟨_, hline, Or.inl ⟨.function, hm.1⟩⟩
    | stray hline _ hlead => exact ⟨_, hline, Or.inr hlead⟩

namespace Scan

variable {family : Family} {as : List String}

lemma ended_of_mem_progress {f : Found} (h : f ∈ (progress family.delimiters 1 none as).1) :
    f.Ended family as := by
  have hmem : f ∈ blocks family.delimiters as := by
    rw [blocks, blocksFrom_eq_progress]
    exact List.mem_append_left _ h
  have hlast := (progress_at family.delimiters 1 none as (by simp)).1 f h
  rw [Found.ended_iff hmem]
  omega

lemma not_ended_of_open {b : Draft} (h : (progress family.delimiters 1 none as).2 = some b) :
    ¬ b.finish.Ended family as := by
  have hmem : b.finish ∈ blocks family.delimiters as := by
    rw [blocks, blocksFrom_eq_progress, h]
    simp
  have hat := (progress_at family.delimiters 1 none as (by simp)).2 b h
  have hlast : b.finish.lastLine = 1 + as.length := hat.lastLine_settle b.kind none
  rw [Found.ended_iff hmem, hlast]
  omega

lemma ended_or_open {n : Nat} {f : Found} (hf : (blocks family.delimiters as)[n]? = some f) :
    (f.Ended family as ∧ (progress family.delimiters 1 none as).1[n]? = some f) ∨
      ¬ f.Ended family as ∧ n = (progress family.delimiters 1 none as).1.length ∧
        ∃ b, (progress family.delimiters 1 none as).2 = some b ∧ f = b.finish := by
  rw [blocks, blocksFrom_eq_progress, List.getElem?_append] at hf
  split at hf
  next => exact Or.inl ⟨ended_of_mem_progress (List.mem_of_getElem? hf), hf⟩
  next hn =>
    cases hb : (progress family.delimiters 1 none as).2 with
    | none => simp [hb] at hf
    | some b =>
      simp only [hb, Option.map_some, Option.toList_some, List.getElem?_singleton,
        Option.ite_none_right_eq_some,
        Option.some.injEq] at hf
      obtain ⟨hindex, rfl⟩ := hf
      exact Or.inr ⟨not_ended_of_open hb, by omega, b, rfl, rfl⟩

lemma getElem?_of_ended {n : Nat} {f : Found} (hf : (blocks family.delimiters as)[n]? = some f)
    (h : f.Ended family as) (bs : List String) : (blocks family.delimiters (as ++ bs))[n]? = some f := by
  rcases ended_or_open hf with ⟨-, hclosed⟩ | ⟨hopen, -⟩
  · have hlt := (List.getElem?_eq_some_iff.mp hclosed).1
    rw [blocks, blocksFrom_append, List.getElem?_append_left hlt]
    exact hclosed
  · exact absurd h hopen

lemma blocks_append_of_ended (h : ∀ f ∈ blocks family.delimiters as, f.Ended family as) (bs : List String) :
    blocks family.delimiters (as ++ bs) =
      blocks family.delimiters as ++ (blocks family.delimiters bs).map (Found.down as.length) := by
  have hfirst := blocksFrom_eq_progress family.delimiters 1 none as
  cases hb : (progress family.delimiters 1 none as).2 with
  | none =>
    have hdown := blocksFrom_down family.delimiters 1 as.length none bs
    rw [hb, Option.map_none, Option.toList_none, List.append_nil] at hfirst
    rw [blocks, blocksFrom_append, hb, ← hfirst]
    exact congrArg (_ ++ ·) hdown
  | some b =>
    have hmem : b.finish ∈ blocks family.delimiters as := by
      rw [blocks, hfirst, hb]
      simp
    exact absurd (h _ hmem) (not_ended_of_open hb)

lemma getElem?_of_not_ended {n : Nat} {f : Found} (hf : (blocks family.delimiters as)[n]? = some f)
    (h : ¬ f.Ended family as) (bs : List String) :
    ∃ f', (blocks family.delimiters (as ++ bs))[n]? = some f' ∧ f'.initial = f.initial ∧
      f.captured <+: f'.captured := by
  rcases ended_or_open hf with ⟨hended, -⟩ | ⟨-, hn, b, hb, rfl⟩
  · exact absurd hended h
  · obtain ⟨f', rest, hf', hinitial, hcaptured⟩ := blocksFrom_open family.delimiters (1 + as.length) b bs
    refine ⟨f', ?_, hinitial, hcaptured⟩
    rw [blocks, blocksFrom_append, hb, hf', hn]
    simp

end Scan

theorem scanning_is_local (family : Family) (as bs : List String) :
    let inFirst := Scan.blocks family.delimiters as
    let inSecond := Scan.blocks family.delimiters bs
    let inWhole := Scan.blocks family.delimiters (as ++ bs)
    (∀ (disk : Disk) (input : Input) (lines : List String), Run.lines disk input = .ok lines →
      Scanner.Finds disk family input (Scan.blocks family.delimiters lines)) ∧
    (∀ (n : Nat) (f : Found), inFirst[n]? = some f → f.Ended family as → inWhole[n]? = some f) ∧
    ((∀ f ∈ inFirst, f.Ended family as) → inWhole = inFirst ++ inSecond.map (Found.down as.length)) ∧
    ∀ (n : Nat) (f : Found), inFirst[n]? = some f → ¬ f.Ended family as →
      ∃ f', inWhole[n]? = some f' ∧ f'.initial = f.initial ∧ f.captured <+: f'.captured := by
  intro inFirst inSecond inWhole
  refine ⟨?_, ?_, ?_, ?_⟩
  · intro disk input lines hlines
    exact Scanner.finds_blocks hlines family
  · intro n f hf hended
    exact Scan.getElem?_of_ended hf hended bs
  · intro hended
    exact Scan.blocks_append_of_ended hended bs
  · intro n f hf hopen
    exact Scan.getElem?_of_not_ended hf hopen bs

def cutLines : List String :=
  ["##", "# a", "code", "##!x", "# b"]

def laterLines : List String :=
  ["# c", "f()", "##", "# d"]

def cutDisk : Disk :=
  Disk.empty.addFile (Path.ofString "a.sh") (Text.Utf8.encode (Source.text (cutLines ++ laterLines)))

theorem scanning_is_local_at_open_block :
    Scanner.Finds cutDisk .shell (.verbatim "a.sh")
      (Scan.blocks Family.shell.delimiters (cutLines ++ laterLines)) ∧
      (Scan.blocks Family.shell.delimiters (cutLines ++ laterLines))[0]? =
        some ⟨.generic, "none", 1, ["a"], some (.unclosed, 3)⟩ ∧
      ∃ f, (Scan.blocks Family.shell.delimiters (cutLines ++ laterLines))[1]? = some f ∧ f.initial = 4 ∧
        ["b"] <+: f.captured := by
  obtain ⟨hfinds, hended, -, hopen⟩ := scanning_is_local .shell cutLines laterLines
  refine ⟨?_, ?_, ?_⟩
  · have hlines : Run.lines cutDisk (.verbatim "a.sh") = .ok (cutLines ++ laterLines) := by decide +kernel
    exact hfinds cutDisk (.verbatim "a.sh") _ hlines
  · exact hended 0 _ (by decide +kernel) ⟨"code", rfl, Or.inr (by decide)⟩
  · refine hopen 1 ⟨.generic, "x", 4, ["b"], none⟩ (by decide +kernel) ?_
    rintro ⟨line, hline, -⟩
    cases hline

end CommentDoc
