import CommentDoc.Proofs.Scan.Marks

namespace CommentDoc

structure Found.Proper (f : Found) : Prop where
  initial : 1 ≤ f.initial
  markup : f.kind = .function → f.markup = functionMarkup

lemma Draft.proper_settle {b : Draft} (h : 1 ≤ b.initial) (kind : BlockKind)
    (warning : Option (ScanWarning × Nat)) :
    (b.settle kind warning).Proper := by
  refine ⟨h, ?_⟩
  intro hk
  exact if_pos hk

lemma Draft.read_cases (d : Delimiters) (b : Draft) (n : Nat) (line : String) :
    (∃ text, d.strip? b.kind (Source.unindented line) = some text ∧ b.read d n line = .inl (b.push text)) ∨
      ∃ kind warning, b.read d n line = .inr (b.settle kind warning) := by
  cases hf : d.footKind? (Source.unindented line) with
  | some foot =>
    obtain ⟨kind, warning, hc, -⟩ := b.close_eq_settle foot n
    refine Or.inr ⟨kind, warning, ?_⟩
    simp [Draft.read, hf, hc]
  | none =>
    cases hs : d.strip? b.kind (Source.unindented line) with
    | some text =>
      refine Or.inl ⟨text, rfl, ?_⟩
      simp [Draft.read, hf, hs]
    | none =>
      refine Or.inr ⟨b.kind, some (.unclosed, n), ?_⟩
      simp [Draft.read, hf, hs, Draft.abandon]

lemma Draft.initial_of_open? {d : Delimiters} {n : Nat} {line : String} {b : Draft}
    (h : Draft.open? d n line = some b) : b.initial = n := by
  obtain ⟨kind, -, rfl⟩ := Option.map_eq_some_iff.mp h
  rfl

namespace Scan

lemma blocksFrom_ordered (d : Delimiters) (low n : Nat) (b : Option Draft) (ls : List String) (hpos : 1 ≤ low)
    (hlow : low ≤ n) (hb : ∀ b' ∈ b, low ≤ b'.initial ∧ b'.initial < n) :
    (∀ f ∈ blocksFrom d n b ls, f.Proper ∧ low ≤ f.initial) ∧
      (blocksFrom d n b ls).Pairwise (·.initial < ·.initial) := by
  induction ls generalizing low n b with
  | nil =>
    cases b with
    | none => simp [blocksFrom]
    | some b =>
      have hb' := hb b rfl
      simpa [blocksFrom, Draft.finish] using ⟨b.proper_settle (by omega) b.kind none, hb'.1⟩
  | cons line ls ih =>
    cases b with
    | none =>
      refine ih low (n + 1) _ hpos (by omega) ?_
      intro b' ho
      have hi := Draft.initial_of_open? ho
      omega
    | some b =>
      have hb' := hb b rfl
      obtain ⟨text, -, hr⟩ | ⟨kind, warning, hr⟩ := b.read_cases d n line
      · rw [blocksFrom, hr]
        refine ih low (n + 1) _ hpos (by omega) ?_
        rintro _ ⟨⟩
        have hi : (b.push text).initial = b.initial := rfl
        omega
      · rw [blocksFrom, hr]
        -- what follows the block starts after the line that ends it
        obtain ⟨hall, hpair⟩ := ih (n + 1) (n + 1) none (by omega) (by omega) (by simp)
        refine ⟨?_, List.pairwise_cons.mpr ⟨?_, hpair⟩⟩
        · intro f hf
          rcases List.mem_cons.mp hf with rfl | hf
          · exact ⟨b.proper_settle (by omega) kind warning, hb'.1⟩
          · have hf' := hall f hf
            exact ⟨hf'.1, by omega⟩
        · intro f hf
          have hf' := (hall f hf).2
          have hi : (b.settle kind warning).initial = b.initial := rfl
          omega

lemma blocks_ordered (d : Delimiters) (ls : List String) :
    (∀ f ∈ blocks d ls, f.Proper) ∧ (blocks d ls).Pairwise (·.initial < ·.initial) := by
  obtain ⟨hall, hpair⟩ := blocksFrom_ordered d 1 1 none ls (Nat.le_refl 1) (Nat.le_refl 1) (by simp)
  exact ⟨fun f hf => (hall f hf).1, hpair⟩

end Scan

end CommentDoc
