import CommentDoc.Block.Record
import CommentDoc.Proofs.Scan.Order
import CommentDoc.Proofs.Source.Lines
import Mathlib.Data.List.TakeWhile

namespace CommentDoc

lemma Text.mem_of_mem_pieces {α : Type} {sep : α → Bool} {as p : List α} (h : p ∈ pieces sep as) {a : α}
    (ha : a ∈ p) : a ∈ as ∧ sep a = false := by
  induction as generalizing p with
  | nil =>
    obtain rfl : p = [] := List.mem_singleton.mp h
    cases ha
  | cons b as ih =>
    cases hb : sep b with
    | true =>
      rw [pieces, if_pos hb] at h
      rcases List.mem_cons.mp h with rfl | h
      · cases ha
      · exact ⟨List.mem_cons_of_mem _ (ih h ha).1, (ih h ha).2⟩
    | false =>
      obtain ⟨q, ps, hps⟩ := List.exists_cons_of_ne_nil (pieces_ne_nil sep as)
      simp only [pieces, hb, hps, Bool.false_eq_true, if_false] at h
      rw [hps] at ih
      rcases List.mem_cons.mp h with rfl | h
      · rcases List.mem_cons.mp ha with rfl | ha
        · exact ⟨List.mem_cons_self, hb⟩
        · exact ⟨List.mem_cons_of_mem _ (ih List.mem_cons_self ha).1, (ih List.mem_cons_self ha).2⟩
      · have hp := ih (List.mem_cons_of_mem _ h) ha
        exact ⟨List.mem_cons_of_mem _ hp.1, hp.2⟩

def OneLine (s : String) : Prop :=
  '\n' ∉ s.toList

instance (s : String) : Decidable (OneLine s) :=
  inferInstanceAs (Decidable ('\n' ∉ s.toList))

namespace Source

lemma mem_of_mem_withoutEmptyLast {α : Type} [DecidableEq α] {ls : List (List α)} {p : List α}
    (h : p ∈ withoutEmptyLast ls) : p ∈ ls := by
  unfold withoutEmptyLast at h
  split at h
  · exact List.dropLast_subset ls h
  · exact h

lemma oneLine_of_mem_lines {bs : Text.Utf8.Octets} {line : String} (h : line ∈ lines bs) : OneLine line := by
  obtain ⟨p, hp, rfl⟩ := List.mem_map.mp h
  rw [OneLine, String.toList_ofList]
  intro hn
  have hsep := (Text.mem_of_mem_pieces (mem_of_mem_withoutEmptyLast hp) hn).2
  exact absurd hsep (by decide)

lemma unindented_sublist (line : String) : (unindented line).Sublist line.toList :=
  List.dropWhile_sublist _

end Source

lemma Head.oneLine_tag {content tag : List Char} (h : Head.tag? content = some tag) :
    OneLine (String.ofList tag) := by
  unfold Head.tag? at h
  dsimp only at h
  split at h
  next =>
    obtain rfl := Option.some.inj h
    rw [OneLine, String.toList_ofList, List.mem_reverse]
    intro hn
    exact absurd (List.mem_takeWhile_imp hn) (by decide)
  next => cases h

lemma Lead.strip?_sublist {style : CommentStyle} {content text : List Char}
    (h : Lead.strip? style content = some text) :
    text.Sublist content := by
  unfold Lead.strip? at h
  split at h
  next => cases h
  next c rest =>
    split at h
    next =>
      split at h
      next text' =>
        obtain rfl := Option.some.inj h
        exact (List.sublist_cons_self ' ' text').trans (List.sublist_cons_self c _)
      next =>
        obtain rfl := Option.some.inj h
        exact List.nil_sublist _
      next =>
        obtain rfl := Option.some.inj h
        exact List.sublist_cons_self c _
      next => cases h
    next => cases h

lemma Delimiters.strip?_sublist {d : Delimiters} {kind : BlockKind} {content text : List Char}
    (h : d.strip? kind content = some text) : text.Sublist content := by
  obtain ⟨marks, -, hs⟩ := Option.bind_eq_some_iff.mp h
  exact Lead.strip?_sublist hs

structure Draft.OneLined (b : Draft) : Prop where
  markup : OneLine b.markup
  captured : ∀ text ∈ b.captured, OneLine text

structure Found.OneLined (f : Found) : Prop where
  markup : OneLine f.markup
  captured : ∀ text ∈ f.captured, OneLine text

namespace Draft.OneLined

lemma of_open? {d : Delimiters} {n : Nat} {line : String} {b : Draft} (h : Draft.open? d n line = some b) :
    b.OneLined := by
  obtain ⟨kind, -, rfl⟩ := Option.map_eq_some_iff.mp h
  refine ⟨?_, by simp⟩
  cases ht : Delimiters.tag? kind (Source.unindented line) with
  | none => exact (by decide : OneLine noMarkup)
  | some tag =>
    cases kind with
    | generic => exact Head.oneLine_tag ht
    | function => cases ht

lemma push {b : Draft} (h : b.OneLined) {d : Delimiters} {line : String} (hline : OneLine line)
    {text : List Char}
    (ht : d.strip? b.kind (Source.unindented line) = some text) : (b.push text).OneLined := by
  refine ⟨h.markup, ?_⟩
  intro t hm
  rcases List.mem_append.mp hm with hm | hm
  · exact h.captured t hm
  · rw [List.mem_singleton.mp hm, OneLine, String.toList_ofList]
    intro hn
    exact hline ((Source.unindented_sublist line).subset ((Delimiters.strip?_sublist ht).subset hn))

lemma settle {b : Draft} (h : b.OneLined) (kind : BlockKind) (warning : Option (ScanWarning × Nat)) :
    (b.settle kind warning).OneLined := by
  refine ⟨?_, h.captured⟩
  by_cases hk : kind = .function
  · simp only [Draft.settle, if_pos hk]
    exact (by decide : OneLine functionMarkup)
  · simp only [Draft.settle, if_neg hk]
    exact h.markup

end Draft.OneLined

namespace Scan

lemma oneLined_of_mem_blocksFrom {d : Delimiters} {n : Nat} {b : Option Draft} {ls : List String}
    (hb : ∀ b' ∈ b, b'.OneLined) (hls : ∀ line ∈ ls, OneLine line) {f : Found} (h : f ∈ blocksFrom d n b ls) :
    f.OneLined := by
  induction ls generalizing n b with
  | nil =>
    cases b with
    | none => cases h
    | some b =>
      rw [List.mem_singleton.mp h]
      exact (hb b rfl).settle b.kind none
  | cons line ls ih =>
    have hrest : ∀ line ∈ ls, OneLine line := fun l hl => hls l (List.mem_cons_of_mem _ hl)
    cases b with
    | none => exact ih (fun b' ho => .of_open? ho) hrest h
    | some b =>
      have hdraft := hb b rfl
      obtain ⟨text, ht, hr⟩ | ⟨kind, warning, hr⟩ := b.read_cases d n line
      · rw [blocksFrom, hr] at h
        refine ih ?_ hrest h
        rintro _ ⟨⟩
        exact hdraft.push (hls line List.mem_cons_self) ht
      · rw [blocksFrom, hr] at h
        rcases List.mem_cons.mp h with rfl | h
        · exact hdraft.settle kind warning
        · exact ih (by simp) hrest h

lemma oneLined_of_mem_blocks {d : Delimiters} {bs : Text.Utf8.Octets} {f : Found}
    (h : f ∈ blocks d (Source.lines bs)) : f.OneLined :=
  oneLined_of_mem_blocksFrom (by simp) (fun _ hl => Source.oneLine_of_mem_lines hl) h

end Scan

end CommentDoc
