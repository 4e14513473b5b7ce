import CommentDoc.Proofs.Source.Decoding
import CommentDoc.Source

namespace CommentDoc

namespace Text

variable {α : Type} {sep : α → Bool}

lemma pieces_of_notSep {as : List α} (h : ∀ a ∈ as, sep a = false) : pieces sep as = [as] := by
  induction as with
  | nil => rfl
  | cons a as ih =>
    have ha : sep a = false := h a (by simp)
    have has := ih fun b hb => h b (by simp [hb])
    simp [pieces, ha, has]

lemma pieces_append {as bs : List α} {a : α} (has : ∀ b ∈ as, sep b = false) (ha : sep a = true) :
    pieces sep (as ++ a :: bs) = as :: pieces sep bs := by
  induction as with
  | nil => simp [pieces, ha]
  | cons b as ih =>
    have hb : sep b = false := has b (by simp)
    have hh := ih fun c hc => has c (by simp [hc])
    simp [pieces, hb, hh]

end Text

namespace Source

open Text.Utf8 (Octets)

lemma withoutEmptyLast_cons {α : Type} [DecidableEq α] (p : List α) {ls : List (List α)} (h : ls ≠ []) :
    withoutEmptyLast (p :: ls) = p :: withoutEmptyLast ls := by
  have hl : (p :: ls).getLast? = ls.getLast? := by
    rw [List.getLast?_cons_of_ne_nil h]
  have hd : (p :: ls).dropLast = p :: ls.dropLast := List.dropLast_cons_of_ne_nil h
  unfold withoutEmptyLast
  rw [hl, hd]
  split <;> rfl

lemma splitLines_append {line : List Char} (h : '\n' ∉ line) (rest : List Char) :
    splitLines (line ++ '\n' :: rest) = line :: splitLines rest := by
  have hline : ∀ c ∈ line, (c == '\n') = false := by
    intro c hc
    simpa using ne_of_mem_of_not_mem hc h
  rw [splitLines, Text.pieces_append hline (by simp), withoutEmptyLast_cons _ (Text.pieces_ne_nil _ _)]
  rfl

lemma splitLines_last {line : List Char} (h : '\n' ∉ line) (hne : line ≠ []) :
    splitLines line = [line] := by
  have hline : ∀ c ∈ line, (c == '\n') = false := by
    intro c hc
    simpa using ne_of_mem_of_not_mem hc h
  simp [splitLines, withoutEmptyLast, Text.pieces_of_notSep hline, hne]

@[simp] lemma lines_nil : lines [] = [] := rfl

lemma lines_append {bs : Octets} (h : 0x0A ∉ bs) (rest : Octets) :
    lines (bs ++ 0x0A :: rest) = String.ofList (Text.Utf8.decode bs) :: lines rest := by
  rw [lines, Text.Utf8.decode_newline, splitLines_append (Text.Utf8.decode_newline_notMem h)]
  rfl

lemma lines_last {bs : Octets} (h : 0x0A ∉ bs) (hne : bs ≠ []) :
    lines bs = [String.ofList (Text.Utf8.decode bs)] := by
  rw [lines, splitLines_last (Text.Utf8.decode_newline_notMem h) (Text.Utf8.decode_ne_nil hne)]
  rfl

lemma newline_cases (bs : Octets) :
    0x0A ∉ bs ∨ ∃ line rest, bs = line ++ 0x0A :: rest ∧ 0x0A ∉ line := by
  by_cases h : 0x0A ∈ bs
  · obtain ⟨line, rest, rfl, hline⟩ := List.eq_append_cons_of_mem h
    exact Or.inr ⟨line, rest, rfl, hline⟩
  · exact Or.inl h

lemma dropWhile_line {line : Octets} (h : 0x0A ∉ line) (rest : Octets) :
    (line ++ rest).dropWhile (· ≠ 0x0A) = rest.dropWhile (· ≠ 0x0A) := by
  apply List.dropWhile_append_of_pos
  intro b hb
  simpa using ne_of_mem_of_not_mem hb h

lemma afterLines_succ {line : Octets} (h : 0x0A ∉ line) (n : Nat) (rest : Octets) :
    afterLines (n + 1) (line ++ 0x0A :: rest) = afterLines n rest := by
  rw [afterLines, dropWhile_line h]
  rfl

lemma afterLines_last {bs : Octets} (h : 0x0A ∉ bs) (n : Nat) : afterLines (n + 1) bs = afterLines n [] := by
  have hd := dropWhile_line h []
  rw [List.append_nil] at hd
  rw [afterLines, hd]
  rfl

@[simp] lemma afterLines_nil (n : Nat) : afterLines n [] = [] := by
  induction n with
  | zero => rfl
  | succ n ih => simpa [afterLines] using ih

lemma lines_afterLines (n : Nat) (bs : Octets) : lines (afterLines n bs) = (lines bs).drop n := by
  induction n generalizing bs with
  | zero => rfl
  | succ n ih =>
    rcases newline_cases bs with h | ⟨line, rest, rfl, hline⟩
    · rw [afterLines_last h, afterLines_nil]
      by_cases hne : bs = []
      · simp [hne]
      · simp [lines_last h hne]
    · rw [afterLines_succ hline, lines_append hline, List.drop_succ_cons, ih]

lemma afterLines_suffix (n : Nat) (bs : Octets) : afterLines n bs <:+ bs := by
  induction n generalizing bs with
  | zero => exact List.suffix_refl bs
  | succ n ih =>
    exact (ih _).trans ((List.drop_suffix 1 _).trans (List.dropWhile_suffix _))

lemma ended_append (line rest : Octets) : ended (line ++ 0x0A :: rest) = line ++ 0x0A :: ended rest := by
  have hd : (rest.reverse ++ 0x0A :: line.reverse).dropWhile (· ≠ 0x0A) =
      rest.reverse.dropWhile (· ≠ 0x0A) ++ 0x0A :: line.reverse := by
    rw [List.dropWhile_append]
    split
    next h => rw [List.isEmpty_iff.mp h, List.nil_append, List.dropWhile_cons_of_neg (by simp)]
    next => rfl
  have hr : (line ++ 0x0A :: rest).reverse = rest.reverse ++ 0x0A :: line.reverse := by simp
  rw [ended, ended, hr, hd]
  simp

lemma ended_last {bs : Octets} (h : 0x0A ∉ bs) : ended bs = [] := by
  have hd : bs.reverse.dropWhile (· ≠ 0x0A) = [] := by
    have hr : (0x0A : UInt8) ∉ bs.reverse := by simpa using h
    rw [← List.append_nil bs.reverse, dropWhile_line hr, List.dropWhile_nil]
  rw [ended, hd, List.reverse_nil]

lemma lines_ended_afterLines (n : Nat) (bs : Octets) :
    lines (ended (afterLines n bs)) = (lines (ended bs)).drop n := by
  induction n generalizing bs with
  | zero => rfl
  | succ n ih =>
    rcases newline_cases bs with h | ⟨line, rest, rfl, hline⟩
    · rw [afterLines_last h, afterLines_nil, ended_last h]
      rfl
    · rw [afterLines_succ hline, ended_append, lines_append hline, List.drop_succ_cons, ih]

def text (ls : List String) : List Char :=
  ls.flatMap fun line => line.toList ++ ['\n']

lemma splitLines_text {ls : List String} (h : ∀ line ∈ ls, '\n' ∉ line.toList) :
    splitLines (text ls) = ls.map String.toList := by
  induction ls with
  | nil => rfl
  | cons line ls ih =>
    have hline : '\n' ∉ line.toList := h line (by simp)
    have hls := ih fun l hl => h l (by simp [hl])
    have ht : text (line :: ls) = line.toList ++ '\n' :: text ls := by simp [text]
    rw [ht, splitLines_append hline, hls, List.map_cons]

theorem lines_encode_text {ls : List String} (h : ∀ line ∈ ls, '\n' ∉ line.toList) :
    lines (Text.Utf8.encode (text ls)) = ls := by
  rw [lines, Text.Utf8.decode_encode, splitLines_text h, List.map_map]
  simp [Function.comp_def]

end Source

end CommentDoc
