import CommentDoc.Proofs.Scan.Newlines
import CommentDoc.Proofs.Scan.Placement

/-! Whatever octets a file has, its lines are the pieces between its newline octets, each decoded
on its own. -/

namespace CommentDoc

open Text.Utf8 (Octets)

namespace Text

variable {α : Type}

lemma join_concat (sep : List α) {ps : List (List α)} (h : ps ≠ []) (p : List α) :
    join sep (ps ++ [p]) = join sep ps ++ sep ++ p := by
  induction ps with
  | nil => exact absurd rfl h
  | cons q ps ih =>
    cases ps with
    | nil => rfl
    | cons r ps =>
      have hrest := ih (by simp)
      simp only [List.cons_append, join, List.append_assoc] at hrest ⊢
      rw [hrest]

lemma count_join [BEq α] [LawfulBEq α] {a c : α} (h : a ≠ c) (ps : List (List α)) :
    (join [a] ps).count c = ps.flatten.count c := by
  induction ps with
  | nil => rfl
  | cons p ps ih =>
    cases ps with
    | nil => simp [join]
    | cons q ps => simp [join, ih, h]

end Text

namespace Source

lemma lines_induction {P : Octets → Prop} (hlast : ∀ line, 0x0A ∉ line → P line)
    (hline : ∀ line rest, 0x0A ∉ line → P rest → P (line ++ 0x0A :: rest)) (bs : Octets) : P bs := by
  induction hn : bs.length using Nat.strong_induction_on generalizing bs with
  | _ n ih =>
    rcases newline_cases bs with h | ⟨line, rest, rfl, h⟩
    · exact hlast bs h
    · refine hline line rest h (ih rest.length ?_ rest rfl)
      rw [← hn, List.length_append, List.length_cons]
      omega

lemma octets_notSep {line : Octets} (h : 0x0A ∉ line) : ∀ b ∈ line, (b == (0x0A : UInt8)) = false := by
  intro b hb
  simpa using ne_of_mem_of_not_mem hb h

lemma chars_notSep {line : List Char} (h : '\n' ∉ line) : ∀ c ∈ line, (c == '\n') = false := by
  intro c hc
  simpa using ne_of_mem_of_not_mem hc h

lemma pieces_decode (bs : Octets) :
    Text.pieces (· == '\n') (Text.Utf8.decode bs) = (Text.pieces (· == 0x0A) bs).map Text.Utf8.decode := by
  induction bs using lines_induction with
  | hlast line h =>
    have hdecoded := Text.Utf8.decode_newline_notMem h
    rw [Text.pieces_of_notSep (chars_notSep hdecoded), Text.pieces_of_notSep (octets_notSep h)]
    rfl
  | hline line rest h ih =>
    have hdecoded := Text.Utf8.decode_newline_notMem h
    rw [Text.Utf8.decode_newline, Text.pieces_append (chars_notSep hdecoded) (by simp),
      Text.pieces_append (octets_notSep h) (by simp), ih]
    rfl

lemma count_newline_decode (bs : Octets) : (Text.Utf8.decode bs).count '\n' = bs.count 0x0A := by
  induction bs using lines_induction with
  | hlast line h => rw [List.count_eq_zero.mpr h, List.count_eq_zero.mpr (Text.Utf8.decode_newline_notMem h)]
  | hline line rest h ih =>
    rw [Text.Utf8.decode_newline, List.count_append, List.count_append, List.count_cons_self,
      List.count_cons_self, ih,
      List.count_eq_zero.mpr h, List.count_eq_zero.mpr (Text.Utf8.decode_newline_notMem h)]

lemma withoutEmptyLast_map {α β : Type} [DecidableEq α] [DecidableEq β] {f : List α → List β}
    (hf : ∀ p, f p = [] ↔ p = []) (ps : List (List α)) :
    withoutEmptyLast (ps.map f) = (withoutEmptyLast ps).map f := by
  have hlast : (ps.map f).getLast? = some [] ↔ ps.getLast? = some [] := by
    rw [List.getLast?_map]
    cases ps.getLast? with
    | none => simp
    | some p => simpa using hf p
  unfold withoutEmptyLast
  simp only [hlast, ← List.map_dropLast]
  split <;> rfl

lemma join_withoutEmptyLast {α : Type} [DecidableEq α] (a : α) (ps : List (List α)) :
    Text.join [a] (withoutEmptyLast ps) = Text.join [a] ps ∨
      Text.join [a] (withoutEmptyLast ps) ++ [a] = Text.join [a] ps := by
  unfold withoutEmptyLast
  split
  next h =>
    obtain ⟨init, rfl⟩ := List.getLast?_eq_some_iff.mp h
    rw [List.dropLast_concat]
    by_cases hinit : init = []
    · exact Or.inl (by rw [hinit]; rfl)
    · exact Or.inr (by rw [Text.join_concat _ hinit, List.append_nil])
  next => exact Or.inl rfl

/-- The pieces of a file between its newlines. An empty last piece is no line. -/
def octetLines (bs : Octets) : List Octets :=
  withoutEmptyLast (Text.pieces (· == 0x0A) bs)

lemma lines_eq_map_decode (bs : Octets) :
    lines bs = (octetLines bs).map fun line => String.ofList (Text.Utf8.decode line) := by
  have hnil : ∀ line, Text.Utf8.decode line = [] ↔ line = [] := by
    intro line
    constructor
    · intro h
      by_contra hne
      exact Text.Utf8.decode_ne_nil hne h
    · rintro rfl
      rfl
  rw [lines, splitLines, pieces_decode, withoutEmptyLast_map hnil, List.map_map]
  rfl

lemma getElem?_numbered (bs : Octets) (k : Nat) :
    (numbered bs)[k]? = (lines bs)[k]?.map fun text => ⟨k + 1, text⟩ := by
  rw [numbered, List.getElem?_map, List.getElem?_zipIdx, Option.map_map, Nat.add_comm]
  rfl

lemma map_text_numbered (bs : Octets) : (numbered bs).map Line.text = lines bs := by
  rw [numbered, List.map_map]
  exact List.zipIdx_map_fst 1 (lines bs)

lemma map_toList_numbered_encode (s : List Char) :
    (numbered (Text.Utf8.encode s)).map (·.text.toList) = splitLines s := by
  have hmap : (numbered (Text.Utf8.encode s)).map (·.text.toList) =
      (lines (Text.Utf8.encode s)).map String.toList := by
    rw [← map_text_numbered, List.map_map]
    rfl
  rw [hmap, lines, Text.Utf8.decode_encode, List.map_map]
  simp [Function.comp_def]

lemma line?_iff_mem_numbered {bs : Octets} {n : Nat} {text : String} :
    line? (lines bs) n = some text ↔ ⟨n, text⟩ ∈ numbered bs := by
  rw [List.mem_iff_getElem?]
  constructor
  · intro h
    cases n with
    | zero => cases h
    | succ k =>
      refine ⟨k, ?_⟩
      rw [getElem?_numbered]
      exact congrArg (Option.map _) h
  · rintro ⟨k, hk⟩
    rw [getElem?_numbered] at hk
    obtain ⟨text', ht, hline⟩ := Option.map_eq_some_iff.mp hk
    cases hline
    exact ht

end Source

theorem line_numbers_are_exact (bs : Octets) :
    let pieces := Text.pieces (· == 0x0A) bs
    let ls := Source.numbered bs
    (Text.join [0x0A] pieces = bs ∧ ∀ p ∈ pieces, 0x0A ∉ p) ∧
    (∀ k : Nat, ls[k]? =
      (Source.withoutEmptyLast pieces)[k]?.map fun p => .mk (k + 1) (String.ofList (Text.Utf8.decode p))) ∧
    (∀ line ∈ ls, OneLine line.text) ∧
    (Text.Utf8.decode bs).count '\n' = bs.count 0x0A ∧
    (∀ n text, Source.line? (Source.lines bs) n = some text ↔ ⟨n, text⟩ ∈ ls) ∧
    ∀ s, bs = Text.Utf8.encode s →
      (Text.join ['\n'] (ls.map (·.text.toList)) = s ∨
        Text.join ['\n'] (ls.map (·.text.toList)) ++ ['\n'] = s) ∧
      (ls.flatMap (·.text.toList)).count Text.Utf8.replacement = s.count Text.Utf8.replacement := by
  intro pieces ls
  refine ⟨⟨Text.join_pieces _ bs, ?_⟩, ?_, ?_, Source.count_newline_decode bs,
    fun n text => Source.line?_iff_mem_numbered, ?_⟩
  · intro p hp hn
    have hsep := (Text.mem_of_mem_pieces hp hn).2
    exact absurd hsep (by decide)
  · intro k
    rw [Source.getElem?_numbered, Source.lines_eq_map_decode, List.getElem?_map, Option.map_map]
    rfl
  · intro line hl
    have hmem : line.text ∈ Source.lines bs := Source.map_text_numbered bs ▸ List.mem_map_of_mem hl
    exact Source.oneLine_of_mem_lines hmem
  · rintro s rfl
    have hlists : ls.map (·.text.toList) = Source.splitLines s := Source.map_toList_numbered_encode s
    have hjoin := Source.join_withoutEmptyLast '\n' (Text.pieces (· == '\n') s)
    rw [Text.join_pieces] at hjoin
    rw [List.flatMap_def, hlists]
    refine ⟨hjoin, ?_⟩
    rw [← Text.count_join (a := '\n') (by decide)]
    rcases hjoin with h | h
    · exact congrArg (List.count _) h
    · have hcount := congrArg (List.count Text.Utf8.replacement) h
      rw [List.count_append] at hcount
      exact hcount

-- a sequence that a newline cuts short, a surrogate, and a sequence that the end of the file cuts short
example : Source.numbered [0xE2, 0x82, 0x0A, 0xED, 0xA0, 0x80, 0x0A, 0x0A, 0xC3] =
    [⟨1, "\uFFFD"⟩, ⟨2, "\uFFFD\uFFFD\uFFFD"⟩, ⟨3, ""⟩, ⟨4, "\uFFFD"⟩] := by decide +kernel

def mixedText : List Char :=
  ['é', '\n', '\r', '\n', '\uFFFD', '\n']

theorem line_numbers_of_mixed_text :
    Source.numbered (Text.Utf8.encode mixedText) = [⟨1, "é"⟩, ⟨2, "\r"⟩, ⟨3, "\uFFFD"⟩] ∧
      Text.join ['\n'] [['é'], ['\r'], ['\uFFFD']] ++ ['\n'] = mixedText ∧
      mixedText.count Text.Utf8.replacement = 1 := by
  have hls : Source.numbered (Text.Utf8.encode mixedText) =
      [⟨1, "é"⟩, ⟨2, "\r"⟩, ⟨3, "\uFFFD"⟩] := by decide +kernel
  obtain ⟨-, -, -, -, -, hencoded⟩ := line_numbers_are_exact (Text.Utf8.encode mixedText)
  obtain ⟨hjoin, hcount⟩ := hencoded mixedText rfl
  rw [hls] at hjoin hcount
  refine ⟨hls, ?_, hcount.symm.trans (by decide +kernel)⟩
  rcases hjoin with h | h
  · exact absurd h (by decide +kernel)
  · exact Eq.trans (by decide +kernel) h

end CommentDoc
