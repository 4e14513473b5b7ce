import CommentDoc.Command.Console
import CommentDoc.Proofs.Command.Lawful
import CommentDoc.Proofs.Scan.Newlines

namespace CommentDoc

namespace Text.Emoji

open Console (NamesSymbol)

lemma body?_spec {s body rest : List Char} (h : body? s = some (body, rest)) :
    ':' ∉ body ∧ ∀ c ∈ body, isBlank c = false := by
  simp only [body?] at h
  split at h
  next => cases h
  next hblank =>
    split at h
    next =>
      obtain ⟨rfl, -⟩ := Prod.mk.inj (Option.some.inj h)
      refine ⟨fun hc => ?_, by simpa using hblank⟩
      simpa using List.mem_takeWhile_imp hc
    next => cases h

lemma replace_of_not_names {s : List Char} (h : ¬ NamesSymbol isSymbol s) : replace s = s := by
  fun_induction replace s with
  | case1 => rfl
  | case2 rest body after hbody ih =>
    obtain rfl := eq_of_body? hbody
    obtain ⟨hcolon, hblank⟩ := body?_spec hbody
    have hafter : after <:+: ':' :: (body ++ ':' :: after) := ⟨':' :: (body ++ [':']), [], by simp⟩
    have hnone : read? body = none := by
      by_contra hsome
      exact h ⟨body, ⟨[], after, by simp⟩, hcolon, hblank, Option.isSome_iff_ne_none.mpr hsome⟩
    rw [hnone, ih fun hn => h (hn.mono hafter)]
    simp
  | case3 rest _ ih => rw [ih fun hn => h (hn.mono (List.suffix_cons _ _).isInfix)]
  | case4 c rest _ ih => rw [ih fun hn => h (hn.mono (List.suffix_cons _ _).isInfix)]

end Text.Emoji

namespace Console

variable {s : List Char}

lemma Still.notMem (h : Still s) : '\t' ∉ s ∧ ∀ c ∈ s, isCursorControl c = false := by
  refine ⟨fun ht => h '\t' ht (by decide), fun c hc => ?_⟩
  have hmovers := h c hc
  simp only [movers, List.mem_cons, List.not_mem_nil, or_false, not_or] at hmovers
  simp [isCursorControl, hmovers]

lemma unescape_of_no_escape (h : ¬ ['\\', '['] <:+: s) : unescape s = s := by
  fun_induction unescape s with
  | case1 => rfl
  | case2 rest ih => exact absurd ⟨[], rest, rfl⟩ h
  | case3 c rest _ ih => rw [ih fun hn => h (hn.trans (List.suffix_cons _ _).isInfix)]

lemma closeEscape_of_ending (h : s.getLast? ≠ some '\\') : closeEscape s = s := by
  rw [← List.head?_reverse] at h
  unfold closeEscape
  split
  next => rfl
  next hs =>
    rw [hs] at h
    exact absurd rfl h
  next => rfl

lemma readParts_of_plain (h : Plain Text.Emoji.isSymbol s) : readParts s = s := by
  have hpart : ∀ part ∈ parts s, Text.Emoji.replace (unescape part) = part := by
    intro part hp
    have hsub : part <:+: s := by
      have hflatten := List.infix_of_mem_flatten hp
      rwa [flatten_parts] at hflatten
    rw [unescape_of_no_escape fun hn => h.escapes (hn.trans hsub),
      Text.Emoji.replace_of_not_names fun hn => h.symbols (hn.mono hsub)]
  rw [readParts, closeEscape_of_ending h.ending, List.flatMap_def, List.map_congr_left hpart, List.map_id',
    flatten_parts]

lemma expandTabs_of_still (h : Still s) : expandTabs s = s := by
  have htab : ∀ c ∈ s, (c == '\t') = false := by
    intro c hc
    simpa using ne_of_mem_of_not_mem hc h.notMem.1
  rw [expandTabs, Text.pieces_of_notSep htab, joinStops]

lemma join_lines_of_still (h : Still s) : Text.join ['\n'] (lines s) = s := by
  have hfilter : s.filter (!isCursorControl ·) = s :=
    List.filter_eq_self.mpr fun c hc => by simp [h.notMem.2 c hc]
  have hlines : lines s = Text.pieces (· == '\n') s := by
    have hline : ∀ line ∈ Text.pieces (· == '\n') s, expandTabs line = line :=
      fun line hl => expandTabs_of_still fun c hc => h c (Text.mem_of_mem_pieces hl hc).1
    rw [lines, hfilter, List.map_congr_left hline, List.map_id']
  rw [hlines, Text.join_pieces]

theorem shown_of_plain {lead message : String} (hlead : Still lead.toList)
    (h : Plain Text.Emoji.isSymbol message.toList) : shown lead message = lead ++ message := by
  rw [shown, readParts_of_plain h, join_lines_of_still (hlead.append h.controls), ← String.toList_append,
    String.ofList_toList]

end Console

end CommentDoc
