import CommentDoc.Proofs.Scan.Newlines
import CommentDoc.Proofs.Scan.Placement

/-! Files whose lines end with a carriage return before the newline. Heads and feet are found in
them as without it, and so is content, except where a line has nothing but the lead. -/

namespace CommentDoc

namespace Text

def IgnoresReturn (p : List Char → Bool) : Prop :=
  ∀ s, p (s ++ ['\r']) = p s

lemma ignoresReturn_blanks : IgnoresReturn (List.all · isBlank) := by
  intro s
  have hblank : ['\r'].all isBlank = true := by decide
  simp only [List.all_append, hblank, Bool.and_true]

lemma dropWhile_append_return {p : Char → Bool} (h : p '\r' = false) (s : List Char) :
    (s ++ ['\r']).dropWhile p = s.dropWhile p ++ ['\r'] := by
  induction s with
  | nil => simp [h]
  | cons c s ih =>
    rw [List.cons_append, List.dropWhile_cons, List.dropWhile_cons]
    split
    · exact ih
    · rfl

lemma trimStart_append_return (s : List Char) :
    trimStart (s ++ ['\r']) = trimStart s ++ ['\r'] ∨ trimStart s = [] ∧ trimStart (s ++ ['\r']) = [] := by
  rw [trimStart, trimStart, List.dropWhile_append]
  by_cases h : s.dropWhile isBlank = []
  · rw [h]
    exact Or.inr ⟨rfl, rfl⟩
  · refine Or.inl (if_neg ?_)
    simpa using h

lemma IgnoresReturn.trimStart {p : List Char → Bool} (h : IgnoresReturn p) :
    IgnoresReturn fun s => p (Text.trimStart s) := by
  intro s
  dsimp only
  rcases trimStart_append_return s with hs | ⟨hs, hr⟩
  · rw [hs, h]
  · rw [hs, hr]

lemma after?_append_return {start : List Char} (h : '\r' ∉ start) (s : List Char) :
    after? start (s ++ ['\r']) = (after? start s).map (· ++ ['\r']) := by
  induction start generalizing s with
  | nil => rfl
  | cons c start ih =>
    have hc : c ≠ '\r' := fun heq => h (by simp [heq])
    cases s with
    | nil => simp [after?, hc]
    | cons d s =>
      rw [List.cons_append, after?, after?]
      split
      · exact ih (fun hm => h (List.mem_cons_of_mem _ hm)) s
      · rfl

end Text

open Text (IgnoresReturn)

namespace Head

lemma ignoresReturn_isEnding : IgnoresReturn isEnding := by
  intro s
  cases s with
  | nil => decide
  | cons c s =>
    by_cases hc : c = '!'
    · subst hc
      have hdrop := Text.dropWhile_append_return (p := isTagChar) (by decide) s
      rw [List.cons_append, isEnding, isEnding, hdrop]
      exact Text.ignoresReturn_blanks _
    · rw [isEnding, isEnding]
      · exact Text.ignoresReturn_blanks (c :: s)
      · exact fun t heq => hc (List.cons.inj heq).1
      · exact fun t heq => hc (List.cons.inj heq).1

lemma ignoresReturn_accepts (style : CommentStyle) : IgnoresReturn (accepts style) := by
  intro line
  have hmarker : '\r' ∉ style.marker := by cases style <;> decide
  rw [accepts, accepts, Text.after?_append_return hmarker]
  cases Text.after? style.marker line with
  | none => rfl
  | some rest => exact ignoresReturn_isEnding rest

lemma tag?_append_return (line : List Char) : tag? (line ++ ['\r']) = tag? line := by
  have hbackwards : (line ++ ['\r']).reverse.dropWhile Text.isBlank =
      line.reverse.dropWhile Text.isBlank := by
    rw [List.reverse_append]
    rfl
  rw [tag?, tag?, hbackwards]

end Head

namespace Foot

lemma ignoresReturn_beginsWith {c : Char} (h : c ≠ '\r') : IgnoresReturn (beginsWith c) := by
  intro s
  cases s with
  | nil => simp [beginsWith, Ne.symm h]
  | cons d s => rfl

lemma afterName?_append_return {first other : Char → Bool} (hfirst : first '\r' = false)
    (hother : other '\r' = false)
    (s : List Char) : afterName? first other (s ++ ['\r']) =
    (afterName? first other s).map (· ++ ['\r']) := by
  cases s with
  | nil => simp [afterName?, hfirst]
  | cons c s =>
    rw [List.cons_append, afterName?, afterName?, Text.dropWhile_append_return hother]
    split <;> rfl

lemma ignoresReturn_isScriptDefinition : IgnoresReturn isScriptDefinition := by
  intro s
  have hopen := (ignoresReturn_beginsWith (c := '(') (by decide)).trimStart
  rw [isScriptDefinition, isScriptDefinition, afterName?_append_return (by decide) (by decide)]
  cases afterName? isNameStart isScriptName s with
  | none => rfl
  | some rest => exact hopen rest

lemma ignoresReturn_parentheses :
    IgnoresReturn fun s => match s with
      | '(' :: inner => beginsWith ')' (Text.trimStart inner)
      | _ => false := by
  intro s
  have hclose := (ignoresReturn_beginsWith (c := ')') (by decide)).trimStart
  cases s with
  | nil => rfl
  | cons c inner =>
    by_cases hc : c = '('
    · subst hc
      exact hclose inner
    · simp [hc]

lemma ignoresReturn_isShellDefinition : IgnoresReturn isShellDefinition := by
  intro s
  rw [isShellDefinition, isShellDefinition, afterName?_append_return (by decide) (by decide)]
  cases afterName? isNameStart isShellName s with
  | none => rfl
  | some rest => exact ignoresReturn_parentheses.trimStart rest

-- the return may be the blank after the word, and then the definition is missing
lemma ignoresReturn_isDeclared {word : List Char} (hword : '\r' ∉ word) {rest : List Char → Bool}
    (hrest : IgnoresReturn rest) (hnil : rest [] = false) : IgnoresReturn (isDeclared word rest) := by
  intro s
  rw [isDeclared, isDeclared, Text.after?_append_return hword]
  cases Text.after? word s with
  | none => rfl
  | some t =>
    cases t with
    | nil => exact hnil
    | cons c t =>
      by_cases hc : Text.isBlank c = true
      · have ht := hrest.trimStart t
        simpa [afterBlanks?, hc] using ht
      · simp [afterBlanks?, hc]

lemma ignoresReturn_accepts {foot : Foot} (h : ∀ text, foot = .mark text → '\r' ∉ text) :
    IgnoresReturn foot.accepts := by
  intro s
  cases foot with
  | mark text =>
    rw [accepts, accepts, Text.after?_append_return (h text rfl)]
    cases Text.after? text s with
    | none => rfl
    | some rest => exact Text.ignoresReturn_blanks rest
  | scriptFunction =>
    have hdefinition := ignoresReturn_isScriptDefinition
    rw [accepts, accepts, ignoresReturn_isDeclared (by decide) hdefinition rfl,
      ignoresReturn_isDeclared (by decide) hdefinition rfl]
  | shellFunction =>
    have hdefinition := ignoresReturn_isShellDefinition
    rw [accepts, accepts, ignoresReturn_isDeclared (by decide) hdefinition rfl, hdefinition]

end Foot

namespace Lead

lemma strip?_bare_return (style : CommentStyle) : strip? style [style.leadChar, '\r'] = none := by
  cases style <;> rfl

lemma strip?_append_return {style : CommentStyle} {s : List Char} (h : '\n' ∉ s)
    (hbare : s ≠ [style.leadChar]) :
    strip? style (s ++ ['\r']) = (strip? style s).map (· ++ ['\r']) := by
  cases s with
  | nil => cases style <;> rfl
  | cons c rest =>
    by_cases hc : c = style.leadChar
    · subst hc
      cases rest with
      | nil => exact absurd rfl hbare
      | cons d rest =>
        by_cases hd : d = ' '
        · subst hd
          simp [strip?]
        · have hd' : d ≠ '\n' := fun heq => h (by simp [heq])
          simp [strip?, hd, hd']
    · simp [strip?, hc]

end Lead

namespace Source

def withReturn (line : String) : String :=
  line.push '\r'

lemma unindented_withReturn (line : String) : unindented (withReturn line) = unindented line ++ ['\r'] := by
  rw [unindented, withReturn, String.toList_push, Text.dropWhile_append_return (by decide), unindented]

lemma ofList_append_return (s : List Char) : String.ofList (s ++ ['\r']) = withReturn (String.ofList s) := by
  rw [← String.toList_inj]
  simp [withReturn]

lemma line?_map (f : String → String) (ls : List String) (n : Nat) :
    line? (ls.map f) n = (line? ls n).map f := by
  cases n with
  | zero => rfl
  | succ n => exact List.getElem?_map

end Source

open Source (withReturn)

namespace Family

variable (family : Family)

def BareLead (line : String) : Prop :=
  Source.unindented line = [family.style.leadChar]

instance (line : String) : Decidable (family.BareLead line) :=
  inferInstanceAs (Decidable (Source.unindented line = [family.style.leadChar]))

variable {family} {line : String}

lemma headLine_withReturn : family.HeadLine (withReturn line) ↔ family.HeadLine line := by
  rw [headLine_iff, headLine_iff, Source.unindented_withReturn]
  have hhead := Head.ignoresReturn_accepts family.style (Source.unindented line)
  exact Iff.of_eq (congrArg (· = true) hhead)

lemma isFoot_append_return (kind : BlockKind) (content : List Char) :
    family.delimiters.isFoot kind (content ++ ['\r']) = family.delimiters.isFoot kind content := by
  rw [Delimiters.isFoot, Delimiters.isFoot]
  cases hm : family.delimiters.marks? kind with
  | none => rfl
  | some marks =>
    apply Foot.ignoresReturn_accepts
    rintro text htext
    cases family <;> cases kind <;> cases hm <;> cases htext <;> decide

lemma footKind?_withReturn (line : String) :
    family.delimiters.footKind? (Source.unindented (withReturn line)) =
      family.delimiters.footKind? (Source.unindented line) := by
  simp only [Delimiters.footKind?, Source.unindented_withReturn, isFoot_append_return]

lemma footLine_withReturn : family.FootLine (withReturn line) ↔ family.FootLine line := by
  rw [footLine_iff, footLine_iff, footKind?_withReturn]

lemma leadText?_of_bareLead (h : family.BareLead line) : family.leadText? (withReturn line) = none := by
  have hstrip := Lead.strip?_bare_return family.style
  rw [leadText?, Source.unindented_withReturn, h]
  exact congrArg (Option.map String.ofList) hstrip

lemma leadText?_of_not_bareLead (hone : OneLine line) (h : ¬ family.BareLead line) :
    family.leadText? (withReturn line) = (family.leadText? line).map withReturn := by
  have hline : '\n' ∉ Source.unindented line := fun hn => hone ((Source.unindented_sublist line).subset hn)
  have hstrip : Lead.strip? family.style (Source.unindented line ++ ['\r']) = _ :=
    Lead.strip?_append_return hline h
  have hgeneric : ∀ s, family.delimiters.strip? .generic s = Lead.strip? family.style s := fun _ => rfl
  rw [leadText?, leadText?, hgeneric, hgeneric, Source.unindented_withReturn, hstrip]
  simp only [Option.map_map, Function.comp_def, Source.ofList_append_return]

lemma not_leadLine_withReturn (hone : OneLine line) (h : ¬ family.LeadLine line) :
    ¬ family.LeadLine (withReturn line) := by
  have hnone : family.leadText? line = none := by simpa [LeadLine] using h
  by_cases hbare : family.BareLead line
  · simp [LeadLine, leadText?_of_bareLead hbare]
  · simp [LeadLine, leadText?_of_not_bareLead hone hbare, hnone]

end Family

def Draft.withReturns (b : Draft) : Draft :=
  { b with captured := b.captured.map withReturn }

def Found.withReturns (f : Found) : Found :=
  { f with captured := f.captured.map withReturn }

lemma Draft.close_withReturns (b : Draft) (foot : BlockKind) (n : Nat) :
    b.withReturns.close foot n = (b.close foot n).withReturns := by
  rw [close_eq, close_eq]
  rfl

namespace Segment

def withReturns (s : Segment) : Segment where
  skipped := s.skipped.map withReturn
  head := withReturn s.head
  middle := s.middle.map withReturn
  last := s.last.map withReturn

lemma lines_withReturns (s : Segment) : s.withReturns.lines = s.lines.map withReturn := by
  cases hl : s.last <;> simp [lines, withReturns, hl]

variable {family : Family} {s : Segment}

lemma Fits.withReturns (h : s.Fits family) (hone : ∀ line ∈ s.lines, OneLine line)
    (hbare : ∀ line ∈ s.middle, ¬ family.BareLead line) : s.withReturns.Fits family where
  skipped := by
    intro _ hmem
    obtain ⟨line, hl, rfl⟩ := List.mem_map.mp hmem
    rw [Family.headLine_withReturn]
    exact h.skipped line hl
  head := Family.headLine_withReturn.mpr h.head
  middle := by
    intro _ hmem
    obtain ⟨line, hl, rfl⟩ := List.mem_map.mp hmem
    have hline : OneLine line := hone line (by simp [lines, hl])
    rw [Family.footLine_withReturn, Family.LeadLine, Family.leadText?_of_not_bareLead hline (hbare line hl),
      Option.isSome_map]
    exact h.middle line hl
  last := by
    intro _ hmem
    obtain ⟨line, hl, rfl⟩ := Option.map_eq_some_iff.mp hmem
    have hline : OneLine line := hone line (by simp [lines, hl])
    rw [Family.footLine_withReturn]
    rcases h.last line hl with hfoot | ⟨hfoot, hlead⟩
    · exact Or.inl hfoot
    · exact Or.inr ⟨hfoot, Family.not_leadLine_withReturn hline hlead⟩

lemma filterMap_withReturn {ls : List String} (hone : ∀ line ∈ ls, OneLine line)
    (hbare : ∀ line ∈ ls, ¬ family.BareLead line) :
    (ls.map withReturn).filterMap family.leadText? = (ls.filterMap family.leadText?).map withReturn := by
  rw [List.filterMap_map, List.map_filterMap]
  apply List.filterMap_congr
  intro line hl
  exact Family.leadText?_of_not_bareLead (hone line hl) (hbare line hl)

lemma draft_withReturns (hone : ∀ line ∈ s.middle, OneLine line)
    (hbare : ∀ line ∈ s.middle, ¬ family.BareLead line)
    (number : Nat) : s.withReturns.draft family number = (s.draft family number).withReturns := by
  have hcaptured := filterMap_withReturn hone hbare
  simp only [draft, withReturns, Draft.withReturns, Source.unindented_withReturn,
    Head.tag?_append_return, hcaptured]

lemma found_withReturns (hone : ∀ line ∈ s.middle, OneLine line)
    (hbare : ∀ line ∈ s.middle, ¬ family.BareLead line)
    (number : Nat) : s.withReturns.found family number = (s.found family number).withReturns := by
  have hdraft := draft_withReturns hone hbare number
  have hlength : s.withReturns.middle.length = s.middle.length := List.length_map _
  cases hl : s.last with
  | none =>
    have hl' : s.withReturns.last = none := by simp [withReturns, hl]
    simp only [found, hl, hl', hdraft]
    rfl
  | some line =>
    have hl' : s.withReturns.last = some (withReturn line) := by simp [withReturns, hl]
    simp only [found, hl, hl', hdraft, Family.footKind?_withReturn, hlength]
    cases family.delimiters.footKind? (Source.unindented line) with
    | some foot => exact Draft.close_withReturns _ foot _
    | none => rfl

end Segment

namespace Segmentation

variable {family : Family}

lemma lines_withReturns (c : Segmentation) :
    lines ⟨c.segments.map Segment.withReturns, c.rest.map withReturn⟩ = c.lines.map withReturn := by
  simp [lines, List.flatMap_map, List.map_flatMap, Segment.lines_withReturns]

lemma fits_withReturns {c : Segmentation} (h : c.Fits family) (hone : ∀ line ∈ c.lines, OneLine line)
    (hbare : ∀ s ∈ c.segments, ∀ line ∈ s.middle, ¬ family.BareLead line) :
    Fits family ⟨c.segments.map Segment.withReturns, c.rest.map withReturn⟩ where
  segments := by
    intro _ hmem
    obtain ⟨s, hs, rfl⟩ := List.mem_map.mp hmem
    refine (h.segments s hs).withReturns ?_ (hbare s hs)
    intro line hl
    exact hone line (List.mem_append_left _ (List.mem_flatMap.mpr ⟨s, hs, hl⟩))
  rest := by
    intro _ hmem
    obtain ⟨line, hl, rfl⟩ := List.mem_map.mp hmem
    rw [Family.headLine_withReturn]
    exact h.rest line hl
  closed := by
    intro _ hmem
    rw [← List.map_dropLast] at hmem
    obtain ⟨s, hs, rfl⟩ := List.mem_map.mp hmem
    simpa [Segment.withReturns] using h.closed s hs
  cutOff := by
    intro _ hmem hl
    rw [List.getLast?_map] at hmem
    obtain ⟨s, hs, rfl⟩ := Option.map_eq_some_iff.mp hmem
    have hrest := h.cutOff s hs (by simpa [Segment.withReturns] using hl)
    simp [hrest]

lemma map_snd_number (n : Nat) (ss : List Segment) : (number n ss).map Prod.snd = ss := by
  induction ss generalizing n with
  | nil => rfl
  | cons s ss ih => rw [number, List.map_cons, ih]

lemma number_withReturns (n : Nat) (ss : List Segment) :
    number n (ss.map Segment.withReturns) = (number n ss).map fun p => (p.1, p.2.withReturns) := by
  induction ss generalizing n with
  | nil => rfl
  | cons s ss ih =>
    have hskipped : s.withReturns.skipped.length = s.skipped.length := List.length_map _
    simp only [List.map_cons, number, ih, hskipped, Segment.lines_withReturns, List.length_map]

end Segmentation

def Found.contentLines (ls : List String) (f : Found) : List String :=
  (ls.drop f.initial).take f.captured.length

lemma Segment.contentLines_found {family : Family} {c : Segmentation} (h : c.Fits family) {p : Nat × Segment}
    (hp : p ∈ Segmentation.number 1 c.segments) :
    (p.2.found family p.1).contentLines c.lines = p.2.middle := by
  have hs : p.2.Fits family := h.segments _ (Segmentation.number_mem hp)
  obtain ⟨before, after, hlines, hnumber⟩ := Segmentation.lines_of_mem_number hp
  rw [Found.contentLines, found_initial, hs.length_captured, hlines, hnumber, Nat.add_comm]
  simp

namespace Scan

variable {family : Family} {ls : List String}

lemma blocks_withReturn (hone : ∀ line ∈ ls, OneLine line)
    (hbare : ∀ f ∈ blocks family.delimiters ls, ∀ line ∈ f.contentLines ls, ¬ family.BareLead line) :
    blocks family.delimiters (ls.map withReturn) = (blocks family.delimiters ls).map Found.withReturns := by
  obtain ⟨c, hc, rfl⟩ := (Segmentation.exists_fits family ls).1
  have hfounds : blocks family.delimiters c.lines = (Segmentation.number 1 c.segments).map fun p =>
      p.2.found family p.1 :=
    Segmentation.blocksFrom_lines hc 1
  rw [hfounds] at hbare ⊢
  have hsegments : ∀ s ∈ c.segments, ∀ line ∈ s.middle, ¬ family.BareLead line := by
    intro s hs line hl
    rw [← Segmentation.map_snd_number 1 c.segments] at hs
    obtain ⟨p, hp, rfl⟩ := List.mem_map.mp hs
    apply hbare _ (List.mem_map_of_mem hp)
    rw [Segment.contentLines_found hc hp]
    exact hl
  have hmiddle : ∀ s ∈ c.segments, ∀ line ∈ s.middle, OneLine line := by
    intro s hs line hl
    exact hone line (List.mem_append_left _ (List.mem_flatMap.mpr ⟨s, hs, by simp [Segment.lines, hl]⟩))
  rw [blocks, ← Segmentation.lines_withReturns,
    Segmentation.blocksFrom_lines (Segmentation.fits_withReturns hc hone hsegments),
      Segmentation.number_withReturns,
    List.map_map, List.map_map]
  apply List.map_congr_left
  intro p hp
  have hs := Segmentation.number_mem hp
  exact Segment.found_withReturns (hmiddle _ hs) (hsegments _ hs) p.1

-- a block that is found again has its content where it was, and a lead with a return after it is no content
lemma not_bareLead_of_blocks_withReturn
    (h : blocks family.delimiters (ls.map withReturn) = (blocks family.delimiters ls).map Found.withReturns)
    {f : Found} (hf : f ∈ blocks family.delimiters ls) {line : String} (hl : line ∈ f.contentLines ls) :
    ¬ family.BareLead line := by
  intro hbare
  have hfound : f.withReturns ∈ blocks family.delimiters (ls.map withReturn) := by
    rw [h]
    exact List.mem_map_of_mem hf
  have hcontent := (placed_of_mem_blocks hfound 0 "").1.content
  obtain ⟨i, hi⟩ := List.mem_iff_getElem?.mp hl
  rw [Found.contentLines, List.getElem?_take, List.getElem?_drop] at hi
  split at hi
  next hlt =>
    have htext : (f.withReturns.toBlock 0 "").captured[i]? = some (withReturn f.captured[i]) := by
      simp [Found.toBlock, Found.withReturns, hlt]
    obtain ⟨line', hline', hlead⟩ := hcontent i _ htext
    have hnumber : (f.withReturns.toBlock 0 "").lines.initial + 1 + i = f.initial + i + 1 :=
      Nat.add_right_comm _ _ _
    rw [Source.line?_map, hnumber, Source.line?, hi, Option.map_some] at hline'
    rw [← Option.some.inj hline', Family.leadText?_of_bareLead hbare] at hlead
    cases hlead
  next => cases hi

end Scan

theorem carriage_returns_keep_blocks_iff (family : Family) (ls : List String)
    (hls : ∀ line ∈ ls, OneLine line) :
    let founds := Scan.blocks family.delimiters ls
    let founds' := Scan.blocks family.delimiters (ls.map withReturn)
    (∀ (disk : Disk) (input : Input) (lines : List String), Run.lines disk input = .ok lines →
      Scanner.Finds disk family input (Scan.blocks family.delimiters lines)) ∧
    (founds' = founds.map Found.withReturns ↔
      ∀ f ∈ founds, ∀ line ∈ f.contentLines ls, ¬ family.BareLead line) := by
  intro founds founds'
  refine ⟨?_, ?_, ?_⟩
  · intro disk input lines hlines
    exact Scanner.finds_blocks hlines family
  · intro h f hf line hl
    exact Scan.not_bareLead_of_blocks_withReturn h hf hl
  · exact Scan.blocks_withReturn hls

def keptLines : List String :=
  ["code", " ##!md ", "# text", "# ", "##", "##", "# f", "\tf () \x7b", "##!x", "# g", "#h", "##", "# end"]

theorem carriage_returns_keep_spaced_blocks :
    (∀ line ∈ keptLines, OneLine line) ∧
      Scan.blocks Family.shell.delimiters (keptLines.map withReturn) =
        [⟨.generic, "md", 2, ["text\r", "\r"], none⟩, ⟨.function, "function", 6, ["f\r"], none⟩,
          ⟨.generic, "x", 9, ["g\r"], some (.unclosed, 11)⟩, ⟨.generic, "none", 12, ["end\r"], none⟩] := by
  have hls : ∀ line ∈ keptLines, OneLine line := by
    intro line hl
    have hall : keptLines.all (fun line => !line.toList.contains '\n') = true := by decide +kernel
    simpa [OneLine] using List.all_eq_true.mp hall line hl
  obtain ⟨-, hiff⟩ := carriage_returns_keep_blocks_iff .shell keptLines hls
  refine ⟨hls, ?_⟩
  rw [hiff.mpr (by decide +kernel)]
  decide +kernel

def bareLines : List String :=
  ["##", "#", "##"]

def bareDisk : Disk :=
  (Disk.empty.addFile (Path.ofString "a.sh") (Text.Utf8.encode (Source.text bareLines))).addFile
    (Path.ofString "b.sh")
    (Text.Utf8.encode (Source.text (bareLines.map withReturn)))

theorem bare_lead_with_return_ends_block :
    (∀ line ∈ bareLines, '\r' ∉ line.toList) ∧
      Scanner.Finds bareDisk .shell (.verbatim "a.sh") [⟨.generic, "none", 1, [""], none⟩] ∧
      Scanner.Finds bareDisk .shell (.verbatim "b.sh")
        [⟨.generic, "none", 1, [], some (.unclosed, 2)⟩, ⟨.generic, "none", 3, [], none⟩] ∧
      Scan.blocks Family.shell.delimiters (bareLines.map withReturn) ≠
        (Scan.blocks Family.shell.delimiters bareLines).map Found.withReturns := by
  refine ⟨by decide, ?_, ?_, by decide +kernel⟩
  · have hlines : Run.lines bareDisk (.verbatim "a.sh") = .ok bareLines := by decide +kernel
    have hfinds := Scanner.finds_blocks hlines .shell
    have hfounds : Scan.blocks Family.shell.delimiters bareLines =
        [⟨.generic, "none", 1, [""], none⟩] := by decide +kernel
    rwa [hfounds] at hfinds
  · have hlines : Run.lines bareDisk (.verbatim "b.sh") = .ok (bareLines.map withReturn) := by decide +kernel
    have hfinds := Scanner.finds_blocks hlines .shell
    have hfounds : Scan.blocks Family.shell.delimiters (bareLines.map withReturn) =
        [⟨.generic, "none", 1, [], some (.unclosed, 2)⟩, ⟨.generic, "none", 3, [], none⟩] := by decide +kernel
    rwa [hfounds] at hfinds

end CommentDoc
