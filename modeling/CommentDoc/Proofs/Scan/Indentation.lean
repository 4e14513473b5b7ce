import CommentDoc.Proofs.Run.Entries
import CommentDoc.Proofs.Source.Numbering
import CommentDoc.Text.Unicode

/-! Lines that differ only in the spaces and tabs before them are scanned alike. What stands
behind the lead is kept as it is. -/

namespace CommentDoc

open Text.Utf8 (Octets)

lemma indented_iff {text : List Char} {line : String} :
    Indented text line ↔
      (line.toList.take (line.toList.length - text.length)).all Text.isIndent = true ∧
        line.toList.drop (line.toList.length - text.length) = text := by
  constructor
  · rintro ⟨indent, hindent, hline⟩
    rw [hline]
    simpa [Text.isIndent] using hindent
  · rintro ⟨hindent, htext⟩
    have hline := List.take_append_drop (line.toList.length - text.length) line.toList
    rw [htext] at hline
    refine ⟨_, ?_, hline.symm⟩
    simpa only [List.all_eq_true, Text.isIndent, Bool.or_eq_true, beq_iff_eq] using hindent

instance (text : List Char) (line : String) : Decidable (Indented text line) :=
  decidable_of_iff _ indented_iff.symm

namespace Source

def Reindented (ls ls' : List String) : Prop :=
  List.Forall₂ (fun line line' => Indented line.toList line') ls ls'

instance (ls ls' : List String) : Decidable (Reindented ls ls') :=
  inferInstanceAs (Decidable (List.Forall₂ _ ls ls'))

lemma unindented_of_indented {line line' : String} (h : Indented line.toList line') :
    unindented line' = unindented line := by
  obtain ⟨indent, hindent, hline⟩ := h
  rw [unindented, unindented, hline]
  apply List.dropWhile_append_of_pos
  intro c hc
  rcases hindent c hc with rfl | rfl <;> rfl

lemma indented_unindented (line : String) : Indented (unindented line) line := by
  refine ⟨line.toList.takeWhile Text.isIndent, ?_, (List.takeWhile_append_dropWhile ..).symm⟩
  intro c hc
  simpa [Text.isIndent] using List.mem_takeWhile_imp hc

lemma oneLine_of_reindented {ls ls' : List String} (h : Reindented ls ls') (hls : ∀ line ∈ ls, OneLine line) :
    ∀ line ∈ ls', OneLine line := by
  induction h with
  | nil => simp
  | @cons line line' ls ls' hline _ ih =>
    obtain ⟨hfirst, hrest⟩ := List.forall_mem_cons.mp hls
    refine List.forall_mem_cons.mpr ⟨?_, ih hrest⟩
    obtain ⟨indent, hindent, hl⟩ := hline
    rw [OneLine, hl, List.mem_append, not_or]
    refine ⟨?_, hfirst⟩
    intro hn
    rcases hindent _ hn with h | h <;> cases h

def OctetsReindented (bs bs' : Octets) : Prop :=
  List.Forall₂ (fun line line' => ∃ indent, (∀ b ∈ indent, b = 0x20 ∨ b = 0x09) ∧ line' = indent ++ line)
    (octetLines bs) (octetLines bs')

lemma indented_decode {indent : Octets} (h : ∀ b ∈ indent, b = 0x20 ∨ b = 0x09) (line : Octets) :
    ∃ cs, (∀ c ∈ cs, c = ' ' ∨ c = '\t') ∧
      Text.Utf8.decode (indent ++ line) = cs ++ Text.Utf8.decode line := by
  induction indent with
  | nil => exact ⟨[], by simp, rfl⟩
  | cons b indent ih =>
    obtain ⟨hb, hindent⟩ := List.forall_mem_cons.mp h
    obtain ⟨cs, hcs, hdecode⟩ := ih hindent
    rcases hb with rfl | rfl
    · refine ⟨' ' :: cs, List.forall_mem_cons.mpr ⟨Or.inl rfl, hcs⟩, ?_⟩
      exact congrArg (' ' :: ·) hdecode
    · refine ⟨'\t' :: cs, List.forall_mem_cons.mpr ⟨Or.inr rfl, hcs⟩, ?_⟩
      exact congrArg ('\t' :: ·) hdecode

lemma reindented_lines {bs bs' : Octets} (h : OctetsReindented bs bs') :
    Reindented (lines bs) (lines bs') := by
  rw [Reindented, lines_eq_map_decode, lines_eq_map_decode, List.forall₂_map_left_iff,
    List.forall₂_map_right_iff]
  refine h.imp ?_
  rintro line _ ⟨indent, hindent, rfl⟩
  obtain ⟨cs, hcs, hdecode⟩ := indented_decode hindent line
  exact ⟨cs, hcs, by rw [String.toList_ofList, String.toList_ofList, hdecode]⟩

lemma newline_notMem_encode {line : List Char} (h : '\n' ∉ line) : 0x0A ∉ Text.Utf8.encode line := by
  rw [← List.count_eq_zero, ← count_newline_decode, Text.Utf8.decode_encode, List.count_eq_zero]
  exact h

lemma octetLines_text {ls : List String} (h : ∀ line ∈ ls, OneLine line) :
    octetLines (Text.Utf8.encode (text ls)) = ls.map fun line => Text.Utf8.encode line.toList := by
  induction ls with
  | nil => rfl
  | cons line ls ih =>
    obtain ⟨hline, hls⟩ := List.forall_mem_cons.mp h
    have hoctets : Text.Utf8.encode (text (line :: ls)) =
        Text.Utf8.encode line.toList ++ 0x0A :: Text.Utf8.encode (text ls) := by
      simp [text, Text.Utf8.encode, String.utf8EncodeChar]
    rw [List.map_cons, ← ih hls, hoctets, octetLines,
      Text.pieces_append (octets_notSep (newline_notMem_encode hline)) (by simp),
      withoutEmptyLast_cons _ (Text.pieces_ne_nil _ _)]
    rfl

lemma octetsReindented_text {ls ls' : List String} (h : Reindented ls ls') (hls : ∀ line ∈ ls, OneLine line) :
    OctetsReindented (Text.Utf8.encode (text ls)) (Text.Utf8.encode (text ls')) := by
  rw [OctetsReindented, octetLines_text hls, octetLines_text (oneLine_of_reindented h hls),
    List.forall₂_map_left_iff,
    List.forall₂_map_right_iff]
  refine h.imp ?_
  rintro line line' ⟨indent, hindent, hline⟩
  refine ⟨Text.Utf8.encode indent, ?_, ?_⟩
  · intro b hb
    obtain ⟨c, hc, hb⟩ := List.mem_flatMap.mp hb
    rcases hindent c hc with rfl | rfl
    · exact Or.inl (List.mem_singleton.mp hb)
    · exact Or.inr (List.mem_singleton.mp hb)
  · rw [hline, Text.Utf8.encode, List.flatMap_append]
    rfl

end Source

lemma Draft.open?_of_indented {line line' : String} (h : Indented line.toList line') (d : Delimiters)
    (n : Nat) :
    open? d n line' = open? d n line := by
  rw [open?, open?, Source.unindented_of_indented h]

lemma Draft.read_of_indented {line line' : String} (h : Indented line.toList line') (d : Delimiters)
    (b : Draft) (n : Nat) :
    b.read d n line' = b.read d n line := by
  rw [read, read, Source.unindented_of_indented h]

lemma Scan.foundsFrom_of_reindented {ls ls' : List String} (h : Source.Reindented ls ls')
    (d : Delimiters) (whole : Bool)
    (n : Nat) (b : Option Draft) : foundsFrom d whole n b ls' = foundsFrom d whole n b ls := by
  induction h generalizing n b with
  | nil => rfl
  | @cons line line' ls ls' hline _ ih =>
    cases b with
    | none => rw [foundsFrom_none, foundsFrom_none, Draft.open?_of_indented hline, ih]
    | some b =>
      have hread := Draft.read_of_indented hline d b n
      cases hr : b.read d n line with
      | inl b' => rw [foundsFrom_inl hr, foundsFrom_inl (hread.trans hr), ih]
      | inr found => rw [foundsFrom_inr hr, foundsFrom_inr (hread.trans hr), ih]

lemma Scan.blocks_of_reindented {ls ls' : List String} (h : Source.Reindented ls ls') (d : Delimiters) :
    blocks d ls' = blocks d ls :=
  foundsFrom_of_reindented h d true 1 none

namespace Run

/-- On both disks the input leads to a file, and what can be read of the second is what can be
read of the first with other indentation; or it leads to none, for the same reason. -/
def Reindented (disk disk' : Disk) (input : Input) : Prop :=
  match open? disk input, open? disk' input with
  | .ok i, .ok i' =>
    disk'.readingFault? i' = disk.readingFault? i ∧
    Source.OctetsReindented (legible disk i) (legible disk' i')
  | .error cause, .error cause' => cause = cause'
  | _, _ => False

variable {disk disk' : Disk}

lemma founds_of_reindented {input : Input} (h : Reindented disk disk' input) (d : Delimiters) :
    founds disk' d input = founds disk d input := by
  unfold Reindented at h
  split at h
  next i i' hi hi' =>
    obtain ⟨hfault, hoctets⟩ := h
    have hlines := Source.reindented_lines hoctets
    rw [founds_of_open d hi, founds_of_open d hi', hfault, Scan.foundsFrom_of_reindented hlines]
  next cause cause' hc hc' =>
    subst h
    rw [founds_of_unopened d hc, founds_of_unopened d hc']
  next => exact h.elim

lemma extract_of_reindented [Text.Edition] {inputs : List Input}
    (h : ∀ input ∈ inputs, Reindented disk disk' input) (run : Run) :
    run.extract disk' inputs = run.extract disk inputs :=
  extract_congr (fun input hinput d => founds_of_reindented (h input hinput) d) run

end Run

lemma Family.leads_of_leadText? {family : Family} {line text : String} (hone : OneLine line)
    (h : family.leadText? line = some text) : family.style.Leads text line := by
  obtain ⟨cs, hcs, rfl⟩ := Option.map_eq_some_iff.mp h
  have hcontent : '\n' ∉ Source.unindented line := fun hn => hone ((Source.unindented_sublist line).subset hn)
  have hindented := Source.indented_unindented line
  have hstrip : Lead.strip? family.style (Source.unindented line) = some cs := hcs
  rcases (Lead.strip?_eq_some_iff_of_notMem hcontent).mp hstrip with hline | ⟨rfl, hline⟩
  · refine Or.inl ?_
    rwa [hline, ← String.toList_ofList (l := cs)] at hindented
  · refine Or.inr ⟨rfl, ?_⟩
    rwa [hline] at hindented

lemma Found.leads_of_mem_blocks {family : Family} {ls : List String} (hls : ∀ line ∈ ls, OneLine line)
    {f : Found}
    (hf : f ∈ Scan.blocks family.delimiters ls) {i : Nat} {text : String} (ht : f.captured[i]? = some text) :
    ∃ line, Source.line? ls (f.initial + 1 + i) = some line ∧ family.style.Leads text line := by
  obtain ⟨line, hline, hlead⟩ := (Scan.placed_of_mem_blocks hf 0 "").1.content i text ht
  have hmem : line ∈ ls := by
    have hnumber : f.initial + 1 + i = f.initial + i + 1 := Nat.add_right_comm ..
    exact List.mem_of_getElem? (hnumber ▸ hline : Source.line? ls (f.initial + i + 1) = some line)
  exact ⟨line, hline, Family.leads_of_leadText? (hls line hmem) hlead⟩

theorem indentation_never_matters [Text.Edition] (family : Family) (ls ls' : List String)
    (h : Source.Reindented ls ls') :
    Scan.blocks family.delimiters ls' = Scan.blocks family.delimiters ls ∧
    ((∀ line ∈ ls, OneLine line) →
      ∀ f ∈ Scan.blocks family.delimiters ls, ∀ i text, f.captured[i]? = some text →
        (∃ line, Source.line? ls (f.initial + 1 + i) = some line ∧ family.style.Leads text line) ∧
        ∃ line, Source.line? ls' (f.initial + 1 + i) = some line ∧ family.style.Leads text line) ∧
    ∀ (run : Run) (disk disk' : Disk) (inputs : List Input),
      (∀ input ∈ inputs, Run.Reindented disk disk' input) →
      run.extract disk' inputs = run.extract disk inputs := by
  have hblocks : Scan.blocks family.delimiters ls' = Scan.blocks family.delimiters ls :=
    Scan.blocks_of_reindented h _
  refine ⟨hblocks, ?_, fun run disk disk' inputs hinputs => Run.extract_of_reindented hinputs run⟩
  intro hls f hf i text ht
  refine ⟨Found.leads_of_mem_blocks hls hf ht, ?_⟩
  rw [← hblocks] at hf
  exact Found.leads_of_mem_blocks (Source.oneLine_of_reindented h hls) hf ht

def flushLines : List String :=
  ["##!md", "#   deep", "#", "##", "##", "# f - g", "f() \x7b", "##", "# h", "stray"]

def shiftedLines : List String :=
  ["\t##!md", " #   deep", "\t #", "##", "  ##", "\t\t# f - g", " f() \x7b", "    ##", " # h", "\tstray"]

def flushDisk : Disk :=
  Disk.empty.addFile (Path.ofString "a.sh") (Text.Utf8.encode (Source.text flushLines))

def shiftedDisk : Disk :=
  Disk.empty.addFile (Path.ofString "a.sh") (Text.Utf8.encode (Source.text shiftedLines))

theorem indentation_of_shifted_blocks :
    Source.Reindented flushLines shiftedLines ∧
      Scan.blocks Family.shell.delimiters shiftedLines =
        [⟨.generic, "md", 1, ["  deep", ""], none⟩, ⟨.function, "function", 5, ["f - g"], none⟩,
          ⟨.generic, "none", 8, ["h"], some (.unclosed, 10)⟩] ∧
      (∀ input ∈ [Input.verbatim "a.sh", .verbatim "b.sh"], Run.Reindented flushDisk shiftedDisk input) ∧
      (Run.start "" .all .standard).extract shiftedDisk [.verbatim "a.sh", .verbatim "b.sh"] =
        (Run.start "" .all .standard).extract flushDisk [.verbatim "a.sh", .verbatim "b.sh"] := by
  have hlines : Source.Reindented flushLines shiftedLines := by decide +kernel
  have hone : ∀ line ∈ flushLines, OneLine line := by decide +kernel
  have hinputs : ∀ input ∈ [Input.verbatim "a.sh", .verbatim "b.sh"],
      Run.Reindented flushDisk shiftedDisk input := by
    refine List.forall_mem_cons.mpr ⟨?_, List.forall_mem_singleton.mpr ?_⟩
    · have hopen : Run.open? flushDisk (.verbatim "a.sh") = .ok 0 := by decide +kernel
      have hopen' : Run.open? shiftedDisk (.verbatim "a.sh") = .ok 0 := by decide +kernel
      simp only [Run.Reindented, hopen, hopen']
      exact ⟨by decide +kernel, Source.octetsReindented_text hlines hone⟩
    · have hopen : Run.open? flushDisk (.verbatim "b.sh") =
          .error (.failed "b.sh" .noEntry) := by decide +kernel
      have hopen' : Run.open? shiftedDisk (.verbatim "b.sh") =
          .error (.failed "b.sh" .noEntry) := by decide +kernel
      simp only [Run.Reindented, hopen, hopen']
  obtain ⟨hblocks, -, hrun⟩ := indentation_never_matters .shell flushLines shiftedLines hlines
  exact ⟨hlines, hblocks.trans (by decide +kernel), hinputs, hrun _ _ _ _ hinputs⟩

end CommentDoc
