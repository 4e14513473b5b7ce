import CommentDoc.Proofs.Delimiter.Tags
import CommentDoc.Proofs.Scan.Kinds
import CommentDoc.Proofs.Scan.Locality

namespace CommentDoc

lemma Family.headTag_of_tagged {family : Family} {line : String} {tag : Option (List Char)}
    (h : Head.Tagged family.style (Source.unindented line) tag) :
    headTag line = (tag.map String.ofList).getD "none" := by
  rw [headTag, h.tag?_eq]

namespace Found

def HasTag (family : Family) (ls : List String) (f : Found) (tag : String) : Prop :=
  ∃ head written, Source.line? ls f.initial = some head ∧
    Head.Tagged family.style (Source.unindented head) written ∧
    tag = (written.map String.ofList).getD "none"

inductive Ends (family : Family) (ls : List String) (f : Found) : Option String → Prop
  | foot {line : String} : Source.line? ls f.lastLine = some line → family.FootLine line →
    Ends family ls f (some line)
  | stray {line : String} : Source.line? ls f.lastLine = some line → ¬ family.FootLine line →
    ¬ family.LeadLine line →
      Ends family ls f none
  | endOfFile : ls.length + 1 = f.lastLine → Ends family ls f none

variable {family : Family} {ls : List String} {f : Found}

lemma HasTag.head {tag : String} (h : f.HasTag family ls tag) :
    ∃ head, Source.line? ls f.initial = some head ∧ headTag head = tag := by
  obtain ⟨head, written, hhead, htagged, rfl⟩ := h
  exact ⟨head, hhead, Family.headTag_of_tagged htagged⟩

-- past the last line of a file there is no line
lemma Ends.footLine_iff {foot : Option String} (h : f.Ends family ls foot) (line : String) :
    line ∈ foot ↔ Source.line? ls f.lastLine = some line ∧ family.FootLine line := by
  cases h with
  | @foot line' hline hfoot =>
    rw [hline, Option.mem_def]
    constructor
    · rintro ⟨⟩
      exact ⟨rfl, hfoot⟩
    · exact fun h => h.1
  | @stray line' hline hfoot _ =>
    constructor
    · rintro ⟨⟩
    · rintro ⟨hline', hfoot'⟩
      rw [hline] at hline'
      cases hline'
      exact absurd hfoot' hfoot
  | endOfFile hend =>
    constructor
    · rintro ⟨⟩
    · rintro ⟨hline, -⟩
      rw [← hend] at hline
      have hlt := (List.getElem?_eq_some_iff.mp hline).1
      omega

lemma Ends.mistagged_iff {foot : Option String} (h : f.Ends family ls foot) (head : String) :
    (∃ line, Source.line? ls f.lastLine = some line ∧ family.Mistagged head line) ↔
      ∃ line ∈ foot, family.Mistagged head line := by
  apply exists_congr
  intro line
  rw [h.footLine_iff, and_assoc]
  apply and_congr_right
  intro _
  constructor
  · intro hm
    exact ⟨⟨.function, hm.1⟩, hm⟩
  · exact fun hm => hm.2

end Found

namespace Scan

variable {family : Family} {ls : List String} {f : Found}

lemma exists_hasTag (h : f ∈ blocks family.delimiters ls) : ∃ tag, f.HasTag family ls tag := by
  obtain ⟨head, hhead, hline⟩ := (placed_of_mem_blocks h 0 "").1.head
  obtain ⟨written, htagged⟩ := Head.exists_tagged (Family.headLine_iff.mp hline)
  exact ⟨_, head, written, hhead, htagged, rfl⟩

lemma exists_ends (h : f ∈ blocks family.delimiters ls) : ∃ foot, f.Ends family ls foot := by
  have hreport := (placed_of_mem_blocks h 0 "").2
  generalize f.diagnostics "" = reported at hreport
  cases hreport with
  | endOfFile hend => exact ⟨none, .endOfFile (congrArg (· + 1) hend)⟩
  | foot _ hline hfoot _ => exact ⟨_, .foot hline hfoot⟩
  | mistagged _ hline hm => exact ⟨_, .foot hline ⟨.function, hm.1⟩⟩
  | stray hline hfoot hlead => exact ⟨none, .stray hline hfoot hlead⟩

lemma kind_iff_of_ends (h : f ∈ blocks family.delimiters ls) {head : String}
    (hhead : Source.line? ls f.initial = some head) {foot : Option String} (hends : f.Ends family ls foot) :
    f.kind = .function ↔ ∃ line ∈ foot,
      headTag head = "function" ∨ family.delimiters.isFoot .function (Source.unindented line) = true := by
  refine (kind_of_mem_blocks h 0 "").trans ⟨?_, ?_⟩
  · rintro ⟨head', line, hclosed, hwhy⟩
    obtain rfl := Option.some.inj (hhead.symm.trans hclosed.headAt)
    exact ⟨line, (hends.footLine_iff line).mpr ⟨hclosed.footAt, hclosed.isFoot⟩, hwhy⟩
  · rintro ⟨line, hline, hwhy⟩
    obtain ⟨hat, hfoot⟩ := (hends.footLine_iff line).mp hline
    exact ⟨head, line, ⟨hhead, hat, hfoot⟩, hwhy⟩

lemma markup_of_mem_blocks (h : f ∈ blocks family.delimiters ls) {head : String}
    (hhead : Source.line? ls f.initial = some head) :
    f.markup = if f.kind = .function then "function" else headTag head := by
  obtain ⟨c, hc, rfl⟩ := (Segmentation.exists_fits family ls).1
  rw [blocks, Segmentation.blocksFrom_lines hc] at h
  obtain ⟨p, hp, rfl⟩ := List.mem_map.mp h
  rw [Segment.found_initial, (Segmentation.line?_of_mem_number hp).1] at hhead
  obtain rfl := Option.some.inj hhead
  obtain ⟨kind, warning, hsettled⟩ := p.2.found_eq_settle family p.1
  rw [hsettled]
  rfl

lemma reported_iff_mistagged (h : f ∈ blocks family.delimiters ls) {head : String}
    (hhead : Source.line? ls f.initial = some head) (file : String) (n : Nat) :
    ⟨.warning, "function blocks may not have a markup tag", file, n⟩ ∈ f.diagnostics file ↔
      n = f.lastLine ∧ ∃ line, Source.line? ls f.lastLine = some line ∧ family.Mistagged head line := by
  have hreport := (placed_of_mem_blocks h 0 file).2
  have hend : (f.toBlock 0 file).lastLine = f.lastLine := rfl
  generalize f.diagnostics file = reported at hreport
  cases hreport with
  | endOfFile hlength =>
    -- the file has no line after the content
    have hnone : Source.line? ls f.lastLine = none := List.getElem?_eq_none (Nat.le_of_eq hlength)
    simp [hnone]
  | foot hhead' hline _ hm =>
    obtain rfl := Option.some.inj (hhead.symm.trans hhead')
    rw [hend] at hline
    simp [hline, hm]
  | mistagged hhead' hline hm =>
    obtain rfl := Option.some.inj (hhead.symm.trans hhead')
    have hfile : (f.toBlock 0 file).file = file := rfl
    rw [hend] at hline
    simp [hline, hm, hend, hfile]
  | stray hline hfoot _ =>
    rw [hend] at hline
    have hm : ∀ head, ¬ family.Mistagged head _ := fun _ hm => hfoot ⟨.function, hm.1⟩
    simp [hline, hm]

end Scan

theorem tag_and_end_decide_block (family : Family) (ls : List String) :
    (∀ (disk : Disk) (input : Input), Run.lines disk input = .ok ls →
      Scanner.Finds disk family input (Scan.blocks family.delimiters ls)) ∧
    ∀ f ∈ Scan.blocks family.delimiters ls,
      (∃ tag, f.HasTag family ls tag) ∧ (∃ foot, f.Ends family ls foot) ∧
      ∀ (tag : String) (foot : Option String), f.HasTag family ls tag → f.Ends family ls foot →
        (f.kind = .function ↔ ∃ line ∈ foot,
          tag = "function" ∨ family.delimiters.isFoot .function (Source.unindented line) = true) ∧
        (foot = none → f.kind = .generic) ∧
        f.markup = (if f.kind = .function then "function" else tag) ∧
        ∀ (file : String) (n : Nat),
          ⟨.warning, "function blocks may not have a markup tag", file, n⟩ ∈ f.diagnostics file ↔
            n = f.lastLine ∧ ∃ line ∈ foot,
              family.delimiters.isFoot .function (Source.unindented line) = true ∧
              tag ≠ "function" ∧ tag ≠ "none" := by
  refine ⟨fun disk input hlines => Scanner.finds_blocks hlines family, ?_⟩
  intro f hf
  refine ⟨Scan.exists_hasTag hf, Scan.exists_ends hf, ?_⟩
  intro tag foot htag hends
  obtain ⟨head, hhead, rfl⟩ := htag.head
  have hkind := Scan.kind_iff_of_ends hf hhead hends
  refine ⟨hkind, ?_, Scan.markup_of_mem_blocks hf hhead, ?_⟩
  · rintro rfl
    cases hk : f.kind with
    | generic => rfl
    | function =>
      obtain ⟨line, hline, -⟩ := hkind.mp hk
      cases hline
  · intro file n
    exact (Scan.reported_iff_mistagged hf hhead file n).trans
      (and_congr_right fun _ => hends.mistagged_iff head)

def taggedLines : List String :=
  ["##!function", "# a", "##", "##!md ", "# b", "b () \x7b", "##!function", "# c", "code", "##!", "# d",
    "d()", "##!md", "# e"]

def markedDisk : Disk :=
  Disk.empty.addFile (Path.ofString "a.sh") (Text.Utf8.encode (Source.text taggedLines))

theorem tag_and_end_decide_tagged_blocks :
    let closed : Found := ⟨.function, "function", 4, ["b"], some (.taggedFunction, 6)⟩
    let cut : Found := ⟨.generic, "function", 7, ["c"], some (.unclosed, 9)⟩
    Scanner.Finds markedDisk .shell (.verbatim "a.sh") (Scan.blocks Family.shell.delimiters taggedLines) ∧
      closed.HasTag .shell taggedLines "md" ∧ closed.Ends .shell taggedLines (some "b () \x7b") ∧
      ⟨.warning, "function blocks may not have a markup tag", "a.sh", 6⟩ ∈ closed.diagnostics "a.sh" ∧
      cut.HasTag .shell taggedLines "function" ∧ cut.Ends .shell taggedLines none ∧ cut.kind = .generic := by
  intro closed cut
  obtain ⟨hfinds, hblocks⟩ := tag_and_end_decide_block .shell taggedLines
  have hmd : Head.Tagged .hash (['#', '#'] ++ '!' :: (['m', 'd'] ++ [' '])) (some ['m', 'd']) :=
    .tag (by simp) (by simp [Text.isBlank]) (by simp [Text.isBlank])
  have hfunction : Head.Tagged .hash (['#', '#'] ++ '!' :: (Foot.functionWord ++ []))
      (some Foot.functionWord) :=
    .tag (by simp [Foot.functionWord]) (by simp [Foot.functionWord, Text.isBlank]) (by simp)
  have hclosedTag : closed.HasTag .shell taggedLines "md" := ⟨"##!md ", _, rfl, hmd, rfl⟩
  have hclosedEnd : closed.Ends .shell taggedLines (some "b () \x7b") := .foot rfl ⟨.function, by decide⟩
  have hcutTag : cut.HasTag .shell taggedLines "function" := ⟨"##!function", _, rfl, hfunction, rfl⟩
  have hcode : Source.line? taggedLines cut.lastLine = some "code" := rfl
  have hcutEnd : cut.Ends .shell taggedLines none := .stray hcode (by decide) (by decide)
  obtain ⟨-, -, hclosed⟩ := hblocks closed (by decide +kernel)
  obtain ⟨-, -, hcut⟩ := hblocks cut (by decide +kernel)
  obtain ⟨-, -, -, hwarning⟩ := hclosed "md" _ hclosedTag hclosedEnd
  obtain ⟨-, hgeneric, -⟩ := hcut "function" none hcutTag hcutEnd
  refine ⟨?_, hclosedTag, hclosedEnd, ?_, hcutTag, hcutEnd, hgeneric rfl⟩
  · apply hfinds markedDisk (.verbatim "a.sh")
    decide +kernel
  · exact (hwarning "a.sh" 6).mpr ⟨rfl, "b () \x7b", rfl, by decide, by decide, by decide⟩

end CommentDoc
