import CommentDoc.Proofs.Function.RoundTrip
import CommentDoc.Proofs.Run.Reading
import CommentDoc.Proofs.Run.Registration
import CommentDoc.Proofs.Scan.Agreement
import CommentDoc.Text.Unicode

namespace CommentDoc

open Text (spaced)

def CommentStyle.led (style : CommentStyle) (line : String) : String :=
  String.ofList (style.leadChar :: spaced line.toList)

namespace Family

variable {family : Family}

inductive Encloses (family : Family) : (head foot : String) → Prop
  | byFoot {foot : String} : family.delimiters.isFoot .function (Source.unindented foot) = true →
      Encloses family (String.ofList family.style.marker) foot
  | byTag {foot : String} : family.delimiters.isFoot .generic (Source.unindented foot) = true →
      Encloses family (String.ofList (family.style.marker ++ "!function".toList)) foot

lemma spaced_cases (t : List Char) : spaced t = [] ∧ t = [] ∨ spaced t = ' ' :: t := by
  unfold spaced
  by_cases h : t = []
  · exact Or.inl ⟨if_pos h, h⟩
  · exact Or.inr (if_neg h)

lemma leads_led (line : String) : family.style.Leads line (family.style.led line) := by
  rcases spaced_cases line.toList with ⟨hs, hl⟩ | hs
  · refine Or.inr ⟨String.toList_eq_nil_iff.mp hl, [], by simp, ?_⟩
    rw [CommentStyle.led, hs, String.toList_ofList]
    rfl
  · refine Or.inl ⟨[], by simp, ?_⟩
    rw [CommentStyle.led, hs, String.toList_ofList]
    rfl

lemma leadText?_led (line : String) : family.leadText? (family.style.led line) = some line :=
  leadText?_of_leads (leads_led line)

lemma not_footLine_led (line : String) : ¬ family.FootLine (family.style.led line) :=
  not_footLine_of_leads (leads_led line)

lemma newline_notMem_led {line : String} (h : '\n' ∉ line.toList) :
    '\n' ∉ (family.style.led line).toList := by
  have hlead : '\n' ≠ family.style.leadChar := by cases family <;> decide
  rw [CommentStyle.led, String.toList_ofList, List.mem_cons, not_or]
  exact ⟨hlead, Body.newline_notMem_spaced h⟩

lemma Encloses.headLine {head foot : String} (h : family.Encloses head foot) : family.HeadLine head := by
  rw [headLine_iff]
  cases h with
  | byFoot _ => cases family <;> decide
  | byTag _ => cases family <;> decide

lemma Encloses.newline_notMem {head foot : String} (h : family.Encloses head foot) : '\n' ∉ head.toList := by
  cases h with
  | byFoot _ => cases family <;> decide
  | byTag _ => cases family <;> decide

lemma Encloses.footLine {head foot : String} (h : family.Encloses head foot) : family.FootLine foot := by
  cases h with
  | byFoot hf => exact ⟨.function, hf⟩
  | byTag hf => exact ⟨.generic, hf⟩

lemma Encloses.fits {head foot : String} (h : family.Encloses head foot) {before : List String}
    (hb : ∀ line ∈ before, ¬ family.HeadLine line) (lines : List String) :
    Segment.Fits family ⟨before, head, lines.map family.style.led, some foot⟩ where
  skipped := hb
  head := h.headLine
  middle := by
    intro line hl
    obtain ⟨text, -, rfl⟩ := List.mem_map.mp hl
    exact ⟨not_footLine_led text, by rw [LeadLine, leadText?_led]; rfl⟩
  last := by
    rintro line ⟨⟩
    exact Or.inl h.footLine

lemma filterMap_led (lines : List String) :
    (lines.map family.style.led).filterMap family.leadText? = lines := by
  simp [List.filterMap_map, leadText?_led]

lemma Encloses.found {head foot : String} (h : family.Encloses head foot) (before lines : List String)
    (n : Nat) :
    (Segment.mk before head (lines.map family.style.led) (some foot)).found family n =
      ⟨.function, functionMarkup, n, lines, none⟩ := by
  cases h with
  | byFoot hf =>
    have hmarkup : ((Head.tag?
        (Source.unindented (String.ofList family.style.marker))).map String.ofList).getD noMarkup =
        noMarkup := by
      cases family <;> decide
    simp only [Segment.found, footKind?_function hf, Segment.draft, hmarkup, filterMap_led]
    rfl
  | byTag hf =>
    have hmarkup : ((Head.tag? (Source.unindented
        (String.ofList (family.style.marker ++ "!function".toList)))).map String.ofList).getD noMarkup =
        functionMarkup := by
      cases family <;> decide
    simp only [Segment.found, footKind?_generic hf, Segment.draft, hmarkup, filterMap_led]
    rfl

end Family

lemma Member.WellFormed.newline_notMem {m : Member} (h : m.WellFormed) : '\n' ∉ m.line.toList := by
  have htag : '\n' ∉ m.tag.toList := fun hn => absurd ((Body.tag_chars h).2 _ hn).1 (by decide)
  have hdescription := h.description.newline
  simp [Member.line, htag, hdescription]

lemma Paragraph.WellFormed.newline_notMem [Text.Edition] {p : Paragraph} (h : p.WellFormed) :
    '\n' ∉ p.line.toList := by
  have hparagraph := h.paragraph.newline
  unfold Paragraph.line
  split
  next => exact hparagraph
  next hp =>
    have hheading : '\n' ∉ p.heading.toList := by
      intro hn
      have hchar := (h.heading hp).2 _ hn
      rw [Text.Edition.isWord_ascii '\n' (by decide)] at hchar
      exact absurd hchar (by decide)
    simp [hheading, hparagraph]

lemma FunctionContent.WellFormed.newline_notMem [Text.Edition] {c : FunctionContent} (h : c.WellFormed) :
    ∀ line ∈ c.lines, '\n' ∉ line.toList := by
  have hname : '\n' ∉ c.name.toList := fun hn => absurd (h.isBlank_name _ hn) (by decide)
  have hshort := h.shortDescription.newline
  intro line hl
  rcases List.mem_cons.mp hl with rfl | hl
  · rw [toList_headerLine]
    split <;> simp [hname, hshort]
  rcases List.mem_append.mp hl with hl | hl
  · obtain ⟨m, hm, rfl⟩ := List.mem_map.mp hl
    exact (h.members m hm).newline_notMem
  · obtain ⟨p, hp, hl⟩ := List.mem_flatMap.mp hl
    rcases List.mem_cons.mp hl with rfl | hl
    · simp
    · rw [List.mem_singleton.mp hl]
      exact (h.description p hp).newline_notMem

namespace Run

lemma take_of_record [Text.Edition] {run : Run} {file : String} {found : Found} {record : Record}
    (hs : run.selection.admits found.kind = true) (hr : (found.toBlock run.nextId file).record = .ok record) :
    run.take file found = ((run.register file found).1, some record) := by
  have ht : run.take file found = (run.register file found).1.parse (run.register file found).2 := if_pos hs
  rw [ht, parse, register_snd, hr]

lemma extract_single [Text.Edition] {disk : Disk} {run : Run} {input : Input} {ls : List String}
    {found : Found} {record : Record}
    (hl : lines disk input = .ok ls) (hb : Scan.blocks (run.delimiters input) ls = [found])
    (hs : run.selection.admits found.kind = true) (hw : found.warning = none)
    (hr : (found.toBlock run.nextId input.file).record = .ok record) :
    ∃ run', run.extract disk [input] = ⟨run', [record], none⟩ ∧ run'.diagnostics = run.diagnostics ∧
      run'.blocks = run.blocks ++ [found.toBlock run.nextId input.file] := by
  have htake : (run.noteScanning input).take input.file found =
      (((run.noteScanning input).register input.file found).1, some record) := take_of_record hs hr
  refine ⟨((run.noteScanning input).register input.file found).1, ?_, ?_, rfl⟩
  · simp only [extract, founds_of_lines _ hl, hb, takeAll, htake, Option.toList_some, List.append_nil]
  · rw [diagnostics_register, noteScanning, diagnostics_scanning, Found.diagnostics, hw, List.append_nil]

end Run

def documented (family : Family) (c : FunctionContent) (before : List String) (head foot : String)
    (after : List String) : List String :=
  before ++ head :: (c.lines.map family.style.led ++ foot :: after)

lemma newline_notMem_documented [Text.Edition] {family : Family} {c : FunctionContent}
    (hc : c.WellFormed) {head foot : String}
    (he : family.Encloses head foot) {before after : List String}
    (h : ∀ line ∈ before ++ foot :: after, '\n' ∉ line.toList) :
    ∀ line ∈ documented family c before head foot after, '\n' ∉ line.toList := by
  intro line hl
  rcases List.mem_append.mp hl with hl | hl
  · exact h line (by simp [hl])
  rcases List.mem_cons.mp hl with rfl | hl
  · exact he.newline_notMem
  rcases List.mem_append.mp hl with hl | hl
  · obtain ⟨text, ht, rfl⟩ := List.mem_map.mp hl
    exact Family.newline_notMem_led (hc.newline_notMem text ht)
  · exact h line (by simp [List.mem_cons.mp hl])

lemma blocks_documented {family : Family} (c : FunctionContent) {head foot : String}
    (he : family.Encloses head foot)
    {before after : List String} (hbefore : ∀ line ∈ before, ¬ family.HeadLine line)
    (hafter : ∀ line ∈ after, ¬ family.HeadLine line) :
    Scan.blocks family.delimiters (documented family c before head foot after) =
      [⟨.function, functionMarkup, before.length + 1, c.lines, none⟩] := by
  let segment : Segment := ⟨before, head, c.lines.map family.style.led, some foot⟩
  have hfits : Segmentation.Fits family ⟨[segment], after⟩ :=
    Segmentation.fits_cons_iff.mpr
      ⟨he.fits hbefore c.lines, Or.inl ⟨by simp [segment], Segmentation.fits_nil hafter⟩⟩
  have hlines : Segmentation.lines ⟨[segment], after⟩ = documented family c before head foot after := by
    simp [Segmentation.lines, Segment.lines, segment, documented]
  have hblocks := Segmentation.blocksFrom_lines hfits 1
  rw [hlines] at hblocks
  rw [Scan.blocks, hblocks]
  simp [Segmentation.number, segment, he.found, Nat.add_comm 1]

theorem function_documentation_survives_extraction [Text.Edition] (family : Family)
    (c : FunctionContent) (hc : c.WellFormed)
    (head foot : String) (he : family.Encloses head foot) (before after : List String)
    (hbefore : ∀ line ∈ before, ¬ family.HeadLine line) (hafter : ∀ line ∈ after, ¬ family.HeadLine line)
    (hnewline : ∀ line ∈ before ++ foot :: after, '\n' ∉ line.toList)
    (run : Run) (input : Input) (disk : Disk)
    (hfamily : run.delimiters input = family.delimiters) (hselection : run.selection.admits .function = true)
    (hoctets : Run.octets disk input =
      .ok (Text.Utf8.encode (Source.text (documented family c before head foot after)))) :
    ∃ run', run.extract disk [input] =
        ⟨run', [⟨run.nextId, .function, "function", input.file, ⟨before.length + 1, c.lines.length⟩,
          .function c⟩], none⟩ ∧
      run'.diagnostics = run.diagnostics ∧ run'.blocks.length = run.blocks.length + 1 := by
  have hlines : Run.lines disk input = .ok (documented family c before head foot after) := by
    rw [Run.lines_of_octets hoctets, Source.lines_encode_text (newline_notMem_documented hc he hnewline)]
  have hblocks := blocks_documented c he hbefore hafter
  rw [← hfamily] at hblocks
  have hrecord : (Found.toBlock
      ⟨.function, functionMarkup, before.length + 1, c.lines, none⟩ run.nextId input.file).record =
      .ok ⟨run.nextId, .function, "function", input.file, ⟨before.length + 1, c.lines.length⟩,
        .function c⟩ := by
    simp only [Block.record, Block.content, Found.toBlock, hc.parse_lines]
    rfl
  obtain ⟨run', hrun, hdiagnostics, hregistered⟩ := Run.extract_single hlines hblocks hselection rfl hrecord
  refine ⟨run', hrun, hdiagnostics, ?_⟩
  rw [hregistered, List.length_append]
  rfl

def greeting : FunctionContent where
  name := "greet"
  shortDescription := "Print - a greeting."
  members := [⟨"1", "Name: of a person."⟩, ⟨"@return", ""⟩]
  description := [⟨"NOTE", ""⟩, ⟨"", "@home alone"⟩]

def greetingDisk : Disk :=
  Disk.empty.addFile (Path.ofString "a.sh")
    (Text.Utf8.encode (Source.text (documented .shell greeting ["#!/bin/sh"] "##" "greet() \x7b" ["\x7d"])))

theorem greeting_survives_extraction :
    greeting.WellFormed ∧ Family.shell.Encloses "##" "greet() \x7b" ∧
      ((Run.start "" .all .standard).extract greetingDisk [.verbatim "a.sh"]).records =
        [⟨0, .function, "function", "a.sh", ⟨2, 7⟩, .function greeting⟩] := by
  have hc : greeting.WellFormed := by
    have hname : "greet".toList.all Char.isAlphanum = true := by decide
    have htag : "1".toList.all (fun c => !Text.isBlank c && c != ':') = true := by decide
    have hheading : "NOTE".toList.all (fun c => Text.isWord c) = true := by decide +kernel
    simp only [List.all_eq_true, Bool.and_eq_true, Bool.not_eq_true', bne_iff_ne] at hname htag hheading
    refine ⟨⟨by decide, fun x hx => Or.inl (hname x hx)⟩, ⟨by decide, by decide⟩, ?_, ?_⟩
    · simp only [greeting, List.forall_mem_cons]
      exact ⟨⟨Or.inr ⟨by decide, by decide, htag⟩, by decide, by decide⟩,
        ⟨Or.inl rfl, by decide, by decide⟩, by simp⟩
    · simp only [greeting, List.forall_mem_cons]
      refine ⟨⟨⟨by decide, by decide⟩, fun _ => ⟨by decide, fun x hx => Or.inl (hheading x hx)⟩, by simp⟩,
        ⟨⟨by decide, by decide⟩, by simp, fun _ => ⟨by decide, ?_, ?_⟩⟩, by simp⟩
      · rintro ⟨tag, rest, -, -, h⟩
        have hcolon : ':' ∈ "@home alone".toList := by simp [h]
        exact absurd hcolon (by decide)
      · rintro ⟨heading, rest, -, -, h⟩
        have hcolon : ':' ∈ "@home alone".toList := by simp [h]
        exact absurd hcolon (by decide)
  have he : Family.shell.Encloses "##" "greet() \x7b" := .byFoot (by decide)
  obtain ⟨run', hrun, -, -⟩ :=
    function_documentation_survives_extraction .shell greeting hc "##" "greet() \x7b" he
    ["#!/bin/sh"] ["\x7d"] (by decide) (by decide) (by decide) (.start "" .all .standard) (.verbatim "a.sh")
    greetingDisk (by decide) (by decide) (by decide +kernel)
  refine ⟨hc, he, ?_⟩
  rw [hrun]
  rfl

end CommentDoc
