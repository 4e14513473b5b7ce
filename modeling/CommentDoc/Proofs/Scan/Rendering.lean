import CommentDoc.Proofs.Delimiter.Tags
import CommentDoc.Proofs.Scan.Kinds
import CommentDoc.Proofs.Scan.Newlines

namespace CommentDoc

lemma exists_of_forall₂ {α β : Type} {R : α → β → Prop} {as : List α} {bs : List β}
    (h : List.Forall₂ R as bs) {b : β}
    (hb : b ∈ bs) : ∃ a ∈ as, R a b := by
  induction h with
  | nil => cases hb
  | cons hr _ ih =>
    rcases List.mem_cons.mp hb with rfl | hb
    · exact ⟨_, List.mem_cons_self, hr⟩
    · obtain ⟨a, ha, hr⟩ := ih hb
      exact ⟨a, List.mem_cons_of_mem _ ha, hr⟩

lemma Indented.oneLine {text : List Char} {line : String} (h : Indented text line) (htext : '\n' ∉ text) :
    OneLine line := by
  obtain ⟨indent, hindent, hline⟩ := h
  rw [OneLine, hline, List.mem_append]
  rintro (hn | hn)
  · rcases hindent _ hn with h | h <;> exact absurd h (by decide)
  · exact htext hn

namespace Family

variable {family : Family}

lemma oneLine_of_leads {text line : String} (h : family.style.Leads text line) (htext : OneLine text) :
    OneLine line := by
  have hlead : '\n' ≠ family.style.leadChar := by cases family <;> decide
  rcases h with h | ⟨-, h⟩
  · apply h.oneLine
    rw [List.mem_cons, List.mem_cons]
    rintro (hn | hn | hn)
    · exact hlead hn
    · exact absurd hn (by decide)
    · exact htext hn
  · apply h.oneLine
    rw [List.mem_singleton]
    exact hlead

def Gap (family : Family) (ls : List String) : Prop :=
  ∀ line ∈ ls, OneLine line ∧ ¬ family.HeadLine line

instance (ls : List String) : Decidable (family.Gap ls) :=
  inferInstanceAs (Decidable (∀ line ∈ ls, OneLine line ∧ ¬ family.HeadLine line))

end Family

structure Sketch where
  tag : Option String
  content : List String
  foot : BlockKind

namespace Sketch

structure WellFormed (d : Sketch) : Prop where
  tag : ∀ t ∈ d.tag, t ≠ "" ∧ ∀ c ∈ t.toList, c ≠ '!' ∧ Text.isBlank c = false
  content : ∀ text ∈ d.content, OneLine text

def head (d : Sketch) (style : CommentStyle) : List Char :=
  match d.tag with
  | none => style.marker
  | some t => style.marker ++ '!' :: t.toList

def kind (d : Sketch) : BlockKind :=
  if d.foot = .function ∨ d.tag = some "function" then .function else .generic

def markup (d : Sketch) : String :=
  if d.kind = .function then "function" else d.tag.getD "none"

def block (d : Sketch) (id number : Nat) (file : String) : Block where
  id := id
  kind := d.kind
  markup := d.markup
  file := file
  lines := ⟨number, d.content.length⟩
  captured := d.content

structure Writes (family : Family) (d : Sketch) (s : Segment) : Prop where
  gap : family.Gap s.skipped
  head : Indented (d.head family.style) s.head
  middle : List.Forall₂ family.style.Leads d.content s.middle
  last : ∃ line, s.last = some line ∧ OneLine line ∧
    family.delimiters.isFoot d.foot (Source.unindented line) = true

variable {family : Family} {d : Sketch} {s : Segment}

lemma tagged_head (h : d.WellFormed) (style : CommentStyle) :
    Head.Tagged style (d.head style) (d.tag.map String.toList) := by
  cases ht : d.tag with
  | none =>
    have hbare : Head.Tagged style (style.marker ++ []) none := .bare (by simp)
    rw [List.append_nil] at hbare
    rw [head, ht]
    exact hbare
  | some t =>
    obtain ⟨hne, hchars⟩ := h.tag t ht
    have htagged : Head.Tagged style (style.marker ++ '!' :: (t.toList ++ [])) (some t.toList) :=
      .tag (by simpa using hne) hchars (by simp)
    rw [List.append_nil] at htagged
    rw [head, ht]
    exact htagged

lemma unindented_head (hd : Indented (d.head family.style) s.head) :
    Source.unindented s.head = d.head family.style := by
  apply hd.unindented
  intro c hc
  have hmark : (d.head family.style).head? = family.style.marker.head? := by
    unfold head
    cases d.tag <;> cases family <;> rfl
  rw [hmark] at hc
  cases family <;> obtain rfl := Option.some.inj hc <;> decide

lemma oneLine_head (h : d.WellFormed) (style : CommentStyle) : '\n' ∉ d.head style := by
  have hmarker : '\n' ∉ style.marker := by cases style <;> decide
  unfold head
  split
  next => exact hmarker
  next t ht =>
    rw [List.mem_append, List.mem_cons]
    rintro (hn | hn | hn)
    · exact hmarker hn
    · exact absurd hn (by decide)
    · exact absurd ((h.tag t ht).2 _ hn).2 (by decide)

namespace Writes

lemma headTag_head (h : d.Writes family s) (hd : d.WellFormed) : headTag s.head = d.tag.getD "none" := by
  rw [headTag, unindented_head h.head, (tagged_head hd family.style).tag?_eq]
  cases d.tag <;> simp

lemma fits (h : d.Writes family s) (hd : d.WellFormed) : s.Fits family where
  skipped := fun line hl => (h.gap line hl).2
  head := by
    rw [Family.headLine_iff, unindented_head h.head]
    exact Head.accepts_iff.mpr ⟨_, tagged_head hd family.style⟩
  middle := by
    intro line hl
    obtain ⟨text, -, hlead⟩ := exists_of_forall₂ h.middle hl
    refine ⟨Family.not_footLine_of_leads hlead, ?_⟩
    rw [Family.LeadLine, Family.leadText?_of_leads hlead]
    rfl
  last := by
    intro line hl
    obtain ⟨foot, hlast, -, hfoot⟩ := h.last
    obtain rfl : foot = line := Option.some.inj (hlast.symm.trans hl)
    exact Or.inl ⟨d.foot, hfoot⟩

lemma captured (h : d.Writes family s) : s.middle.filterMap family.leadText? = d.content := by
  have hm := h.middle
  generalize s.middle = ls at hm
  generalize d.content = texts at hm
  induction hm with
  | nil => rfl
  | cons hlead _ ih => rw [List.filterMap_cons, Family.leadText?_of_leads hlead, ih]

lemma footKind? (h : d.Writes family s) :
    ∃ line, s.last = some line ∧ family.delimiters.footKind? (Source.unindented line) = some d.foot := by
  obtain ⟨line, hlast, -, hfoot⟩ := h.last
  refine ⟨line, hlast, ?_⟩
  cases hk : d.foot with
  | generic => exact Family.footKind?_generic (hk ▸ hfoot)
  | function => exact Family.footKind?_function (hk ▸ hfoot)

lemma kind_eq (d : Sketch) :
    (if d.tag.getD "none" = "function" then BlockKind.function else d.foot) = d.kind := by
  have htag : d.tag.getD "none" = "function" ↔ d.tag = some "function" := by
    cases d.tag <;> simp
  unfold kind
  simp only [htag]
  by_cases ht : d.tag = some "function"
  · simp [ht]
  · cases hf : d.foot <;> simp [ht]

lemma found (h : d.Writes family s) (hd : d.WellFormed) (number : Nat) :
    ∃ warning, s.found family number = ⟨d.kind, d.markup, number, d.content, warning⟩ ∧
      ∀ w ∈ warning, w.1 ≠ .unclosed := by
  obtain ⟨line, hlast, hfoot⟩ := h.footKind?
  have hclosed : s.found family number =
      (s.draft family number).close d.foot (number + s.middle.length + 1) := by
    simp only [Segment.found, hlast, hfoot]
  obtain ⟨warning, hclose⟩ :=
    (s.draft family number).close_eq_settle_kind d.foot (number + s.middle.length + 1)
  have hmarkup : (s.draft family number).markup = d.tag.getD "none" := h.headTag_head hd
  rw [hmarkup, kind_eq] at hclose
  refine ⟨warning, ?_, ?_⟩
  · rw [hclosed, hclose]
    have hcaptured : (s.draft family number).captured = d.content := h.captured
    rw [Draft.settle, hmarkup, hcaptured]
    rfl
  · have hwarning : (s.found family number).warning = warning := by
      rw [hclosed, hclose]
      rfl
    intro w hw
    rcases Segment.warning_foot hlast hfoot number with ⟨-, hw'⟩ | ⟨-, hw'⟩
    · rw [hwarning, Option.mem_def.mp hw] at hw'
      cases hw'
      simp
    · rw [hwarning, Option.mem_def.mp hw] at hw'
      cases hw'

lemma toBlock (h : d.Writes family s) (hd : d.WellFormed) (id number : Nat) (file : String) :
    (s.found family number).toBlock id file = d.block id number file := by
  obtain ⟨warning, hfound, -⟩ := h.found hd number
  rw [hfound]
  rfl

lemma message_ne_unclosed (h : d.Writes family s) (hd : d.WellFormed) (number : Nat) (file : String) :
    ∀ m ∈ (s.found family number).diagnostics file, m.message ≠ "unclosed block" := by
  obtain ⟨warning, hfound, hwarning⟩ := h.found hd number
  rw [hfound]
  intro m hm
  cases warning with
  | none => cases hm
  | some w =>
    obtain ⟨kind, n⟩ := w
    rw [List.mem_singleton.mp hm]
    cases kind with
    | unclosed => exact absurd rfl (hwarning _ rfl)
    | taggedFunction => exact (by decide : ScanWarning.taggedFunction.message ≠ "unclosed block")

lemma oneLine (h : d.Writes family s) (hd : d.WellFormed) : ∀ line ∈ s.lines, OneLine line := by
  intro line hl
  rcases List.mem_append.mp hl with hl | hl
  · exact (h.gap line hl).1
  rcases List.mem_cons.mp hl with rfl | hl
  · exact h.head.oneLine (oneLine_head hd family.style)
  rcases List.mem_append.mp hl with hl | hl
  · obtain ⟨text, ht, hlead⟩ := exists_of_forall₂ h.middle hl
    exact Family.oneLine_of_leads hlead (hd.content text ht)
  · obtain ⟨foot, hlast, hone, -⟩ := h.last
    rw [hlast, Option.toList_some, List.mem_singleton] at hl
    rw [hl]
    exact hone

end Writes

end Sketch

namespace Segmentation

open Sketch (Writes)

variable {family : Family} {sketches : List Sketch} {segments : List Segment} {rest : List String}

lemma fits_of_writes (hd : ∀ d ∈ sketches, d.WellFormed) (h : List.Forall₂ (Writes family) sketches segments)
    (hrest : family.Gap rest) : Fits family ⟨segments, rest⟩ := by
  induction h with
  | nil => exact fits_nil fun line hl => (hrest line hl).2
  | cons hw _ ih =>
    obtain ⟨hdraft, hrests⟩ := List.forall_mem_cons.mp hd
    obtain ⟨line, hlast, -⟩ := hw.last
    exact fits_cons_iff.mpr ⟨hw.fits hdraft, Or.inl ⟨by simp [hlast], ih hrests⟩⟩

lemma oneLine_of_writes (hd : ∀ d ∈ sketches, d.WellFormed)
    (h : List.Forall₂ (Writes family) sketches segments)
    (hrest : family.Gap rest) : ∀ line ∈ lines ⟨segments, rest⟩, OneLine line := by
  intro line hl
  rcases List.mem_append.mp hl with hl | hl
  · obtain ⟨s, hs, hl⟩ := List.mem_flatMap.mp hl
    obtain ⟨d, hmem, hw⟩ := exists_of_forall₂ h hs
    exact hw.oneLine (hd d hmem) line hl
  · exact (hrest line hl).1

lemma toBlock_of_writes (hd : ∀ d ∈ sketches, d.WellFormed)
    (h : List.Forall₂ (Writes family) sketches segments)
    (n id : Nat) (file : String) :
    ((number n segments).map fun p => p.2.found family p.1).mapIdx
      (fun i found => found.toBlock (id + i) file) =
      (sketches.zip (number n segments)).mapIdx fun i q => q.1.block (id + i) q.2.1 file := by
  induction h generalizing n id with
  | nil => rfl
  | @cons d s sketches segments hw _ ih =>
    obtain ⟨hsketch, hrests⟩ := List.forall_mem_cons.mp hd
    have hlater := ih hrests (n + s.lines.length) (id + 1)
    simp only [number, List.map_cons, List.zip_cons_cons, List.mapIdx_cons, Nat.add_zero, hw.toBlock hsketch]
    simp only [Nat.add_assoc, Nat.add_comm 1] at hlater
    rw [hlater]

lemma length_number (n : Nat) (segments : List Segment) : (number n segments).length = segments.length := by
  induction segments generalizing n with
  | nil => rfl
  | cons s segments ih => simp [number, ih]

end Segmentation

theorem written_blocks_are_scanned (family : Family) (sketches : List Sketch) (segments : List Segment)
    (rest : List String) (hd : ∀ d ∈ sketches, d.WellFormed)
    (hwrites : List.Forall₂ (Sketch.Writes family) sketches segments) (hrest : family.Gap rest)
      (filetype : String)
    (selection : Selection) (table : Table) (disk : Disk) (input : Input)
    (hfamily : table.family (table.resolve input.path filetype) = family)
    (hoctets : Run.octets disk input =
      .ok (Text.Utf8.encode (Source.text (Segmentation.lines ⟨segments, rest⟩)))) :
    let run := Run.start filetype selection table
    let blocks := (sketches.zip (Segmentation.number 1 segments)).mapIdx fun id q =>
      q.1.block id q.2.1 input.file
    blocks.length = sketches.length ∧
    (∀ p ∈ Segmentation.number 1 segments,
      Source.line? (Segmentation.lines ⟨segments, rest⟩) p.1 = some p.2.head) ∧
    ∃ run', Scanner.Yields disk (.make run input none) run blocks run' ∧ run'.blocks = blocks ∧
      ∀ m ∈ run'.diagnostics, m.message ≠ "unclosed block" := by
  intro run blocks
  have hlength : blocks.length = sketches.length := by
    simp [blocks, Segmentation.length_number, hwrites.length_eq]
  refine ⟨hlength, fun p hp => (Segmentation.line?_of_mem_number (c := ⟨segments, rest⟩) hp).1, ?_⟩
  have hlines : Run.lines disk input = .ok (Segmentation.lines ⟨segments, rest⟩) := by
    rw [Run.lines_of_octets hoctets,
      Source.lines_encode_text (Segmentation.oneLine_of_writes hd hwrites hrest)]
  have hdelimiters : run.delimiters input = family.delimiters := congrArg Family.delimiters hfamily
  have hfounds : Scan.blocks (run.delimiters input) (Segmentation.lines ⟨segments, rest⟩) =
      (Segmentation.number 1 segments).map fun p => p.2.found family p.1 := by
    rw [hdelimiters, Scan.blocks,
      Segmentation.blocksFrom_lines (Segmentation.fits_of_writes hd hwrites hrest)]
  have hblocks := Segmentation.toBlock_of_writes hd hwrites 1 0 input.file
  simp only [Nat.zero_add] at hblocks
  obtain ⟨run', hy, hregistered, hreported⟩ := Scanner.yields_file hlines run
  have hid : run.nextId = 0 := rfl
  simp only [hfounds, hid, Nat.zero_add, hblocks] at hy hregistered
  refine ⟨run', hy, hregistered, ?_⟩
  intro m hm
  rw [hreported, hfounds] at hm
  obtain ⟨found, hfound, hm⟩ := List.mem_flatMap.mp hm
  obtain ⟨p, hp, rfl⟩ := List.mem_map.mp hfound
  obtain ⟨d, hmem, hw⟩ := exists_of_forall₂ hwrites (Segmentation.number_mem hp)
  exact hw.message_ne_unclosed (hd d hmem) p.1 input.file m hm

def trickySketches : List Sketch :=
  [⟨some "x", ["##!y", "", "##", "@a: b"], .generic⟩, ⟨none, [], .function⟩,
    ⟨some "function", [" f "], .generic⟩]

def trickySegments : List Segment :=
  [⟨["#!/bin/sh", "# text"], "\t##!x", ["# ##!y", " #", "\t # ##", "# @a: b"], some " ##"⟩,
    ⟨[], "##", [], some "  f() \x7b"⟩, ⟨["\x7d", ""], "##!function", ["#  f "], some "## "⟩]

def trickyDisk : Disk :=
  Disk.empty.addFile (Path.ofString "a.sh")
    (Text.Utf8.encode (Source.text (Segmentation.lines ⟨trickySegments, ["end"]⟩)))

theorem tricky_blocks_are_scanned :
    (∀ d ∈ trickySketches, d.WellFormed) ∧
      List.Forall₂ (Sketch.Writes .shell) trickySketches trickySegments ∧ Family.shell.Gap ["end"] ∧
      ∃ run', Scanner.Yields trickyDisk (.make (.start "" .all .standard) (.verbatim "a.sh") none)
          (.start "" .all .standard)
          [⟨0, .generic, "x", "a.sh", ⟨3, 4⟩, ["##!y", "", "##", "@a: b"]⟩,
            ⟨1, .function, "function", "a.sh", ⟨9, 0⟩, []⟩,
              ⟨2, .function, "function", "a.sh", ⟨13, 1⟩, [" f "]⟩] run' ∧
        ∀ m ∈ run'.diagnostics, m.message ≠ "unclosed block" := by
  have htag : ∀ t : String, t ≠ "" → t.toList.all Head.isTagChar = true →
      t ≠ "" ∧ ∀ c ∈ t.toList, c ≠ '!' ∧ Text.isBlank c = false := by
    intro t hne hchars
    refine ⟨hne, ?_⟩
    simpa [Head.isTagChar] using hchars
  have hd : ∀ d ∈ trickySketches, d.WellFormed := by
    simp only [trickySketches, List.forall_mem_cons]
    refine ⟨⟨?_, by decide⟩, ⟨by simp, by decide⟩, ⟨?_, by decide⟩, by simp⟩
    · rintro _ ⟨⟩
      exact htag "x" (by decide) (by decide)
    · rintro _ ⟨⟩
      exact htag "function" (by decide) (by decide)
  have hmiddle : List.Forall₂ Family.shell.style.Leads ["##!y", "", "##", "@a: b"]
      ["# ##!y", " #", "\t # ##", "# @a: b"] :=
    .cons (.inl ⟨[], by simp, rfl⟩) (.cons (.inr ⟨rfl, [' '], by simp, rfl⟩)
      (.cons (.inl ⟨['\t', ' '], by simp, rfl⟩) (.cons (.inl ⟨[], by simp, rfl⟩) .nil)))
  have hwrites : List.Forall₂ (Sketch.Writes .shell) trickySketches trickySegments := by
    refine .cons ⟨by decide, ⟨['\t'], by simp, rfl⟩, hmiddle, " ##", rfl, by decide, by decide⟩ ?_
    refine .cons ⟨by decide, ⟨[], by simp, rfl⟩, .nil, "  f() \x7b", rfl, by decide, by decide⟩ ?_
    refine .cons ⟨by decide, ⟨[], by simp, rfl⟩, ?_, "## ", rfl, by decide, by decide⟩ .nil
    exact .cons (.inl ⟨[], by simp, rfl⟩) .nil
  have hrest : Family.shell.Gap ["end"] := by decide
  obtain ⟨-, -, run', hy, -, hdiagnostics⟩ :=
    written_blocks_are_scanned .shell trickySketches trickySegments ["end"] hd
    hwrites hrest "" .all .standard trickyDisk (.verbatim "a.sh") (by decide) (by decide +kernel)
  exact ⟨hd, hwrites, hrest, run', hy, hdiagnostics⟩

end CommentDoc
