import CommentDoc.Proofs.Run.Progress
import CommentDoc.Proofs.Run.Registration
import CommentDoc.Proofs.Scan.Order
import Mathlib.Data.List.Forall2
import CommentDoc.Text.Unicode

namespace CommentDoc

structure Block.Proper (b : Block) : Prop where
  total : b.lines.total = b.captured.length
  initial : 1 ≤ b.lines.initial
  markup : b.kind = .function → b.markup = "function"

structure OneScan (input : Input) (scan : List Block) : Prop where
  file : ∀ b ∈ scan, b.file = input.file
  ordered : scan.Pairwise (·.lines.initial < ·.lines.initial)

def Scanned (inputs : List Input) (blocks : List Block) : Prop :=
  ∃ scans, blocks = scans.flatten ∧ List.Forall₂ OneScan inputs scans

structure Record.Of (b : Block) (r : Record) : Prop where
  id : r.id = b.id
  kind : r.kind = b.kind
  markup : r.markup = b.markup
  file : r.file = b.file
  lines : r.lines = b.lines
  function : (∃ content, r.content = .function content) ↔ r.kind = .function
  generic : r.kind = .generic → r.content = .generic b.captured

structure Invariant (begun : List Input) (blocks : List Block) (records : List Record) : Prop where
  ids : ∀ (i : Nat) (b : Block), blocks[i]? = some b → b.id = i
  proper : ∀ b ∈ blocks, b.Proper
  scanned : Scanned begun blocks
  ascending : records.Pairwise (·.id < ·.id)
  sources : ∀ r ∈ records, ∃ b, blocks[r.id]? = some b ∧ r.Of b

lemma Found.Proper.toBlock {f : Found} (h : f.Proper) (id : Nat) (file : String) :
    (f.toBlock id file).Proper :=
  ⟨rfl, h.initial, h.markup⟩

lemma Block.record_of [Text.Edition] {b : Block} {r : Record} (h : b.record = .ok r) : r.Of b := by
  obtain ⟨id, kind, markup, file, lines, captured⟩ := b
  cases kind with
  | generic =>
    obtain rfl : r = _ := (Except.ok.inj h).symm
    exact ⟨rfl, rfl, rfl, rfl, rfl, by simp [withContent], fun _ => rfl⟩
  | function =>
    cases hp : FunctionContent.parse captured with
    | error fault => simp [record, content, hp, Except.map] at h
    | ok content =>
      have hr : r = Block.withContent ⟨id, .function, markup, file, lines, captured⟩ (.function content) := by
        simpa [record, Block.content, hp, Except.map] using h.symm
      subst hr
      exact ⟨rfl, rfl, rfl, rfl, rfl, by simp [withContent], by simp [withContent]⟩

lemma Scanned.append {inputs : List Input} {blocks scan : List Block} {input : Input}
    (h : Scanned inputs blocks)
    (hs : OneScan input scan) : Scanned (inputs ++ [input]) (blocks ++ scan) := by
  obtain ⟨scans, rfl, hf⟩ := h
  exact ⟨scans ++ [scan], by simp, List.rel_append hf (.cons hs .nil)⟩

namespace Invariant

variable {begun : List Input} {blocks : List Block} {records : List Record}

lemma nil : Invariant [] [] [] where
  ids := by simp
  proper := by simp
  scanned := ⟨[], rfl, .nil⟩
  ascending := .nil
  sources := by simp

lemma begin (h : Invariant begun blocks records) (input : Input) :
    Invariant (begun ++ [input]) blocks records := by
  have hs : Scanned (begun ++ [input]) (blocks ++ []) := h.scanned.append ⟨by simp, .nil⟩
  rw [List.append_nil] at hs
  exact { h with scanned := hs }

lemma lt_length (h : Invariant begun blocks records) {r : Record} (hr : r ∈ records) :
    r.id < blocks.length := by
  obtain ⟨b, hb, -⟩ := h.sources r hr
  exact (List.getElem?_eq_some_iff.mp hb).1

lemma block (h : Invariant begun blocks records) {b : Block} (hid : b.id = blocks.length) (hb : b.Proper)
    (hs : Scanned begun (blocks ++ [b])) : Invariant begun (blocks ++ [b]) records where
  ids := by
    intro i b' hi
    rcases Nat.lt_trichotomy i blocks.length with hlt | rfl | hgt
    · rw [List.getElem?_append_left hlt] at hi
      exact h.ids i b' hi
    · rw [List.getElem?_concat_length] at hi
      obtain rfl := Option.some.inj hi
      exact hid
    · rw [List.getElem?_eq_none (by simp; omega)] at hi
      cases hi
  proper := by
    intro b' hb'
    rcases List.mem_append.mp hb' with hb' | hb'
    · exact h.proper b' hb'
    · rw [List.mem_singleton.mp hb']
      exact hb
  scanned := hs
  ascending := h.ascending
  sources := by
    intro r hr
    obtain ⟨b', hb', ho⟩ := h.sources r hr
    refine ⟨b', ?_, ho⟩
    rw [List.getElem?_append_left (h.lt_length hr), hb']

lemma record (h : Invariant begun blocks records) {b : Block} (hb : blocks[b.id]? = some b) {r : Record}
    (hr : r.Of b) (hnew : ∀ r' ∈ records, r'.id < b.id) : Invariant begun blocks (records ++ [r]) where
  ids := h.ids
  proper := h.proper
  scanned := h.scanned
  ascending := by
    refine List.pairwise_append.mpr ⟨h.ascending, List.pairwise_singleton _ _, ?_⟩
    intro r' hr' r'' hr''
    rw [List.mem_singleton.mp hr'', hr.id]
    exact hnew r' hr'
  sources := by
    intro r' hr'
    rcases List.mem_append.mp hr' with hr' | hr'
    · exact h.sources r' hr'
    · rw [List.mem_singleton.mp hr']
      exact ⟨b, by rw [hr.id, hb], hr⟩

end Invariant

namespace Run

/-- The last of the scans is still going on: what is ahead in the file comes after what was found. -/
structure Going (begun : List Input) (blocks : List Block) (file : String) (ahead : List Found) : Prop where
  split : ∃ earlier input before scan, begun = earlier ++ [input] ∧ blocks = before ++ scan ∧
    Scanned earlier before ∧
    OneScan input scan ∧ input.file = file ∧ ∀ b ∈ scan, ∀ f ∈ ahead, b.lines.initial < f.initial
  proper : ∀ f ∈ ahead, f.Proper
  ordered : ahead.Pairwise (·.initial < ·.initial)

def Point.Ready (all : List Input) (p : Point) : Prop :=
  match p.task with
  | .opening inputs => p.begun ++ inputs = all
  | .scanning file ahead _ inputs => p.begun ++ inputs = all ∧ Going p.begun p.run.blocks file ahead
  | .judging block file ahead _ inputs =>
    p.begun ++ inputs = all ∧ Going p.begun p.run.blocks file ahead ∧ p.run.blocks[block.id]? = some block ∧
      ∀ r ∈ p.records, r.id < block.id
  | .failed _ => p.begun <+: all

structure Point.Sound (all : List Input) (p : Point) : Prop where
  invariant : Invariant p.begun p.run.blocks p.records
  ready : p.Ready all

@[simp] lemma blocks_parse [Text.Edition] (run : Run) (block : Block) :
    (run.parse block).1.blocks = run.blocks := by
  unfold parse
  cases block.record <;> rfl

lemma record_of_parse [Text.Edition] {run : Run} {block : Block} {r : Record}
    (h : (run.parse block).2 = some r) : r.Of block := by
  unfold parse at h
  cases hr : block.record with
  | error fault => simp [hr] at h
  | ok r' =>
    obtain rfl : r' = r := by simpa [hr] using h
    exact Block.record_of hr

lemma Going.scanned {begun : List Input} {blocks : List Block} {file : String} {ahead : List Found}
    (h : Going begun blocks file ahead) : Scanned begun blocks := by
  obtain ⟨earlier, input, before, scan, rfl, rfl, hb, hs, -, -⟩ := h.split
  exact hb.append hs

lemma Going.begin {begun : List Input} {blocks : List Block} (h : Scanned begun blocks) (input : Input)
    (d : Delimiters) (disk : Disk) : Going (begun ++ [input]) blocks input.file (founds disk d input).1 := by
  obtain ⟨hproper, hordered⟩ := founds_ordered disk d input
  refine ⟨⟨begun, input, blocks, [], rfl, by simp, h, ⟨by simp, .nil⟩, rfl, by simp⟩, hproper, hordered⟩

lemma Going.next {begun : List Input} {blocks : List Block} {file : String} {found : Found}
    {ahead : List Found}
    (h : Going begun blocks file (found :: ahead)) (id : Nat) :
    Going begun (blocks ++ [found.toBlock id file]) file ahead := by
  obtain ⟨earlier, input, before, scan, rfl, rfl, hb, hs, rfl, hlt⟩ := h.split
  obtain ⟨hfound, hordered⟩ := List.pairwise_cons.mp h.ordered
  refine ⟨⟨earlier, input, before, scan ++ [found.toBlock id input.file], rfl, by simp, hb, ⟨?_, ?_⟩,
    rfl, ?_⟩,
    fun f hf => h.proper f (by simp [hf]), hordered⟩
  · intro b hm
    rcases List.mem_append.mp hm with hm | hm
    · exact hs.file b hm
    · rw [List.mem_singleton.mp hm]
      rfl
  · refine List.pairwise_append.mpr ⟨hs.ordered, List.pairwise_singleton _ _, ?_⟩
    intro b hm b' hm'
    rw [List.mem_singleton.mp hm']
    exact hlt b hm found (by simp)
  · intro b hm f hf
    rcases List.mem_append.mp hm with hm | hm
    · exact hlt b hm f (by simp [hf])
    · rw [List.mem_singleton.mp hm]
      exact hfound f hf

lemma Point.Sound.start (run : Run) (h : run.blocks = []) (inputs : List Input) :
    (Point.start run inputs).Sound inputs := by
  refine ⟨?_, rfl⟩
  rw [Point.start, h]
  exact .nil

lemma Point.Sound.step [Text.Edition] {disk : Disk} {all : List Input} {p q : Point} (hp : p.Sound all)
    (h : Step disk p q) :
    q.Sound all := by
  obtain ⟨hinv, hready⟩ := hp
  cases h with
  | @opens run records begun input inputs =>
    refine ⟨hinv.begin input, ?_, Going.begin hinv.scanned input _ disk⟩
    simpa [Point.Ready] using hready
  | @finds run records begun file found ahead ending inputs =>
    obtain ⟨hall, hgoing⟩ := hready
    have hgoing' := hgoing.next run.nextId
    have hproper : (found.toBlock run.nextId file).Proper := (hgoing.proper found (by simp)).toBlock _ _
    refine ⟨hinv.block rfl hproper hgoing'.scanned, hall, hgoing', ?_, ?_⟩
    · exact List.getElem?_concat_length
    · intro r hr
      exact hinv.lt_length hr
  | passes hs => exact ⟨hinv, hready.1, hready.2.1⟩
  | @parses run records begun block file ahead ending inputs hs =>
    obtain ⟨hall, hgoing, hblock, hnew⟩ := hready
    cases hr : (run.parse block).2 with
    | none =>
      simp only [Option.toList_none, List.append_nil]
      exact ⟨by simpa using hinv, hall, by simpa using hgoing⟩
    | some r =>
      have hrec := hinv.record hblock (record_of_parse hr) hnew
      exact ⟨by simpa using hrec, hall, by simpa using hgoing⟩
  | ends => exact ⟨hinv, hready.1⟩
  | @fails run records begun file cause inputs => exact ⟨hinv, inputs, hready.1⟩

lemma Point.Sound.reaches [Text.Edition] {disk : Disk} {all : List Input} {p q : Point}
    (hp : p.Sound all) (h : Reaches disk p q) :
    q.Sound all := by
  induction h with
  | refl => exact hp
  | tail _ hs ih => exact ih.step hs

lemma Point.Sound.begun_prefix {all : List Input} {p : Point} (hp : p.Sound all) : p.begun <+: all := by
  obtain ⟨run, records, begun, task⟩ := p
  have hready := hp.ready
  cases task with
  | opening inputs => exact ⟨inputs, hready⟩
  | scanning file ahead ending inputs => exact ⟨inputs, hready.1⟩
  | judging block file ahead ending inputs => exact ⟨inputs, hready.1⟩
  | failed cause => exact hready

end Run

theorem invariant_at_every_point [Text.Edition] (filetype : String) (selection : Selection)
    (table : Table) (disk : Disk)
    (inputs : List Input) :
    (∀ p, Run.Reaches disk (.start (.start filetype selection table) inputs) p →
      p.begun <+: inputs ∧ Invariant p.begun p.run.blocks p.records) ∧
    (∃ begun, Run.Reaches disk (.start (.start filetype selection table) inputs)
      ⟨((Run.start filetype selection table).extract disk inputs).run,
        ((Run.start filetype selection table).extract disk inputs).records, begun,
        ((Run.start filetype selection table).extract disk inputs).task⟩) ∧
    ∀ n, ∃ begun task, Run.Reaches disk (.start (.start filetype selection table) inputs)
      ⟨((Stream.start inputs).draw disk n (.start filetype selection table)).1,
        ((Stream.start inputs).draw disk n (.start filetype selection table)).2, begun, task⟩ := by
  refine ⟨?_, ?_, ?_⟩
  · intro p hp
    have hsound := (Run.Point.Sound.start (.start filetype selection table) rfl inputs).reaches hp
    exact ⟨hsound.begun_prefix, hsound.invariant⟩
  · exact Run.reaches_extract disk (.start filetype selection table) [] [] inputs
  · intro n
    exact Stream.reaches_draw .opening n (.start filetype selection table) [] []

def oneFileDisk : Disk :=
  Disk.empty.addFile (Path.ofString "a.sh") (Text.Utf8.encode (Source.text ["##", "# text", "##"]))

theorem invariant_after_missing_file :
    ((Run.start "" .all .standard).extract oneFileDisk [.verbatim "a.sh", .verbatim "b.sh"]).failure ≠ none ∧
      ∃ begun, begun <+: [.verbatim "a.sh", .verbatim "b.sh"] ∧
        Invariant begun [⟨0, .generic, "none", "a.sh", ⟨1, 1⟩, ["text"]⟩]
          [⟨0, .generic, "none", "a.sh", ⟨1, 1⟩, .generic ["text"]⟩] := by
  have hb : ((Run.start "" .all .standard).extract oneFileDisk
      [.verbatim "a.sh", .verbatim "b.sh"]).run.blocks =
      [⟨0, .generic, "none", "a.sh", ⟨1, 1⟩, ["text"]⟩] := by decide +kernel
  have hr : ((Run.start "" .all .standard).extract oneFileDisk [.verbatim "a.sh", .verbatim "b.sh"]).records =
      [⟨0, .generic, "none", "a.sh", ⟨1, 1⟩, .generic ["text"]⟩] := by decide +kernel
  obtain ⟨hall, ⟨begun, hreach⟩, -⟩ :=
    invariant_at_every_point "" .all .standard oneFileDisk [.verbatim "a.sh", .verbatim "b.sh"]
  refine ⟨by decide +kernel, begun, ?_⟩
  have hinv := hall _ hreach
  simp only [hb, hr] at hinv
  exact hinv

end CommentDoc
