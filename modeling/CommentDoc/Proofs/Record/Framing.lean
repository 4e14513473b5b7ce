import CommentDoc.Proofs.Function.Newlines
import CommentDoc.Proofs.Record.RoundTrip

namespace CommentDoc

namespace Json

inductive OneLined : Json → Prop
  | null : OneLined .null
  | bool (b : Bool) : OneLined (.bool b)
  | int (n : Int) : OneLined (.int n)
  | text {s : String} : OneLine s → OneLined (.text s)
  | array {items : List Json} : (∀ v ∈ items, OneLined v) → OneLined (.array items)
  | object {fields : List (String × Json)} : (∀ f ∈ fields, OneLine f.1) → (∀ f ∈ fields, OneLined f.2) →
      OneLined (.object fields)

lemma newline_of_mem_escape {c : Char} (h : '\n' ∈ escape c) : c = '\n' := by
  by_cases hc : c ∈ Reader.escapedChars
  · have hall : Reader.escapedChars.all (fun c => '\n' ∉ escape c) = true := by decide
    have hn : '\n' ∉ escape c := by simpa using List.all_eq_true.mp hall c hc
    exact absurd h hn
  · rw [Reader.escape_of_notMem hc, List.mem_singleton] at h
    exact h.symm

lemma newline_notMem_renderText {s : String} (h : OneLine s) : '\n' ∉ renderText s := by
  intro hn
  rw [renderText, List.cons_append, List.mem_cons, List.mem_append, List.mem_singleton] at hn
  rcases hn with hn | hn | hn
  · exact absurd hn (by decide)
  · obtain ⟨c, hc, hn⟩ := List.mem_flatMap.mp hn
    rw [newline_of_mem_escape hn] at hc
    exact h hc
  · exact absurd hn (by decide)

lemma newline_notMem_renderInt (n : Int) : '\n' ∉ renderInt n := by
  have hdigits : '\n' ∉ Nat.toDigits 10 n.natAbs := by
    intro hn
    have hd := Nat.isDigit_of_mem_toDigits (b := 10) (by decide) (by decide) hn
    exact absurd hd (by decide)
  unfold renderInt
  split
  · simpa using hdigits
  · exact hdigits

lemma newline_notMem_renderItems {items : List Json} (h : ∀ v ∈ items, '\n' ∉ v.render) :
    '\n' ∉ renderItems items := by
  induction items with
  | nil => simp [renderItems]
  | cons v items ih =>
    obtain ⟨hv, hitems⟩ := List.forall_mem_cons.mp h
    cases items with
    | nil => exact hv
    | cons w items =>
      have hrest := ih hitems
      rw [renderItems, List.mem_append, List.mem_cons]
      rintro (hn | hn | hn)
      · exact hv hn
      · exact absurd hn (by decide)
      · exact hrest hn

lemma newline_notMem_field {name : String} {v : Json} (hname : OneLine name) (hv : '\n' ∉ v.render) :
    '\n' ∉ renderText name ++ ':' :: v.render := by
  rw [List.mem_append, List.mem_cons]
  rintro (hn | hn | hn)
  · exact newline_notMem_renderText hname hn
  · exact absurd hn (by decide)
  · exact hv hn

lemma newline_notMem_renderFields {fields : List (String × Json)}
    (h : ∀ f ∈ fields, OneLine f.1 ∧ '\n' ∉ f.2.render) : '\n' ∉ renderFields fields := by
  induction fields with
  | nil => simp [renderFields]
  | cons f fields ih =>
    obtain ⟨name, v⟩ := f
    obtain ⟨⟨hname, hv⟩, hfields⟩ := List.forall_mem_cons.mp h
    have hfield := newline_notMem_field hname hv
    cases fields with
    | nil => exact hfield
    | cons g fields =>
      have hrest := ih hfields
      rw [renderFields, List.mem_append, List.mem_cons]
      rintro (hn | hn | hn)
      · exact hfield hn
      · exact absurd hn (by decide)
      · exact hrest hn

lemma OneLined.newline_notMem_render {v : Json} (h : v.OneLined) : '\n' ∉ v.render := by
  induction h with
  | null => decide
  | bool b => cases b <;> decide
  | int n => exact newline_notMem_renderInt n
  | text hs => exact newline_notMem_renderText hs
  | array _ ih => simpa [render] using newline_notMem_renderItems ih
  | object hnames _ ih => simpa [render] using newline_notMem_renderFields fun f hf => ⟨hnames f hf, ih f hf⟩

lemma oneLined_of_texts {v : Json} (hw : v.Whole) (h : ∀ t ∈ v.texts, OneLine t) : v.OneLined := by
  induction hw with
  | null => exact .null
  | bool b => exact .bool b
  | int n => exact .int n
  | text s => exact .text (h s (by simp))
  | array _ ih =>
    rw [texts_array, List.forall_mem_flatMap] at h
    exact .array fun v hv => ih v hv (h v hv)
  | object _ ih =>
    rw [texts_object, List.forall_mem_flatMap] at h
    exact .object (fun f hf => (List.forall_mem_cons.mp (h f hf)).1)
      fun f hf => ih f hf (List.forall_mem_cons.mp (h f hf)).2

end Json

namespace Content

def texts : Content → List String
  | .function content => content.texts
  | .generic lines => lines

end Content

namespace Record

def texts (r : Record) : List String :=
  r.markup :: r.file :: r.content.texts

def ownTexts : List String :=
  ["id", "type", "function", "generic", "markup", "file", "lines", "initial", "total", "content", "name",
    "short-description", "members", "description", "heading", "paragraph"]

lemma forall_texts_toJson {P : String → Prop} (hown : ∀ t ∈ ownTexts, P t) (r : Record) :
    (∀ t ∈ r.toJson.texts, P t) ↔ ∀ t ∈ r.texts, P t := by
  have hlabel : P (Labelled.label r.kind) := by
    apply hown
    cases r.kind <;> decide +kernel
  simp only [ownTexts, List.forall_mem_cons] at hown
  cases hc : r.content with
  | generic lines =>
    simp only [toJson, texts, LineSpan.toJson, Content.toJson, Content.texts, hc, Json.texts_object,
      Json.texts_array,
      List.forall_mem_flatMap, List.forall_mem_cons]
    simp [hlabel, hown]
  | function c =>
    simp only [toJson, texts, LineSpan.toJson, Content.toJson, Content.texts, FunctionContent.toJson,
      FunctionContent.texts, Body.texts, Member.toJson, Member.texts, Paragraph.toJson, Paragraph.texts, hc,
      Json.texts_object, Json.texts_array, List.forall_mem_map, List.forall_mem_append,
        List.forall_mem_flatMap,
      List.forall_mem_cons]
    simp [hlabel, hown]

lemma oneLine_line {r : Record} (h : ∀ t ∈ r.texts, OneLine t) : OneLine r.line := by
  have hown : ∀ t ∈ ownTexts, OneLine t := by
    simp only [ownTexts, List.forall_mem_cons]
    decide
  have htree := Json.oneLined_of_texts r.whole_toJson ((forall_texts_toJson hown r).mpr h)
  rw [OneLine, line, Json.compact, String.toList_ofList]
  exact htree.newline_notMem_render

def read? [Text.Edition] [Scalars] (line : String) : Option Record :=
  match Value.decode? line with
  | some (v, []) =>
    match Model.validate .record v with
    | .ok (.record r) => some r
    | _ => none
  | _ => none

def readAll? [Text.Edition] [Scalars] (text : String) : Option (List Record) :=
  (Source.splitLines text.toList).mapM fun line => read? (String.ofList line)

lemma read?_line [Text.Edition] [Scalars] {r : Record} (h : r.Valid) : read? r.line = some r := by
  obtain ⟨v, hv, hr⟩ := validate_decoded h
  simp only [read?, hv, hr]

lemma toList_writeAll (rs : List Record) : (writeAll rs).toList = Source.text (rs.map line) := by
  simp [writeAll, Source.text, String.toList_join, List.flatMap_map]

lemma count_newline_writeAll {rs : List Record} (h : ∀ r ∈ rs, OneLine r.line) :
    (writeAll rs).toList.count '\n' = rs.length := by
  rw [toList_writeAll]
  induction rs with
  | nil => rfl
  | cons r rs ih =>
    obtain ⟨hr, hrs⟩ := List.forall_mem_cons.mp h
    have hline : r.line.toList.count '\n' = 0 := List.count_eq_zero.mpr hr
    have hrest := ih hrs
    simp only [Source.text] at hrest
    simp only [Source.text, List.map_cons, List.flatMap_cons, List.count_append, hline, hrest,
      List.length_cons]
    simp [Nat.add_comm]

lemma getLast?_writeAll {rs : List Record} (h : rs ≠ []) : (writeAll rs).toList.getLast? = some '\n' := by
  rw [toList_writeAll, ← List.dropLast_concat_getLast h]
  simp [Source.text]

lemma readAll?_writeAll [Text.Edition] [Scalars] {rs : List Record} (hline : ∀ r ∈ rs, OneLine r.line)
    (hvalid : ∀ r ∈ rs, r.Valid) :
    readAll? (writeAll rs) = some rs := by
  have hlines : ∀ s ∈ rs.map line, '\n' ∉ s.toList := by
    intro s hl
    obtain ⟨r, hr, rfl⟩ := List.mem_map.mp hl
    exact hline r hr
  rw [readAll?, toList_writeAll, Source.splitLines_text hlines]
  clear hline hlines
  induction rs with
  | nil => rfl
  | cons r rs ih =>
    obtain ⟨hr, hrs⟩ := List.forall_mem_cons.mp hvalid
    simp only [List.map_cons, List.mapM_cons, String.ofList_toList, read?_line hr, ih hrs]
    rfl

end Record

variable [Text.Edition]

namespace Block

lemma record_eq_ok {b : Block} {r : Record} (h : b.record = .ok r) :
    ∃ content, b.content = .ok content ∧ r = b.withContent content := by
  cases hc : b.content with
  | error fault => simp [record, hc, Except.map] at h
  | ok content =>
    refine ⟨content, rfl, ?_⟩
    simpa [record, hc, Except.map] using h.symm

lemma content_eq_ok {b : Block} {content : Content} (h : b.content = .ok content) :
    content = .generic b.captured ∨ ∃ c, FunctionContent.parse b.captured = .ok c ∧
    content = .function c := by
  cases hk : b.kind with
  | generic =>
    simp only [Block.content, hk, Except.ok.injEq] at h
    exact Or.inl h.symm
  | function =>
    cases hp : FunctionContent.parse b.captured with
    | error fault => simp [Block.content, hk, hp, Except.map] at h
    | ok c =>
      simp only [Block.content, hk, hp, Except.map, Except.ok.injEq] at h
      exact Or.inr ⟨c, rfl, h.symm⟩

lemma valid_record {b : Block} (hinitial : 1 ≤ b.lines.initial) {r : Record}
    (h : b.record = .ok r) : r.Valid := by
  obtain ⟨content, hcontent, rfl⟩ := record_eq_ok h
  refine ⟨hinitial, ?_⟩
  rintro c hc
  obtain rfl : content = .function c := hc
  rcases content_eq_ok hcontent with heq | ⟨c', hp, heq⟩
  · cases heq
  · cases heq
    exact FunctionContent.name_ne_of_parse hp

lemma oneLine_record {b : Block} (hmarkup : OneLine b.markup) (hfile : OneLine b.file)
    (hcaptured : ∀ text ∈ b.captured, OneLine text) {r : Record} (h : b.record = .ok r) :
    ∀ t ∈ r.texts, OneLine t := by
  obtain ⟨content, hcontent, rfl⟩ := record_eq_ok h
  refine List.forall_mem_cons.mpr ⟨hmarkup, List.forall_mem_cons.mpr ⟨hfile, ?_⟩⟩
  rcases content_eq_ok hcontent with rfl | ⟨c, hp, rfl⟩
  · exact hcaptured
  · exact FunctionContent.oneLine_of_parse hcaptured hp

end Block

end CommentDoc
