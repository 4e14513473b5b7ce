import CommentDoc.Proofs.Validation.Laws
import CommentDoc.Validation.Scalar
import CommentDoc.Text.Unicode

namespace CommentDoc

lemma LineSpan.check_toJson [Scalars] {l : LineSpan} (h : 0 < l.initial) :
    LineSpan.check (.ofJson l.toJson) = .ok l := by
  rw [LineSpan.toJson, Value.ofJson_object (by simp)]
  simp [LineSpan.check, Checked.model, Checked.required, Value.field?, Checked.positive_natCast h]

lemma Member.check_toJson [Scalars] (m : Member) : Member.check (.ofJson m.toJson) = .ok m := by
  rw [Member.toJson, Value.ofJson_object (by simp)]
  simp [Member.check, Checked.model, Checked.required, Value.field?]

lemma Paragraph.check_toJson [Scalars] (p : Paragraph) : Paragraph.check (.ofJson p.toJson) = .ok p := by
  rw [Paragraph.toJson, Value.ofJson_object (by simp)]
  simp [Paragraph.check, Checked.model, Checked.required, Checked.withDefault, Value.field?]

lemma FunctionContent.check_toJson [Scalars] {c : FunctionContent} (h : c.name ≠ "") :
    FunctionContent.check (.ofJson c.toJson) = .ok c := by
  have hmembers : Checked.list Member.check (.ofJson (.array (c.members.map Member.toJson))) =
      .ok c.members :=
    Checked.list_array fun m _ => m.check_toJson
  have hdescription : Checked.list Paragraph.check (.ofJson (.array (c.description.map Paragraph.toJson))) =
      .ok c.description :=
    Checked.list_array fun p _ => p.check_toJson
  rw [FunctionContent.toJson, Value.ofJson_object (by simp)]
  simp [FunctionContent.check, FunctionContent.shortDescriptionKey, Checked.model, Checked.required,
    Checked.withDefault, Value.field?, Checked.nonemptyString_text h, hmembers, hdescription]

lemma Content.check_generic [Scalars] (lines : List String) :
    Content.check (.ofJson (Content.generic lines).toJson) = .ok (.generic lines) := by
  have hlines : Checked.list Scalars.string (.ofJson (.array (lines.map .text))) = .ok lines :=
    Checked.list_array fun s _ => by simp
  have hfunction : FunctionContent.check (.ofJson (.array (lines.map .text))) = Checked.fail .modelType := by
    rw [Value.ofJson]
    rfl
  rw [Content.toJson, Content.check, hfunction, hlines]
  rfl

lemma Content.check_function [Scalars] {c : FunctionContent} (h : c.name ≠ "") :
    Content.check (.ofJson (Content.function c).toJson) = .ok (.function c) := by
  rw [Content.toJson, Content.check, FunctionContent.check_toJson h]

lemma LineSpan.initial_pos_of_check [Scalars] {v : Value} {l : LineSpan}
    (h : LineSpan.check v = .ok l) : 0 < l.initial := by
  obtain ⟨entries, h₀⟩ := Checked.model_eq_ok h
  obtain ⟨_, total, h₁, -, rfl⟩ := Checked.and_eq_ok h₀
  obtain ⟨_, initial, h₂, hinitial, rfl⟩ := Checked.and_eq_ok h₁
  cases h₂
  obtain ⟨w, hw⟩ := Checked.required_eq_ok hinitial
  exact Checked.pos_of_positive hw

lemma FunctionContent.name_ne_of_check [Scalars] {v : Value} {c : FunctionContent}
    (h : FunctionContent.check v = .ok c) :
    c.name ≠ "" := by
  obtain ⟨entries, h₀⟩ := Checked.model_eq_ok h
  obtain ⟨_, description, h₁, -, hc⟩ := Checked.and_eq_ok h₀
  obtain ⟨_, members, h₂, -, rfl⟩ := Checked.and_eq_ok h₁
  obtain ⟨_, short, h₃, -, rfl⟩ := Checked.and_eq_ok h₂
  obtain ⟨_, name, h₄, hname, rfl⟩ := Checked.and_eq_ok h₃
  cases h₄
  subst hc
  obtain ⟨w, hw⟩ := Checked.required_eq_ok hname
  exact Checked.ne_of_nonemptyString hw

lemma Content.name_ne_of_check [Scalars] {v : Value} {c : FunctionContent}
    (h : Content.check v = .ok (.function c)) :
    c.name ≠ "" := by
  unfold Content.check at h
  cases hf : FunctionContent.check v with
  | ok c' =>
    rw [hf] at h
    cases h
    exact FunctionContent.name_ne_of_check hf
  | error es =>
    rw [hf] at h
    cases hl : Checked.list Scalars.string v with
    | ok lines =>
      rw [hl] at h
      cases h
    | error fs =>
      rw [hl] at h
      cases h

lemma LineSpan.whole_toJson (l : LineSpan) : l.toJson.Whole := by
  refine .object ?_
  simp only [List.forall_mem_cons]
  exact ⟨.int _, .int _, by simp⟩

lemma Member.whole_toJson (m : Member) : m.toJson.Whole := by
  refine .object ?_
  simp only [List.forall_mem_cons]
  exact ⟨.text _, .text _, by simp⟩

lemma Paragraph.whole_toJson (p : Paragraph) : p.toJson.Whole := by
  refine .object ?_
  simp only [List.forall_mem_cons]
  exact ⟨.text _, .text _, by simp⟩

lemma Json.whole_array_map {α : Type} {toJson : α → Json} (h : ∀ a, (toJson a).Whole) (as : List α) :
    (Json.array (as.map toJson)).Whole := by
  refine .array ?_
  intro v hv
  obtain ⟨a, -, rfl⟩ := List.mem_map.mp hv
  exact h a

lemma Content.whole_toJson (c : Content) : c.toJson.Whole := by
  cases c with
  | generic lines => exact Json.whole_array_map .text lines
  | function c =>
    refine .object ?_
    simp only [List.forall_mem_cons]
    exact ⟨.text _, .text _, Json.whole_array_map Member.whole_toJson _,
      Json.whole_array_map Paragraph.whole_toJson _,
      by simp⟩

lemma LineSpan.integers_ofJson (l : LineSpan) :
    (Value.ofJson l.toJson).integers = [(l.initial : Int), l.total] := by
  rw [LineSpan.toJson, Value.integers_object (by simp)]
  simp

lemma Member.integers_ofJson (m : Member) : (Value.ofJson m.toJson).integers = [] := by
  rw [Member.toJson, Value.integers_object (by simp)]
  simp

lemma Paragraph.integers_ofJson (p : Paragraph) : (Value.ofJson p.toJson).integers = [] := by
  rw [Paragraph.toJson, Value.integers_object (by simp)]
  simp

lemma Content.integers_ofJson (c : Content) : (Value.ofJson c.toJson).integers = [] := by
  cases c with
  | generic lines => simp [Content.toJson]
  | function c =>
    rw [Content.toJson, FunctionContent.toJson, Value.integers_object (by simp)]
    simp [Member.integers_ofJson, Paragraph.integers_ofJson]

lemma LineSpan.kept_toJson (l : LineSpan) : l.toJson.Kept := by
  apply Json.kept_object (by simp)
  simp [Json.kept_int]

lemma Member.kept_toJson (m : Member) : m.toJson.Kept := by
  apply Json.kept_object (by simp)
  simp [Json.kept_text]

lemma Paragraph.kept_toJson (p : Paragraph) : p.toJson.Kept := by
  apply Json.kept_object (by simp)
  simp [Json.kept_text]

lemma Content.kept_toJson (c : Content) : c.toJson.Kept := by
  cases c with
  | generic lines => exact Json.kept_array_map Json.kept_text lines
  | function c =>
    apply Json.kept_object (by simp)
    simp [Json.kept_text, Json.kept_array_map Member.kept_toJson, Json.kept_array_map Paragraph.kept_toJson]

lemma LineSpan.toJson_injective : Function.Injective LineSpan.toJson := by
  rintro ⟨initial, total⟩ ⟨initial', total'⟩ h
  simpa [LineSpan.toJson, Int.natCast_inj] using h

lemma Member.toJson_injective : Function.Injective Member.toJson := by
  rintro ⟨name, description⟩ ⟨name', description'⟩ h
  simpa [Member.toJson] using h

lemma Paragraph.toJson_injective : Function.Injective Paragraph.toJson := by
  rintro ⟨heading, paragraph⟩ ⟨heading', paragraph'⟩ h
  simpa [Paragraph.toJson] using h

lemma Content.toJson_injective : Function.Injective Content.toJson := by
  intro c c' h
  cases c with
  | generic lines =>
    cases c' with
    | generic lines' =>
      have hlines := (List.map_inj_right fun _ _ => Json.text.inj).mp (Json.array.inj h)
      rw [hlines]
    | function c' => cases h
  | function c =>
    cases c' with
    | generic lines' => cases h
    | function c' =>
      obtain ⟨name, short, members, description⟩ := c
      obtain ⟨name', short', members', description'⟩ := c'
      simp only [Content.toJson, FunctionContent.toJson, Json.object.injEq, List.cons.injEq, Prod.mk.injEq,
        Json.text.injEq, Json.array.injEq, true_and, and_true] at h
      obtain ⟨rfl, rfl, hmembers, hdescription⟩ := h
      rw [(List.map_inj_right Member.toJson_injective).mp hmembers,
        (List.map_inj_right Paragraph.toJson_injective).mp hdescription]

namespace Record

structure Valid (r : Record) : Prop where
  initial : 0 < r.lines.initial
  name : ∀ c, r.content = .function c → c.name ≠ ""

lemma Valid.check_content [Scalars] {r : Record} (h : r.Valid) :
    Content.check (.ofJson r.content.toJson) = .ok r.content := by
  cases hc : r.content with
  | generic lines => exact Content.check_generic lines
  | function c => exact Content.check_function (h.name c hc)

lemma check_toJson [Scalars] {r : Record} (h : r.Valid) : Record.check (.ofJson r.toJson) = .ok r := by
  rw [Record.toJson, Value.ofJson_object (by simp)]
  simp [Record.check, Checked.model, Checked.required, Value.field?, LineSpan.check_toJson h.initial,
    h.check_content]

lemma valid_of_check [Scalars] {v : Value} {r : Record} (h : Record.check v = .ok r) : r.Valid := by
  obtain ⟨entries, h₀⟩ := Checked.model_eq_ok h
  obtain ⟨_, content, h₁, hcontent, hr⟩ := Checked.and_eq_ok h₀
  obtain ⟨_, lines, h₂, hlines, rfl⟩ := Checked.and_eq_ok h₁
  obtain ⟨_, file, h₃, -, rfl⟩ := Checked.and_eq_ok h₂
  obtain ⟨_, markup, h₄, -, rfl⟩ := Checked.and_eq_ok h₃
  obtain ⟨_, kind, h₅, -, rfl⟩ := Checked.and_eq_ok h₄
  obtain ⟨_, id, h₆, -, rfl⟩ := Checked.and_eq_ok h₅
  cases h₆
  subst hr
  obtain ⟨w, hw⟩ := Checked.required_eq_ok hcontent
  obtain ⟨u, hu⟩ := Checked.required_eq_ok hlines
  refine ⟨LineSpan.initial_pos_of_check hu, ?_⟩
  rintro c rfl
  exact Content.name_ne_of_check hw

lemma whole_toJson (r : Record) : r.toJson.Whole := by
  refine .object ?_
  simp only [List.forall_mem_cons]
  exact ⟨.int _, .text _, .text _, .text _, r.lines.whole_toJson, r.content.whole_toJson, by simp⟩

lemma toJson_injective {r r' : Record} (h : r.toJson = r'.toJson) : r = r' := by
  obtain ⟨id, kind, markup, file, lines, content⟩ := r
  obtain ⟨id', kind', markup', file', lines', content'⟩ := r'
  simp only [toJson, Json.object.injEq, List.cons.injEq, Prod.mk.injEq, Json.int.injEq, Json.text.injEq,
    true_and,
    and_true, Int.natCast_inj] at h
  obtain ⟨rfl, hkind, rfl, rfl, hlines, hcontent⟩ := h
  obtain rfl := LineSpan.toJson_injective hlines
  obtain rfl := Content.toJson_injective hcontent
  have hk : kind = kind' := by
    revert hkind
    cases kind <;> cases kind' <;> decide +kernel
  rw [hk]

lemma kept_toJson (r : Record) : r.toJson.Kept := by
  apply Json.kept_object (by simp)
  simp [Json.kept_int, Json.kept_text, r.lines.kept_toJson, r.content.kept_toJson]

def integers (r : Record) : List Int :=
  [r.id, r.lines.initial, r.lines.total]

def Fits (limit : Option DigitLimit) (r : Record) : Prop :=
  ∀ n ∈ r.integers, DigitLimit.Allows limit n

lemma integers_ofJson (r : Record) : (Value.ofJson r.toJson).integers = r.integers := by
  rw [toJson, Value.integers_object (by simp)]
  simp [integers, r.lines.integers_ofJson, r.content.integers_ofJson]

lemma printed_serialize (limit : Option DigitLimit) (r : Record) :
    Value.Printed limit r.integers r.line (r.serialize limit) := by
  rw [← r.integers_ofJson]
  exact (r.kept_toJson limit).map Json.compact

lemma line_of_serialize {limit : Option DigitLimit} {r : Record} {s : String}
    (h : r.serialize limit = .ok s) :
    s = r.line := by
  by_cases hfits : r.Fits limit
  · rw [(r.printed_serialize limit).fits hfits] at h
    exact (Except.ok.inj h).symm
  · obtain ⟨n, hn, hn'⟩ : ∃ n ∈ r.integers, ¬ DigitLimit.Allows limit n := by simpa [Fits] using hfits
    obtain ⟨l, -, he⟩ := (r.printed_serialize limit).exceeds n hn hn'
    rw [he] at h
    cases h

lemma line_injective {r r' : Record} (h : r.line = r'.line) : r = r' := by
  exact toJson_injective (Json.compact_injective r.whole_toJson r'.whole_toJson h)

lemma validate_decoded [Scalars] [Text.Edition] {r : Record} (h : r.Valid) :
    ∃ v, Value.decode? r.line = some (v, []) ∧ Model.validate .record v = .ok (.record r) := by
  refine ⟨.ofJson r.toJson, ?_, ?_⟩
  · simp only [Value.decode?, Record.line, Json.decode?_compact r.whole_toJson, Option.map_some]
  · simp only [Model.validate, Checked.validate, Model.check, check_toJson h]
    rfl

lemma valid_of_validate [Scalars] [Text.Edition] {v : Value} {r : Record}
    (h : Model.validate .record v = .ok (.record r)) : r.Valid := by
  cases hr : Record.check v with
  | error es =>
    simp only [Model.validate, Checked.validate, Model.check, hr] at h
    cases h
  | ok r' =>
    simp only [Model.validate, Checked.validate, Model.check, hr] at h
    cases h
    exact valid_of_check hr

end Record

def oddRecord : Record where
  id := 7
  kind := .function
  markup := "\"\\"
  file := "a\nb\x00.sh"
  lines := ⟨1, 0⟩
  content := .function ⟨"f", "\x01\t", [⟨"@return", ""⟩], [⟨"", "\u2028"⟩]⟩

end CommentDoc
