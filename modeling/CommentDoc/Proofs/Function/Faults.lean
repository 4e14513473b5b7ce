import CommentDoc.Block.Record
import Mathlib.Data.List.TakeWhile
import Mathlib.Tactic.Lemma

namespace CommentDoc

def IsBlank (text : String) : Prop :=
  ∀ c ∈ text.toList, Text.isBlank c = true

instance (text : String) : Decidable (IsBlank text) :=
  decidable_of_iff (text.toList.all Text.isBlank = true) List.all_eq_true

structure FirstText (texts : List String) (k : Nat) (text : String) : Prop where
  here : texts[k]? = some text
  notBlank : ¬ IsBlank text
  before : ∀ t ∈ texts.take k, IsBlank t

lemma FirstText.lt_length {texts : List String} {k : Nat} {text : String} (h : FirstText texts k text) :
    k < texts.length :=
  (List.getElem?_eq_some_iff.mp h.here).1

lemma isBlankLine_iff {text : String} : FunctionContent.isBlankLine text.toList = true ↔ IsBlank text :=
  List.all_eq_true

namespace FunctionContent

lemma blank_of_parse [Text.Edition] {captured : List String} (h : parse captured = .error .blank) :
    ∀ text ∈ captured, IsBlank text := by
  cases hd : (captured.map String.toList).dropWhile isBlankLine with
  | nil =>
    intro text ht
    have hall := List.dropWhile_eq_nil_iff.mp hd text.toList (List.mem_map_of_mem ht)
    exact isBlankLine_iff.mp hall
  | cons header body =>
    simp only [parse, hd] at h
    cases ho : ofHeader (Text.trim header) body <;> simp [ho, Except.mapError] at h

lemma name_of_ofHeader [Text.Edition] {header : List Char} {body : List (List Char)} {fault : Header.Fault}
    (h : ofHeader header body = .error fault) : Header.name header = .error fault := by
  unfold ofHeader at h
  cases hn : Header.name header with
  | ok name => simp [hn, bind, Except.bind, pure, Except.pure] at h
  | error fault' => simpa [hn, bind, Except.bind] using h

lemma firstText_of_dropWhile {captured : List String} {header : List Char} {body : List (List Char)}
    (hd : (captured.map String.toList).dropWhile isBlankLine = header :: body) :
    ∃ text, text.toList = header ∧
      FirstText captured ((captured.map String.toList).takeWhile isBlankLine).length text := by
  have hsplit := List.takeWhile_append_dropWhile (p := isBlankLine) (l := captured.map String.toList)
  rw [hd] at hsplit
  generalize hb : (captured.map String.toList).takeWhile isBlankLine = blanks at hsplit ⊢
  have hhere := congrArg (·[blanks.length]?) hsplit
  simp only [List.getElem?_append_right (Nat.le_refl _), Nat.sub_self, List.getElem?_cons_zero,
    List.getElem?_map] at hhere
  obtain ⟨text, htext, rfl⟩ := Option.map_eq_some_iff.mp hhere.symm
  refine ⟨text, rfl, htext, ?_, ?_⟩
  · intro hblank
    have hhead := List.head?_dropWhile_not isBlankLine (captured.map String.toList)
    rw [hd] at hhead
    simp [isBlankLine_iff.mpr hblank] at hhead
  · intro t ht
    have htake := congrArg (List.take blanks.length) hsplit
    rw [List.take_left, ← List.map_take] at htake
    have hmem : t.toList ∈ (captured.map String.toList).takeWhile isBlankLine := by
      rw [hb, htake]
      exact List.mem_map_of_mem ht
    exact isBlankLine_iff.mp (List.mem_takeWhile_imp hmem)

lemma firstText_of_parse [Text.Edition] {captured : List String} {fault : Header.Fault} {k : Nat}
    (h : parse captured = .error (.header fault k)) :
    ∃ text, FirstText captured k text ∧ Header.name (Text.trim text.toList) = .error fault := by
  cases hd : (captured.map String.toList).dropWhile isBlankLine with
  | nil => simp [parse, hd] at h
  | cons header body =>
    obtain ⟨text, rfl, hfirst⟩ := firstText_of_dropWhile hd
    simp only [parse, hd] at h
    cases ho : ofHeader (Text.trim text.toList) body with
    | ok content => simp [ho, Except.mapError] at h
    | error fault' =>
      simp only [ho, Except.mapError, Except.error.injEq, ContentFault.header.injEq] at h
      obtain ⟨rfl, rfl⟩ := h
      exact ⟨text, hfirst, name_of_ofHeader ho⟩

end FunctionContent

lemma Block.parse_of_content [Text.Edition] {b : Block} {fault : ContentFault}
    (h : b.content = .error fault) :
    b.kind = .function ∧ FunctionContent.parse b.captured = .error fault := by
  cases hk : b.kind with
  | generic => simp [content, hk] at h
  | function =>
    refine ⟨rfl, ?_⟩
    cases hp : FunctionContent.parse b.captured with
    | ok content => simp [Block.content, hk, hp, Except.map] at h
    | error fault' => simpa [content, hk, hp, Except.map] using h

end CommentDoc
