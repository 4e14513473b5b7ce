import CommentDoc.Proofs.Text.Trimming
import CommentDoc.Run.Scanner
import Mathlib.Data.List.Nodup

namespace CommentDoc

namespace Text

variable {s t : List Char}

lemma lowerChar_of_isBlank {c : Char} (h : isBlank c = true) : lowerChar c = [c] := by
  have hkelvin : c ≠ '\u212A' := by rintro rfl; exact absurd h (by decide)
  have hlength : c ≠ '\u212B' := by rintro rfl; exact absurd h (by decide)
  have hdotted : c ≠ '\u0130' := by rintro rfl; exact absurd h (by decide)
  simp only [isBlank, Bool.or_eq_true, Bool.and_eq_true, decide_eq_true_eq, beq_iff_eq] at h
  have hlatin : isLatinCapital c = false := by
    simp only [isLatinCapital, Bool.and_eq_false_iff, decide_eq_false_iff_not]
    omega
  have hcapital : ¬ (c.val ≥ 'A'.val ∧ c.val ≤ 'Z'.val) := by
    rintro ⟨hA, hZ⟩
    have hA' : 65 ≤ c.toNat := hA
    have hZ' : c.toNat ≤ 90 := hZ
    omega
  have hlower : c.toLower = c := dif_neg hcapital
  simp [lowerChar, hkelvin, hlength, hdotted, hlatin, hlower]

lemma pieces_eq_splitOnP {α : Type} (sep : α → Bool) (as : List α) : pieces sep as = as.splitOnP sep := by
  induction as with
  | nil => rfl
  | cons a as ih =>
    rw [pieces, List.splitOnP_cons_eq_if_modifyHead, ih]
    cases h : as.splitOnP sep with
    | nil => exact absurd h (List.splitOnP_ne_nil _ _)
    | cons p ps => rfl

lemma trim_of_not_blank (h : ∀ c ∈ s, isBlank c = false) : trim s = s :=
  trim_of_ends (fun c hc => h c (List.mem_of_head? hc)) fun c hc => h c (List.mem_of_getLast? hc)

lemma trim_of_lower (h : ∀ c ∈ lower s, isBlank c = false) : trim s = s := by
  apply trim_of_not_blank
  intro c hc
  by_contra hblank
  have hmem : c ∈ lower s :=
    List.mem_flatMap.mpr ⟨c, hc, by simp [lowerChar_of_isBlank (by simpa using hblank)]⟩
  exact hblank (h c hmem)

end Text

namespace Labelled

variable {α : Type} [Labelled α] {s : String} {m m' : α}

def nameChars : List Char :=
  "ABCDEFGHIJKLMNOPQRSTUVWXYZ_".toList

structure Lawful (α : Type) [Labelled α] : Prop where
  complete : ∀ m : α, m ∈ (members : List α)
  name : ∀ m ∈ (members : List α), (name m).toList ⊆ nameChars
  distinct : ((members : List α).map fun m => parts (Labelled.name m).toList).Nodup

lemma lower_nameChars :
    ∀ c ∈ nameChars, (∀ d ∈ Text.lowerChar c, Text.isBlank d = false) ∧
    Text.lowerChar c.toLower = Text.lowerChar c := by
  have hall : nameChars.all fun c =>
      (Text.lowerChar c).all (!Text.isBlank ·) &&
        decide (Text.lowerChar c.toLower = Text.lowerChar c) := by decide
  simpa using hall

lemma Lawful.lower_not_blank (h : Lawful α) (m : α) :
    ∀ c ∈ Text.lower (Labelled.name m).toList, Text.isBlank c = false := by
  intro c hc
  obtain ⟨d, hd, hc⟩ := List.mem_flatMap.mp hc
  exact (lower_nameChars d (h.name m (h.complete m) hd)).1 c hc

lemma Lawful.lower_label (h : Lawful α) (m : α) :
    Text.lower (label m).toList = Text.lower (Labelled.name m).toList := by
  have hchars : ∀ c ∈ (Labelled.name m).toList, Text.lowerChar c.toLower = Text.lowerChar c :=
    fun c hc => (lower_nameChars c (h.name m (h.complete m) hc)).2
  rw [label, String.toList_ofList, Text.lower, Text.lower, List.flatMap_map, List.flatMap_def,
    List.map_congr_left hchars,
    ← List.flatMap_def]

lemma Lawful.eq_of_parts (h : Lawful α)
    (hparts : parts (Labelled.name m).toList = parts (Labelled.name m').toList) : m = m' :=
  List.inj_on_of_nodup_map h.distinct (h.complete m) (h.complete m') hparts

lemma Lawful.parts_eq_of_lower (h : Lawful α)
    (hs : Text.lower (Labelled.name m).toList = Text.lower s.toList) :
    parts s.toList = parts (Labelled.name m).toList := by
  have hname := h.lower_not_blank m
  have htext : ∀ c ∈ Text.lower s.toList, Text.isBlank c = false := hs ▸ hname
  rw [parts, parts, Text.trim_of_lower hname, Text.trim_of_lower htext, hs]

lemma Lawful.parts_eq_of_label (h : Lawful α) (hs : label m = s) :
    parts s.toList = parts (Labelled.name m).toList :=
  h.parts_eq_of_lower (by rw [← hs, h.lower_label])

lemma Lawful.ofText?_eq_some_iff (h : Lawful α) :
    ofText? s = some m ↔ parts s.toList = parts (Labelled.name m).toList := by
  have hsound : ∀ {m : α}, ofText? s = some m → parts s.toList = parts (Labelled.name m).toList := by
    intro m hm
    unfold ofText? at hm
    simp only at hm
    split at hm
    next found hfound =>
      obtain rfl := Option.some.inj hm
      exact h.parts_eq_of_lower (by simpa using List.find?_some hfound)
    next =>
      have hparts := List.find?_some hm
      exact (by simpa using hparts : _ = _).symm
  refine ⟨hsound, fun hparts => ?_⟩
  cases hm : (ofText? s : Option α) with
  | some m' => rw [h.eq_of_parts ((hsound hm).symm.trans hparts)]
  | none =>
    unfold ofText? at hm
    simp only at hm
    split at hm
    · cases hm
    · exact absurd hparts.symm (by simpa using List.find?_eq_none.mp hm m (h.complete m))

lemma ofText_eq_ok_iff : ofText s = .ok m ↔ ofText? s = some m := by
  unfold ofText
  cases (ofText? s : Option α) <;> simp

lemma ofText_eq_unknown (h : (ofText? s : Option α) = none) :
    (ofText s : Except LabelError α) = .error (.unknown (title α) s) := by
  rw [ofText, h]

lemma Lawful.ofLabel_eq [Text.Edition] (h : Lawful α) (s : String) :
    (ofLabel s : Except LabelError α) = (ofText s).mapError fun _ => .invalid (title α) (quoted s) := by
  unfold ofLabel ofText
  cases hfound : (members : List α).find? fun m => label m = s with
  | some m =>
    have htext : ofText? s = some m :=
      h.ofText?_eq_some_iff.mpr (h.parts_eq_of_label (by simpa using List.find?_some hfound))
    simp [htext, Except.mapError]
  | none => cases (ofText? s : Option α) <;> rfl

def words (s : List Char) : List (List Char) :=
  ((Text.lower (Text.trim s)).splitOnP fun c => c = '-' || c = '_' || c = ' ').filter (!·.isEmpty)

lemma parts_eq_words (s : List Char) : parts s = words s := by
  rw [parts, words, Text.pieces_eq_splitOnP]
  congr 2

/-- A text names at most one member, the one whose name has its words, however it is looked up: by
the name or the label in other letters, as a text, or as a label. -/
structure OneMeaning [Text.Edition] (α : Type) [Labelled α] (s : String) : Prop where
  unique : ∀ m m' : α, words s.toList = words (name m).toList →
    words s.toList = words (name m').toList → m = m'
  letters : ∀ m : α, Text.lower (name m).toList = Text.lower s.toList ∨
    Text.lower (label m).toList = Text.lower s.toList →
    words s.toList = words (name m).toList
  text : ∀ m : α, ofText s = .ok m ↔ words s.toList = words (name m).toList
  unknown : (∀ m : α, words s.toList ≠ words (name m).toList) →
    (ofText s : Except LabelError α) = .error (.unknown (title α) s)
  label : ∀ m : α, ofLabel s = .ok m ↔ ofText s = .ok m
  invalid : (ofLabel s : Except LabelError α) = .error (.invalid (title α) (quoted s)) ↔
    (ofText s : Except LabelError α) = .error (.unknown (title α) s)

lemma Lawful.oneMeaning [Text.Edition] (h : Lawful α) (s : String) : OneMeaning α s where
  unique m m' hm hm' := by
    rw [← parts_eq_words, ← parts_eq_words] at hm hm'
    exact h.eq_of_parts (hm.symm.trans hm')
  letters m hm := by
    rw [h.lower_label, or_self] at hm
    rw [← parts_eq_words, ← parts_eq_words, h.parts_eq_of_lower hm]
  text m := by
    rw [← parts_eq_words, ← parts_eq_words, ← h.ofText?_eq_some_iff]
    exact ofText_eq_ok_iff
  unknown hnone := by
    apply ofText_eq_unknown
    cases hm : (ofText? s : Option α) with
    | none => rfl
    | some m =>
      have hparts := h.ofText?_eq_some_iff.mp hm
      rw [parts_eq_words, parts_eq_words] at hparts
      exact absurd hparts (hnone m)
  label m := by
    rw [h.ofLabel_eq]
    cases (ofText s : Except LabelError α) <;> simp [Except.mapError]
  invalid := by
    rw [h.ofLabel_eq, ofText]
    cases (ofText? s : Option α) <;> simp [Except.mapError]

lemma lawful_blockKind : Lawful BlockKind := ⟨by rintro ⟨⟩ <;> decide, by decide, by decide⟩

lemma lawful_family : Lawful Family := ⟨by rintro ⟨⟩ <;> decide, by decide, by decide⟩

lemma lawful_selection : Lawful Selection := ⟨by rintro ⟨⟩ <;> decide, by decide, by decide⟩

lemma lawful_severity : Lawful Severity := ⟨by rintro ⟨⟩ <;> decide, by decide, by decide⟩

lemma lawful_scanState : Lawful ScanState := ⟨by rintro ⟨⟩ <;> decide, by decide, by decide⟩

lemma lawful_scanStatus : Lawful ScanStatus := ⟨by rintro ⟨⟩ <;> decide, by decide, by decide⟩

theorem texts_have_one_meaning [Text.Edition] (s : String) :
    OneMeaning BlockKind s ∧ OneMeaning Family s ∧ OneMeaning Selection s ∧ OneMeaning Severity s ∧
    OneMeaning ScanState s ∧
      OneMeaning ScanStatus s :=
  ⟨lawful_blockKind.oneMeaning s, lawful_family.oneMeaning s, lawful_selection.oneMeaning s,
    lawful_severity.oneMeaning s,
    lawful_scanState.oneMeaning s, lawful_scanStatus.oneMeaning s⟩

example : (ofText " c-li\u212Ae\n" : Except LabelError Family) = .ok .cLike := by decide +kernel

end Labelled

end CommentDoc
