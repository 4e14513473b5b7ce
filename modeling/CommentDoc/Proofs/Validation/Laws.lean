import CommentDoc.Proofs.Value.Reading
import CommentDoc.Validation.Model

namespace CommentDoc

namespace Checked

variable {α β : Type}

@[simp] lemma and_ok (f : α → β) (a : α) : Checked.and (.ok f) (.ok a) = .ok (f a) := rfl

@[simp] lemma under_ok (step : Step) (a : α) : under step (.ok a : Checked α) = .ok a := rfl

lemma and_eq_ok {f : Checked (α → β)} {c : Checked α} {b : β} (h : Checked.and f c = .ok b) :
    ∃ g a, f = .ok g ∧ c = .ok a ∧ g a = b := by
  cases f with
  | error es => cases c <;> cases h
  | ok g =>
    cases c with
    | error es => cases h
    | ok a => exact ⟨g, a, rfl, rfl, Except.ok.inj h⟩

lemma bind_eq_ok {c : Checked α} {f : α → Checked β} {b : β} (h : (c >>= f) = .ok b) :
    ∃ a, c = .ok a ∧ f a = .ok b := by
  cases c with
  | error es => cases h
  | ok a => exact ⟨a, rfl, h⟩

lemma required_eq_ok {entries : Entries} {name : String} {check : Value → Checked α} {a : α}
    (h : required entries name check = .ok a) : ∃ v, check v = .ok a := by
  unfold required at h
  cases hv : Value.field? name entries with
  | none =>
    rw [hv] at h
    cases h
  | some v =>
    rw [hv] at h
    refine ⟨v, ?_⟩
    cases hc : check v with
    | error es =>
      simp only [hc] at h
      cases h
    | ok b =>
      simp only [hc] at h
      exact h

lemma model_eq_ok {check : Entries → Checked α} {v : Value} {a : α} (h : model check v = .ok a) :
    ∃ entries, check entries = .ok a := by
  cases v with
  | map entries => exact ⟨entries, h⟩
  | _ => cases h

lemma items_map {check : Value → Checked α} {toValue : α → Value} {as : List α}
    (h : ∀ a ∈ as, check (toValue a) = .ok a) (n : Nat) : items check n (as.map toValue) = .ok as := by
  induction as generalizing n with
  | nil => rfl
  | cons a as ih =>
    have ha := h a (by simp)
    rw [List.map_cons, items, ha, ih fun b hb => h b (by simp [hb])]
    rfl

lemma list_array {check : Value → Checked α} {toJson : α → Json} {as : List α}
    (h : ∀ a ∈ as, check (.ofJson (toJson a)) = .ok a) :
    list check (.ofJson (.array (as.map toJson))) = .ok as := by
  rw [Value.ofJson, Value.ofJsonItems_eq_map, List.map_map, list]
  exact items_map h 0

section Scalars

open Scalars (string int label)

variable [Scalars]

attribute [simp] Scalars.string_text

lemma nonemptyString_text {s : String} (h : s ≠ "") : nonemptyString (.text s) = .ok s := by
  simp only [nonemptyString, Scalars.string_text, bind, Except.bind, if_neg h]
  rfl

@[simp] lemma nonNegative_natCast (n : Nat) : nonNegative (.int n) = .ok n := by
  simp only [nonNegative, Scalars.int_int, bind, Except.bind, if_pos (Int.natCast_nonneg n)]
  rfl

lemma pos_of_positive {v : Value} {n : Nat} (h : positive v = .ok n) : 0 < n := by
  cases hv : int v with
  | error es => simp [positive, hv, bind, Except.bind] at h
  | ok m =>
    simp only [positive, hv, bind, Except.bind] at h
    split at h
    next hm =>
      obtain rfl : m.toNat = n := Except.ok.inj h
      omega
    next => cases h

lemma ne_of_nonemptyString {v : Value} {s : String} (h : nonemptyString v = .ok s) : s ≠ "" := by
  cases hv : string v with
  | error es => simp [nonemptyString, hv, bind, Except.bind] at h
  | ok t =>
    simp only [nonemptyString, hv, bind, Except.bind] at h
    split at h
    next => cases h
    next ht =>
      obtain rfl : t = s := Except.ok.inj h
      exact ht

lemma positive_natCast {n : Nat} (h : 0 < n) : positive (.int n) = .ok n := by
  simp only [positive, Scalars.int_int, bind, Except.bind, if_pos (Int.natCast_pos.mpr h)]
  rfl

@[simp] lemma label_kind (kind : BlockKind) : label (.text (Labelled.label kind)) = .ok kind := by
  apply Scalars.label_text
  cases kind <;> decide +kernel

@[simp] lemma label_severity (severity : Severity) :
    label (.text (Labelled.label severity)) = .ok severity := by
  apply Scalars.label_text
  cases severity <;> decide +kernel

end Scalars

end Checked

end CommentDoc
