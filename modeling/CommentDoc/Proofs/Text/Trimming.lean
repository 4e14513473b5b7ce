import CommentDoc.Text.Blank
import Mathlib.Data.List.TakeWhile
import Mathlib.Tactic.Lemma

namespace CommentDoc.Text

def Blanks (s : List Char) : Prop :=
  ∀ c ∈ s, isBlank c = true

instance (s : List Char) : Decidable (Blanks s) :=
  List.decidableBAll (isBlank · = true) s

section Span

variable {α : Type} {p : α → Bool} {as bs : List α}

lemma dropWhile_of_head? (hbs : ∀ b ∈ bs.head?, p b = false) : bs.dropWhile p = bs := by
  cases bs with
  | nil => rfl
  | cons b bs => simp [hbs b rfl]

lemma takeWhile_append_stop (has : ∀ a ∈ as, p a = true) (hbs : ∀ b ∈ bs.head?, p b = false) :
    (as ++ bs).takeWhile p = as := by
  rw [List.takeWhile_append_of_pos has]
  cases bs with
  | nil => simp
  | cons b bs => simp [hbs b rfl]

lemma dropWhile_append_stop (has : ∀ a ∈ as, p a = true) (hbs : ∀ b ∈ bs.head?, p b = false) :
    (as ++ bs).dropWhile p = bs := by
  rw [List.dropWhile_append_of_pos has, dropWhile_of_head? hbs]

end Span

lemma trimStart_of_head? {s : List Char} (h : ∀ c ∈ s.head?, isBlank c = false) : trimStart s = s :=
  dropWhile_of_head? h

lemma trimEnd_of_getLast? {s : List Char} (h : ∀ c ∈ s.getLast?, isBlank c = false) : trimEnd s = s := by
  rw [← List.head?_reverse] at h
  rw [trimEnd, dropWhile_of_head? h, List.reverse_reverse]

lemma trim_of_ends {s : List Char} (hh : ∀ c ∈ s.head?, isBlank c = false)
    (hl : ∀ c ∈ s.getLast?, isBlank c = false) : trim s = s := by
  rw [trim, trimStart_of_head? hh, trimEnd_of_getLast? hl]

lemma trim_cons_blank {c : Char} (h : isBlank c = true) (s : List Char) : trim (c :: s) = trim s := by
  simp only [trim, trimStart, List.dropWhile_cons, h]
  rfl

lemma length_trim_le (s : List Char) : (trim s).length ≤ s.length := by
  have hstart := (List.dropWhile_suffix isBlank (l := s)).length_le
  have hend := (List.dropWhile_suffix isBlank (l := (trimStart s).reverse)).length_le
  simp only [trim, trimEnd, trimStart, List.length_reverse] at hstart hend ⊢
  omega

lemma trim_sublist (s : List Char) : (trim s).Sublist s := by
  have hend : (trimEnd (trimStart s)).Sublist (trimStart s) := by
    have hreverse := (List.dropWhile_sublist (l := (trimStart s).reverse) isBlank).reverse
    rwa [List.reverse_reverse] at hreverse
  exact hend.trans (List.dropWhile_sublist isBlank)

lemma trim_eq_nil_iff {s : List Char} : trim s = [] ↔ ∀ c ∈ s, isBlank c = true := by
  rw [trim, trimEnd, List.reverse_eq_nil_iff, List.dropWhile_eq_nil_iff]
  constructor
  · intro h c hc
    rw [← List.takeWhile_append_dropWhile (p := isBlank) (l := s)] at hc
    rcases List.mem_append.mp hc with hc | hc
    · exact List.mem_takeWhile_imp hc
    · exact h c (List.mem_reverse.mpr hc)
  · intro h c hc
    exact h c ((List.dropWhile_suffix isBlank).subset (List.mem_reverse.mp hc))

lemma head?_of_trim {s : List Char} (h : trim s = s) : ∀ c ∈ s.head?, isBlank c = false := by
  intro c hc
  cases s with
  | nil => cases hc
  | cons d s =>
    obtain rfl : d = c := Option.some.inj hc
    cases hb : isBlank d with
    | false => rfl
    | true =>
      -- without its first character the text could only be shorter
      have hlength := length_trim_le s
      rw [trim_cons_blank hb] at h
      rw [h, List.length_cons] at hlength
      omega

lemma getLast?_of_trim {s : List Char} (h : trim s = s) : ∀ c ∈ s.getLast?, isBlank c = false := by
  intro c hc
  rw [← h, trim, trimEnd, List.getLast?_reverse] at hc
  have hne := List.head?_dropWhile_not isBlank (trimStart s).reverse
  rw [Option.mem_def.mp hc] at hne
  simpa using hne

def spaced (t : List Char) : List Char :=
  if t = [] then [] else ' ' :: t

lemma trim_spaced {t : List Char} (h : trim t = t) : trim (spaced t) = t := by
  by_cases ht : t = []
  · subst ht
    rfl
  · rw [spaced, if_neg ht, trim_cons_blank (by decide), h]

lemma mem_of_mem_spaced {t : List Char} {c : Char} (h : c ∈ spaced t) : c = ' ' ∨ c ∈ t := by
  by_cases ht : t = []
  · subst ht
    cases h
  · rw [spaced, if_neg ht] at h
    exact List.mem_cons.mp h

lemma trim_append_space {s t : List Char} (hs : s ≠ []) (hh : ∀ c ∈ s.head?, isBlank c = false)
    (hl : ∀ c ∈ s.getLast?, isBlank c = false) (ht : trim t = t) :
    trim (s ++ ' ' :: t) = s ++ spaced t := by
  have hhead : ∀ c ∈ (s ++ ' ' :: t).head?, isBlank c = false := by
    obtain ⟨c, s, rfl⟩ := List.exists_cons_of_ne_nil hs
    exact hh
  by_cases h : t = []
  · subst h
    have hspace : trimEnd (s ++ [' ']) = trimEnd s := by
      rw [trimEnd, trimEnd, List.reverse_append]
      rfl
    rw [trim, trimStart_of_head? hhead, hspace, trimEnd_of_getLast? hl, spaced, if_pos rfl, List.append_nil]
  · rw [spaced, if_neg h]
    apply trim_of_ends hhead
    intro d hd
    apply getLast?_of_trim ht
    rw [List.getLast?_append, List.getLast?_cons_of_ne_nil h, List.getLast?_eq_some_getLast h,
      Option.some_or] at hd
    rw [List.getLast?_eq_some_getLast h]
    exact hd

lemma trim_colon {s t : List Char} (hs : s ≠ []) (hh : ∀ c ∈ s.head?, isBlank c = false) (ht : trim t = t) :
    trim (s ++ ':' :: ' ' :: t) = s ++ ':' :: spaced t := by
  have hsplit : s ++ ':' :: ' ' :: t = (s ++ [':']) ++ ' ' :: t := by simp
  have hhead : ∀ c ∈ (s ++ [':']).head?, isBlank c = false := by
    obtain ⟨c, s, rfl⟩ := List.exists_cons_of_ne_nil hs
    exact hh
  have hlast : ∀ c ∈ (s ++ [':']).getLast?, isBlank c = false := by
    intro c hc
    rw [List.getLast?_concat] at hc
    obtain rfl : ':' = c := Option.some.inj hc
    decide
  rw [hsplit, trim_append_space (by simp) hhead hlast ht, List.append_assoc, List.singleton_append]

structure IsLine (s : List Char) : Prop where
  trim : trim s = s
  newline : '\n' ∉ s

end CommentDoc.Text
