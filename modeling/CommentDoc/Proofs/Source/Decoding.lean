import CommentDoc.Text.Utf8
import Mathlib.Tactic.Lemma

namespace CommentDoc.Text.Utf8

def State.Sound : State → Prop
  | .idle => True
  | .inside missing lo hi code =>
    0x80 ≤ lo.toNat ∧ hi.toNat ≤ 0xBF ∧ 2 ≤ code * 64 + (lo.toNat - 0x80) ∧
      (missing ≤ 1 → 0x80 ≤ code * 64 + (lo.toNat - 0x80))

lemma first_sound (b : UInt8) : (first b).2.Sound := by
  unfold first
  split
  · trivial
  split
  · trivial
  split
  next h₁ h₂ =>
    simp only [UInt8.lt_iff_toNat_lt, UInt8.reduceToNat] at h₁ h₂
    refine ⟨by decide, by decide, ?_⟩
    simp only [UInt8.reduceToNat]
    omega
  split
  next h₃ _ =>
    simp only [UInt8.lt_iff_toNat_lt, UInt8.reduceToNat] at h₃
    by_cases he : b = 0xE0
    · subst b
      exact ⟨by decide, by decide, by decide⟩
    · have hb : b.toNat ≠ 0xE0 := fun h => he (UInt8.toNat_inj.mp h)
      simp only [he, if_false]
      refine ⟨by decide, by split <;> decide, ?_⟩
      simp only [UInt8.reduceToNat]
      omega
  split
  next h₄ _ =>
    simp only [UInt8.lt_iff_toNat_lt, UInt8.reduceToNat] at h₄
    by_cases he : b = 0xF0
    · subst b
      exact ⟨by decide, by decide, by decide⟩
    · have hb : b.toNat ≠ 0xF0 := fun h => he (UInt8.toNat_inj.mp h)
      simp only [he, if_false]
      refine ⟨by decide, by split <;> decide, ?_⟩
      simp only [UInt8.reduceToNat]
      omega
  · trivial

lemma step_sound {s : State} (hs : s.Sound) (b : UInt8) : (step s b).2.Sound := by
  cases s with
  | idle => exact first_sound b
  | inside missing lo hi code =>
    obtain ⟨hlo, hhi, hcode⟩ := hs
    simp only [step]
    split
    next hb =>
      simp only [UInt8.le_iff_toNat_le] at hb
      split
      · trivial
      next hm =>
        refine ⟨by decide, by decide, ?_⟩
        simp only [UInt8.reduceToNat]
        omega
    · exact first_sound b

lemma step_newline {s : State} (hs : s.Sound) : step s 0x0A = (finish s ++ ['\n'], .idle) := by
  cases s with
  | idle => rfl
  | inside missing lo hi code =>
    have hlo : ¬ (lo ≤ 0x0A ∧ 0x0A ≤ hi) := by
      have hh := hs.1
      simp only [UInt8.le_iff_toNat_le, UInt8.reduceToNat]
      omega
    simp only [step, hlo, if_false]
    rfl

lemma ofNat_ne_newline {n : Nat} (h : n ≠ 0x0A) : Char.ofNat n ≠ '\n' := by
  intro he
  by_cases hv : n.isValidChar
  · have hn : (Char.ofNat n).toNat = n := by
      rw [Char.ofNat, dif_pos hv]
      rfl
    rw [he] at hn
    exact h hn.symm
  · rw [Char.ofNat, dif_neg hv] at he
    exact absurd he (by decide)

lemma first_newline_notMem {b : UInt8} (h : b ≠ 0x0A) : '\n' ∉ (first b).1 := by
  have hb : b.toNat ≠ 0x0A := fun he => h (UInt8.toNat_inj.mp he)
  have hc := ofNat_ne_newline hb
  unfold first
  split
  · simpa using hc.symm
  split
  · decide
  split
  · simp
  split
  · simp
  split
  · simp
  · decide

lemma step_newline_notMem {s : State} (hs : s.Sound) {b : UInt8} (h : b ≠ 0x0A) :
    '\n' ∉ (step s b).1 := by
  cases s with
  | idle => exact first_newline_notMem h
  | inside missing lo hi code =>
    obtain ⟨hlo, hhi, -, hcode⟩ := hs
    simp only [step]
    split
    next hb =>
      simp only [UInt8.le_iff_toNat_le] at hb
      split
      next hm =>
        have hlast := hcode hm
        have hc : Char.ofNat (code * 64 + (b.toNat - 0x80)) ≠ '\n' := ofNat_ne_newline (by omega)
        simpa using hc.symm
      · simp
    · have hr : '\n' ≠ replacement := by decide
      simpa [hr] using first_newline_notMem h

lemma decodeFrom_newline {s : State} (hs : s.Sound) (bs rest : Octets) :
    decodeFrom s (bs ++ 0x0A :: rest) = decodeFrom s bs ++ '\n' :: decode rest := by
  induction bs generalizing s with
  | nil => simp [decodeFrom, step_newline hs, decode]
  | cons b bs ih => simp [decodeFrom, ih (step_sound hs b)]

lemma decode_newline (bs rest : Octets) :
    decode (bs ++ 0x0A :: rest) = decode bs ++ '\n' :: decode rest :=
  decodeFrom_newline (s := .idle) trivial bs rest

lemma decodeFrom_newline_notMem {s : State} (hs : s.Sound) {bs : Octets} (h : 0x0A ∉ bs) :
    '\n' ∉ decodeFrom s bs := by
  induction bs generalizing s with
  | nil => cases s <;> simp [decodeFrom, finish, replacement]
  | cons b bs ih =>
    simp only [List.mem_cons, not_or] at h
    simp only [decodeFrom, List.mem_append, not_or]
    exact ⟨step_newline_notMem hs (Ne.symm h.1), ih (step_sound hs b) h.2⟩

lemma decode_newline_notMem {bs : Octets} (h : 0x0A ∉ bs) : '\n' ∉ decode bs :=
  decodeFrom_newline_notMem (s := .idle) trivial h

lemma decodeFrom_inside_ne_nil (missing : Nat) (lo hi : UInt8) (code : Nat) (bs : Octets) :
    decodeFrom (.inside missing lo hi code) bs ≠ [] := by
  induction bs generalizing missing lo hi code with
  | nil => simp [decodeFrom, finish]
  | cons b bs ih =>
    simp only [decodeFrom, step]
    split
    · split
      · simp
      · simpa using ih _ _ _ _
    · simp

lemma decode_ne_nil {bs : Octets} (h : bs ≠ []) : decode bs ≠ [] := by
  cases bs with
  | nil => exact absurd rfl h
  | cons b bs =>
    simp only [decode, decodeFrom, step, first]
    split
    · simp
    split
    · simp
    split
    · simpa using decodeFrom_inside_ne_nil _ _ _ _ _
    split
    · simpa using decodeFrom_inside_ne_nil _ _ _ _ _
    split
    · simpa using decodeFrom_inside_ne_nil _ _ _ _ _
    · simp

lemma toNat_ofNat_of_lt {n : Nat} (h : n < 256) : (UInt8.ofNat n).toNat = n := by
  simpa using Nat.mod_eq_of_lt h

lemma step_tail {n : Nat} {lo hi : UInt8} (hn : n < 64) (hlo : lo.toNat ≤ n + 0x80)
    (hhi : n + 0x80 ≤ hi.toNat) (missing code : Nat) :
    step (.inside missing lo hi code) (UInt8.ofNat (n + 0x80)) =
      if missing ≤ 1 then ([Char.ofNat (code * 64 + n)], .idle)
      else ([], .inside (missing - 1) 0x80 0xBF (code * 64 + n)) := by
  have he := toNat_ofNat_of_lt (n := n + 0x80) (by omega)
  have hb : lo ≤ UInt8.ofNat (n + 0x80) ∧ UInt8.ofNat (n + 0x80) ≤ hi := by
    simp only [UInt8.le_iff_toNat_le, he]
    exact ⟨hlo, hhi⟩
  simp only [step, hb, and_self, if_true, he, Nat.add_sub_cancel]

lemma decodeFrom_tail {n : Nat} {lo hi : UInt8} (hn : n < 64) (hlo : lo.toNat ≤ n + 0x80)
    (hhi : n + 0x80 ≤ hi.toNat) (missing code : Nat) (rest : Octets) :
    decodeFrom (.inside (missing + 2) lo hi code) (UInt8.ofNat (n + 0x80) :: rest) =
      decodeFrom (.inside (missing + 1) 0x80 0xBF (code * 64 + n)) rest := by
  have hm : ¬ missing + 2 ≤ 1 := by omega
  simp only [decodeFrom, step_tail hn hlo hhi, hm, if_false, List.nil_append, Nat.reduceSubDiff]

lemma decodeFrom_last {n : Nat} (hn : n < 64) (code : Nat) (rest : Octets) :
    decodeFrom (.inside 1 0x80 0xBF code) (UInt8.ofNat (n + 0x80) :: rest) =
      Char.ofNat (code * 64 + n) :: decode rest := by
  have hlo : (0x80 : UInt8).toNat ≤ n + 0x80 := Nat.le_add_left _ _
  have hhi : n + 0x80 ≤ (0xBF : UInt8).toNat := by
    simp only [UInt8.reduceToNat]
    omega
  simp only [decodeFrom, step_tail hn hlo hhi, Nat.le_refl, if_true, List.singleton_append, decode]

lemma decode_first {b : UInt8} {s : State} (h : first b = ([], s)) (rest : Octets) :
    decode (b :: rest) = decodeFrom s rest := by
  simp [decode, decodeFrom, step, h]

lemma first_two : ∀ n < 32, 2 ≤ n →
    first (UInt8.ofNat (n + 0xC0)) = ([], .inside 1 0x80 0xBF n) := by
  decide

lemma first_three : ∀ n < 16, first (UInt8.ofNat (n + 0xE0)) =
    ([], .inside 2 (if n = 0 then 0xA0 else 0x80) (if n = 0xD then 0x9F else 0xBF) n) := by
  decide

lemma first_four : ∀ n < 5, first (UInt8.ofNat (n + 0xF0)) =
    ([], .inside 3 (if n = 0 then 0x90 else 0x80) (if n = 4 then 0x8F else 0xBF) n) := by
  decide

lemma decode_two {v : Nat} (h₁ : 0x7F < v) (h₂ : v ≤ 0x7FF) (rest : Octets) :
    decode (UInt8.ofNat (v / 64 % 0x20 + 0xC0) :: UInt8.ofNat (v % 0x40 + 0x80) :: rest) =
      Char.ofNat v :: decode rest := by
  have hv : v / 64 % 0x20 * 64 + v % 0x40 = v := by omega
  rw [decode_first (first_two _ (by omega) (by omega)), decodeFrom_last (by omega), hv]

lemma decode_three {v : Nat} (h₁ : 0x7FF < v) (h₂ : v ≤ 0xFFFF) (hs : v < 0xD800 ∨ 0xDFFF < v)
    (rest : Octets) :
    decode (UInt8.ofNat (v / 4096 % 0x10 + 0xE0) :: UInt8.ofNat (v / 64 % 0x40 + 0x80) ::
      UInt8.ofNat (v % 0x40 + 0x80) :: rest) = Char.ofNat v :: decode rest := by
  have hv : (v / 4096 % 0x10 * 64 + v / 64 % 0x40) * 64 + v % 0x40 = v := by omega
  rw [decode_first (first_three _ (by omega)), decodeFrom_tail (by omega) ?_ ?_,
    decodeFrom_last (by omega), hv]
  · split <;> simp only [UInt8.reduceToNat] <;> omega
  · split <;> simp only [UInt8.reduceToNat] <;> omega

lemma decode_four {v : Nat} (h₁ : 0xFFFF < v) (h₂ : v < 0x110000) (rest : Octets) :
    decode (UInt8.ofNat (v / 262144 % 0x08 + 0xF0) :: UInt8.ofNat (v / 4096 % 0x40 + 0x80) ::
      UInt8.ofNat (v / 64 % 0x40 + 0x80) :: UInt8.ofNat (v % 0x40 + 0x80) :: rest) =
      Char.ofNat v :: decode rest := by
  have hv : ((v / 262144 % 0x08 * 64 + v / 4096 % 0x40) * 64 + v / 64 % 0x40) * 64 + v % 0x40 = v := by
    omega
  rw [decode_first (first_four _ (by omega)), decodeFrom_tail (by omega) ?_ ?_,
    decodeFrom_tail (by omega) (Nat.le_add_left _ _) ?_, decodeFrom_last (by omega), hv]
  · simp only [UInt8.reduceToNat]
    omega
  · split <;> simp only [UInt8.reduceToNat] <;> omega
  · split <;> simp only [UInt8.reduceToNat] <;> omega

lemma decode_one {v : Nat} (h : v ≤ 0x7F) (rest : Octets) :
    decode (UInt8.ofNat v :: rest) = Char.ofNat v :: decode rest := by
  have hv := toNat_ofNat_of_lt (n := v) (by omega)
  have hb : UInt8.ofNat v < 0x80 := by
    simp only [UInt8.lt_iff_toNat_lt, hv, UInt8.reduceToNat]
    omega
  simp only [decode, decodeFrom, step, first, hb, if_true, hv, List.singleton_append]

lemma decode_encodeChar (c : Char) (rest : Octets) :
    decode (String.utf8EncodeChar c ++ rest) = c :: decode rest := by
  -- surrogates are no characters, and no character lies beyond the last plane
  have hv : c.val.toNat < 0xD800 ∨ 0xDFFF < c.val.toNat ∧ c.val.toNat < 0x110000 := c.valid
  have hc : Char.ofNat c.val.toNat = c := Char.ofNat_toNat c
  simp only [String.utf8EncodeChar]
  split
  next h₁ => simpa only [hc] using! decode_one h₁ rest
  next h₁ =>
    split
    next h₂ => simpa only [hc] using! decode_two (by omega) h₂ rest
    next h₂ =>
      split
      next h₃ => simpa only [hc] using! decode_three (by omega) h₃ (by omega) rest
      next h₃ =>
        have hf := decode_four (v := c.val.toNat) (by omega) (by omega) rest
        simpa only [hc] using! hf

theorem decode_encode (s : List Char) : decode (encode s) = s := by
  induction s with
  | nil => rfl
  | cons c s ih =>
    have hs : encode (c :: s) = String.utf8EncodeChar c ++ encode s := rfl
    rw [hs, decode_encodeChar, ih]

end CommentDoc.Text.Utf8
