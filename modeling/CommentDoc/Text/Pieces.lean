namespace CommentDoc.Text

def pieces {α : Type} (sep : α → Bool) : List α → List (List α)
  | [] => [[]]
  | a :: as =>
    if sep a then [] :: pieces sep as
    else
      match pieces sep as with
      | [] => [[a]]
      | p :: ps => (a :: p) :: ps

def join {α : Type} (sep : List α) : List (List α) → List α
  | [] => []
  | [p] => p
  | p :: q :: rest => p ++ sep ++ join sep (q :: rest)

def after? {α : Type} [DecidableEq α] : (start s : List α) → Option (List α)
  | [], s => some s
  | _ :: _, [] => none
  | a :: start, b :: s => if a = b then after? start s else none

theorem pieces_ne_nil {α : Type} (sep : α → Bool) (as : List α) : pieces sep as ≠ [] := by
  cases as with
  | nil => simp [pieces]
  | cons a as =>
    unfold pieces
    split
    · simp
    · split <;> simp

theorem join_pieces {α : Type} [BEq α] [LawfulBEq α] (a : α) (as : List α) :
    join [a] (pieces (· == a) as) = as := by
  induction as with
  | nil => rfl
  | cons b bs ih =>
    unfold pieces
    split
    next h =>
      cases hp : pieces (· == a) bs with
      | nil => exact absurd hp (pieces_ne_nil _ _)
      | cons p ps =>
        rw [hp] at ih
        simp [join, ih, beq_iff_eq.mp h]
    next h =>
      cases hp : pieces (· == a) bs with
      | nil => exact absurd hp (pieces_ne_nil _ _)
      | cons p ps =>
        rw [hp] at ih
        cases ps with
        | nil => simpa [join] using ih
        | cons q ps => simpa [join] using ih

theorem after?_eq_some_iff {α : Type} [DecidableEq α] {start s rest : List α} :
    after? start s = some rest ↔ s = start ++ rest := by
  induction start generalizing s with
  | nil => simp [after?, eq_comm]
  | cons a start ih =>
    cases s with
    | nil => simp [after?]
    | cons b s =>
      by_cases h : a = b
      · simp [after?, h, ih]
      · simp [after?, h, Ne.symm h]

end CommentDoc.Text
