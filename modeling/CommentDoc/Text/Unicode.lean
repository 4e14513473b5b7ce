import CommentDoc.Text.Digit
import CommentDoc.Text.Edition
import CommentDoc.Text.Printable
import CommentDoc.Text.Word

/-! Editions fourteen and fifteen of the character set. The program runs with the fifteenth. -/

namespace CommentDoc.Text

def decimalValueFrom? (zeros : List Nat) (c : Char) : Option Nat :=
  (zeros.find? fun z => z ≤ c.toNat && c.toNat ≤ z + 9).map (c.toNat - ·)

theorem forall_ascii {p : Char → Bool} (h : (List.range 0x80).all fun n => p (Char.ofNat n)) (c : Char)
    (hc : c.toNat < 0x80) : p c := by
  have hp := List.all_eq_true.mp h c.toNat (List.mem_range.mpr hc)
  rwa [Char.ofNat_toNat] at hp

namespace Edition

@[reducible] def fourteen : Edition where
  isWord := wordRanges.contains
  isDigit := digitRanges.contains
  isPrintable := printableRanges.contains
  decimalValue? := decimalValueFrom? decimalZeros
  isWord_ascii c hc := by
    have h := forall_ascii (p := fun c => wordRanges.contains c == (c.isAlphanum || c == '_'))
      (by decide +kernel) c hc
    exact eq_of_beq h

@[reducible] def fifteen : Edition where
  isWord c := fourteen.isWord c || newWordRanges.contains c
  isDigit c := fourteen.isDigit c || newDigitRanges.contains c
  isPrintable c := fourteen.isPrintable c || newPrintableRanges.contains c
  decimalValue? := decimalValueFrom? (decimalZeros ++ newDecimalZeros)
  isWord_ascii c hc := by
    have h := forall_ascii (p := fun c => !newWordRanges.contains c) (by decide +kernel) c hc
    rw [fourteen.isWord_ascii c hc, Bool.not_eq_true' _ |>.mp h, Bool.or_false]

instance : Edition :=
  fifteen

end Edition

end CommentDoc.Text
