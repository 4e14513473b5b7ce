/-! What is a word character, a digit or printable depends on the edition of the character set. -/

namespace CommentDoc.Text

/-- `isWord` holds of letters, number characters of every kind and the underscore, `isDigit` of
digits of every script and kind, `decimalValue?` of those that numbers are written with. -/
class Edition where
  isWord : Char → Bool
  isDigit : Char → Bool
  isPrintable : Char → Bool
  decimalValue? : Char → Option Nat
  isWord_ascii : ∀ c : Char, c.toNat < 0x80 → isWord c = (c.isAlphanum || c == '_')

export Edition (isWord isDigit isPrintable decimalValue?)

end CommentDoc.Text
