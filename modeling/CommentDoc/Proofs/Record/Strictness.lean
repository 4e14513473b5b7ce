import CommentDoc.Proofs.Json.Grammar
import CommentDoc.Proofs.Record.Framing

namespace CommentDoc

lemma Record.plain_toJson_iff (r : Record) : r.toJson.Plain ↔ ∀ t ∈ r.texts, Json.PlainText t := by
  have hown : ∀ t ∈ ownTexts, Json.PlainText t := by decide +kernel
  exact forall_texts_toJson hown r

def escapedRecord : Record where
  id := 10
  kind := .function
  markup := "\\u\""
  file := "a\x00\x7f.sh"
  lines := ⟨1, 0⟩
  content := .function ⟨"f", "\x07\x08\t\x0b\x0c\r", [⟨"@return", "\\n"⟩], [⟨"", "\u2028"⟩]⟩

end CommentDoc
