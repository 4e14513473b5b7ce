import CommentDoc.Command.Fatal
import CommentDoc.Proofs.Command.Lawful

namespace CommentDoc

namespace Console

variable {isSymbol : List Char → Bool} {s : List Char}

lemma plain_of_notMem (hcolon : ':' ∉ s) (hslash : '\\' ∉ s) (hs : Still s) : Plain isSymbol s where
  symbols := by
    rintro ⟨body, hsub, -⟩
    exact hcolon (hsub.subset (by simp))
  escapes := fun hsub => hslash (hsub.subset (by simp))
  ending := fun hlast => hslash (List.mem_of_getLast? hlast)
  controls := hs

end Console

namespace Fatal

variable [Text.Edition] [Packages] {path : String}

lemma plain_noFile {isSymbol : List Char → Bool} (h : Console.Plain isSymbol path.toList) :
    Console.Plain isSymbol (message (.noFile path)).toList := by
  have hmessage : (message (.noFile path)).toList = "file does not exist: ".toList ++ path.toList :=
    String.toList_append
  rw [hmessage]
  refine ⟨?_, ?_, ?_, .append (by decide) h.controls⟩
  · rintro ⟨body, hsub, hcolon, hblank, hsome⟩
    -- the colon of the message itself has a blank behind it
    have hcases : body ++ [':'] <+: ' ' :: path.toList ∨ ':' :: (body ++ [':']) <:+: path.toList := by
      simpa [List.infix_cons_iff] using hsub
    rcases hcases with hlead | hpath
    · cases body with
      | nil => simp at hlead
      | cons c body =>
        obtain ⟨rfl, -⟩ := List.cons_prefix_cons.mp hlead
        exact absurd (hblank ' ' (by simp)) (by decide)
    · exact h.symbols ⟨body, hpath, hcolon, hblank, hsome⟩
  · simpa [List.infix_cons_iff] using h.escapes
  · rw [List.getLast?_append]
    cases hlast : path.toList.getLast? with
    | none => decide
    | some c =>
      rw [Option.some_or, ← hlast]
      exact h.ending

lemma shown_noFile [LawfulPackages] (h : Console.Plain Packages.isSymbol path.toList) :
    shown (.noFile path) = "procdoc fatal: file does not exist: " ++ path ++ "\n" := by
  rw [shown, LawfulPackages.shown_plain (by decide) (plain_noFile h)]
  have hmessage : message (.noFile path) = "file does not exist: " ++ path := rfl
  rw [hmessage, ← String.append_assoc]
  rfl

end Fatal

end CommentDoc
