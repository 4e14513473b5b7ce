import CommentDoc.Text.Blank
import CommentDoc.Text.Case
import CommentDoc.Text.Emoji.Table
import CommentDoc.Text.Pieces
import CommentDoc.Text.Width

namespace CommentDoc.Text.Emoji

def words (rows : List String) : List (List Char) :=
  rows.flatMap fun row => pieces (· == ' ') row.toList

def symbolOf? (name : List Char) : List (List Char) → Option (List Char)
  | word :: symbol :: rest => if word = name then some symbol else symbolOf? name rest
  | _ => none

def before? (ending s : List Char) : Option (List Char) :=
  (after? ending.reverse s.reverse).map List.reverse

def flagLead : String :=
  "flag_for_"

def named? (name : List Char) : Option (List Char) :=
  symbolOf? name (words symbols) <|> symbolOf? name (words flags) <|>
    (after? flagLead.toList name).bind fun country => symbolOf? country (words flags)

def tones : List (String × Char) :=
  [("_light_skin_tone", .ofNat 0x1F3FB), ("_medium-light_skin_tone", .ofNat 0x1F3FC),
    ("_medium_skin_tone", .ofNat 0x1F3FD), ("_medium-dark_skin_tone", .ofNat 0x1F3FE),
    ("_dark_skin_tone", .ofNat 0x1F3FF)]

def withTone (tone : Char) : List Char → List Char
  | [] => []
  | c :: rest => c :: tone :: (if rest.head? = some pictureSelector then rest.drop 1 else rest)

def tonedSymbol? (name : List Char) : Option (List Char) :=
  tones.findSome? fun (ending, tone) =>
    (before? ending.toList name).bind fun base =>
      if base ∈ words toned then (named? base).map (withTone tone) else none

def symbol? (name : List Char) : Option (List Char) :=
  named? name <|> tonedSymbol? name

def textSelector : Char :=
  '\uFE0E'

def forms : List (String × Char) :=
  [("-text", textSelector), ("-emoji", pictureSelector)]

def read? (body : List Char) : Option (List Char) :=
  match forms.findSome? fun (ending, selector) => (before? ending.toList body).map (·, selector) with
  | some (name, selector) => (symbol? (lower name)).map (· ++ [selector])
  | none => symbol? (lower body)

def isSymbol (s : List Char) : Bool :=
  (read? s).isSome

def body? (s : List Char) : Option (List Char × List Char) :=
  let body := s.takeWhile (· ≠ ':')
  if body.any isBlank then none
  else
    match s.dropWhile (· ≠ ':') with
    | _ :: rest => some (body, rest)
    | [] => none

theorem eq_of_body? {s body rest : List Char} (h : body? s = some (body, rest)) :
    s = body ++ ':' :: rest := by
  have hs := List.takeWhile_append_dropWhile (p := (· ≠ ':')) (l := s)
  simp only [body?] at h
  split at h
  · cases h
  · split at h
    · next c after hd =>
      have hc := List.head?_dropWhile_not (· ≠ ':') s
      cases h
      rw [hd] at hs hc
      simp only [List.head?_cons] at hc
      simp_all
    · cases h

def replace (s : List Char) : List Char :=
  match s with
  | [] => []
  | c :: rest =>
    if c = ':' then
      match _h : body? rest with
      | some (body, after) => (read? body).getD (':' :: body ++ [':']) ++ replace after
      | none => c :: replace rest
    else c :: replace rest
termination_by s.length
decreasing_by
  · have := congrArg List.length (eq_of_body? _h)
    simp only [List.length_append, List.length_cons] at this ⊢
    omega
  · simp only [List.length_cons, Nat.lt_succ_self]
  · simp only [List.length_cons, Nat.lt_succ_self]

end CommentDoc.Text.Emoji
