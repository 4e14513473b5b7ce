import CommentDoc.Text.Emoji

/-! Messages on the console. In a fatal message the names of symbols and the tags in brackets are
read. -/

namespace CommentDoc.Console

def isTagStart (c : Char) : Bool :=
  ('a' ≤ c && c ≤ 'z') || c == '#' || c == '/' || c == '@'

def tag? : List Char → Option (List Char × List Char)
  | [] => none
  | c :: rest =>
    if isTagStart c then
      match rest.dropWhile fun d => d ≠ ']' && d ≠ '[' with
      | ']' :: after =>
        some (c :: rest.takeWhile (fun d => d ≠ ']' && d ≠ '[') ++ [']'], after)
      | _ => none
    else none

theorem eq_of_tag? {s tag after : List Char} (h : tag? s = some (tag, after)) :
    s = tag ++ after ∧ tag ≠ [] := by
  cases s with
  | nil => cases h
  | cons c rest =>
    have hs := List.takeWhile_append_dropWhile (p := fun d => d ≠ ']' && d ≠ '[') (l := rest)
    simp only [tag?] at h
    split at h
    · split at h
      · next hd =>
        cases h
        rw [hd] at hs
        simpa using hs.symm
      · cases h
    · cases h

def push (c : Char) : List (List Char) → List (List Char)
  | [] => [[c]]
  | part :: rest => (c :: part) :: rest

def parts (s : List Char) : List (List Char) :=
  match s with
  | [] => [[]]
  | c :: rest =>
    if c = '[' then
      match _h : tag? rest with
      | some (tag, after) => [] :: (c :: tag) :: parts after
      | none => push c (parts rest)
    else push c (parts rest)
termination_by s.length
decreasing_by
  · have := congrArg List.length (eq_of_tag? _h).1
    simp only [List.length_append, List.length_cons] at this ⊢
    omega
  · simp only [List.length_cons, Nat.lt_succ_self]
  · simp only [List.length_cons, Nat.lt_succ_self]

theorem flatten_push (c : Char) (ps : List (List Char)) : (push c ps).flatten = c :: ps.flatten := by
  cases ps <;> simp [push]

theorem flatten_parts (s : List Char) : (parts s).flatten = s := by
  fun_induction parts s with
  | case1 => rfl
  | case2 rest tag after h ih => simp [ih, (eq_of_tag? h).1]
  | case3 rest h ih => rw [flatten_push, ih]
  | case4 c rest h ih => rw [flatten_push, ih]

def unescape : List Char → List Char
  | [] => []
  | '\\' :: '[' :: rest => '[' :: unescape rest
  | c :: rest => c :: unescape rest

def closeEscape (s : List Char) : List Char :=
  match s.reverse with
  | '\\' :: '\\' :: _ => s
  | '\\' :: _ => s ++ ['\\']
  | _ => s

def readParts (s : List Char) : List Char :=
  (parts (closeEscape s)).flatMap fun part => Text.Emoji.replace (unescape part)

def isCursorControl (c : Char) : Bool :=
  c == '\x07' || c == '\x08' || c == '\x0b' || c == '\x0c' || c == '\r'

def tabWidth : Nat :=
  8

def joinStops (column : Nat) : List (List Char) → List Char
  | [] => []
  | [part] => part
  | part :: next :: rest =>
    let part := part ++ [' ']
    let stop := column + Text.width part
    let fill := (tabWidth - stop % tabWidth) % tabWidth
    part ++ List.replicate fill ' ' ++ joinStops (stop + fill) (next :: rest)

def expandTabs (line : List Char) : List Char :=
  joinStops 0 (Text.pieces (· == '\t') line)

def lines (s : List Char) : List (List Char) :=
  (Text.pieces (· == '\n') (s.filter (!isCursorControl ·))).map expandTabs

def shown (lead message : String) : String :=
  String.ofList (Text.join ['\n'] (lines (lead.toList ++ readParts message.toList)))

def padRight (width : Nat) (s : List Char) : List Char :=
  s ++ List.replicate (width - s.length) ' '

def beside (headingWidth : Nat) (heading message : String) : String :=
  let column := lines message.toList
  let margin := heading.toList :: List.replicate (column.length - 1) []
  String.ofList ((margin.zip column).flatMap fun (left, line) =>
    padRight headingWidth left ++ line ++ ['\n'])

end CommentDoc.Console
