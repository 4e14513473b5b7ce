import CommentDoc.Proofs.Json.Reading

/-! The JSON of the standard as a grammar, and the rendered trees that are in it: those whose
texts have no control character that is written as it is. -/

namespace CommentDoc.Json

def RawControl (c : Char) : Prop :=
  0x01 ≤ c.toNat ∧ c.toNat ≤ 0x06 ∨ c.toNat = 0x0A ∨ 0x0E ≤ c.toNat ∧ c.toNat ≤ 0x1F

instance : DecidablePred RawControl := fun _ => inferInstanceAs (Decidable (_ ∨ _))

lemma rawControl_iff (c : Char) : RawControl c ↔ c ∉ Reader.escapedChars ∧ c.toNat < 0x20 := by
  have hcodes : c ∈ Reader.escapedChars ↔ c.toNat ∈ Reader.escapedChars.map Char.toNat := by
    simp only [List.mem_map, Char.toNat_inj, exists_eq_right]
  rw [hcodes, RawControl]
  have hmap : Reader.escapedChars.map Char.toNat = [92, 34, 0, 7, 8, 9, 11, 12, 13] := by decide
  simp only [hmap, List.mem_cons, List.not_mem_nil, or_false]
  omega

def PlainText (s : String) : Prop :=
  ∀ c ∈ s.toList, ¬ RawControl c

instance : DecidablePred PlainText := fun s => List.decidableBAll _ s.toList

def Plain (v : Json) : Prop :=
  ∀ t ∈ v.texts, PlainText t

lemma plain_text (s : String) : (text s).Plain ↔ PlainText s := by
  simp only [Plain, texts_text, List.forall_mem_singleton]

lemma plain_array (items : List Json) : (array items).Plain ↔ ∀ v ∈ items, v.Plain := by
  simp only [Plain, texts_array, List.forall_mem_flatMap]

lemma plain_object (fields : List (String × Json)) :
    (object fields).Plain ↔ ∀ f ∈ fields, PlainText f.1 ∧ f.2.Plain := by
  simp only [Plain, texts_object, List.forall_mem_flatMap, List.forall_mem_cons]

namespace Grammar

def Space (s : List Char) : Prop :=
  ∀ c ∈ s, c ∈ [' ', '\t', '\n', '\r']

def Digits (s : List Char) : Prop :=
  s ≠ [] ∧ ∀ c ∈ s, c.isDigit = true

def HexDigit (c : Char) : Prop :=
  c.isDigit = true ∨ c ∈ ['a', 'b', 'c', 'd', 'e', 'f'] ∨ c ∈ ['A', 'B', 'C', 'D', 'E', 'F']

instance : DecidablePred HexDigit := fun _ => inferInstanceAs (Decidable (_ ∨ _))

inductive TextChar : List Char → Prop
  | plain {c : Char} : 0x20 ≤ c.toNat → c ≠ '"' → c ≠ '\\' → TextChar [c]
  | short {c : Char} : c ∈ ['"', '\\', '/', 'b', 'f', 'n', 'r', 't'] → TextChar ['\\', c]
  | code {a b c d : Char} : HexDigit a → HexDigit b → HexDigit c → HexDigit d →
    TextChar ['\\', 'u', a, b, c, d]

inductive TextChars : List Char → Prop
  | nil : TextChars []
  | cons {p s : List Char} : TextChar p → TextChars s → TextChars (p ++ s)

inductive WholePart : List Char → Prop
  | zero : WholePart ['0']
  | digits {c : Char} {ds : List Char} : c.isDigit = true → c ≠ '0' → (∀ d ∈ ds, d.isDigit = true) →
    WholePart (c :: ds)

inductive Fraction : List Char → Prop
  | none : Fraction []
  | point {ds : List Char} : Digits ds → Fraction ('.' :: ds)

inductive Exponent : List Char → Prop
  | none : Exponent []
  | power {e : Char} {sign ds : List Char} : e ∈ ['e', 'E'] → sign ∈ [[], ['+'], ['-']] → Digits ds →
      Exponent (e :: (sign ++ ds))

inductive Number : List Char → Prop
  | mk {sign whole fraction exponent : List Char} : sign ∈ [[], ['-']] → WholePart whole → Fraction fraction →
      Exponent exponent → Number (sign ++ (whole ++ (fraction ++ exponent)))

inductive Separated (P : List Char → Prop) : List Char → Prop
  | one {s : List Char} : P s → Separated P s
  | more {s rest : List Char} : P s → Separated P rest → Separated P (s ++ ',' :: rest)

inductive Closed (P : List Char → Prop) (close : Char) : List Char → Prop
  | empty {w : List Char} : Space w → Closed P close (w ++ [close])
  | list {s : List Char} : Separated P s → Closed P close (s ++ [close])

mutual

inductive Value : List Char → Prop
  | nullWord : Value ['n', 'u', 'l', 'l']
  | trueWord : Value ['t', 'r', 'u', 'e']
  | falseWord : Value ['f', 'a', 'l', 's', 'e']
  | number {s : List Char} : Number s → Value s
  | text {s : List Char} : TextChars s → Value ('"' :: (s ++ ['"']))
  | array {s : List Char} : Closed Element ']' s → Value ('[' :: s)
  | object {s : List Char} : Closed Field '\x7d' s → Value ('\x7b' :: s)

inductive Element : List Char → Prop
  | mk {w s w' : List Char} : Space w → Value s → Space w' → Element (w ++ (s ++ w'))

inductive Field : List Char → Prop
  | mk {w name w' s : List Char} : Space w → TextChars name → Space w' → Element s →
      Field (w ++ '"' :: (name ++ '"' :: (w' ++ ':' :: s)))

end

def Standard (s : String) : Prop :=
  Element s.toList

lemma Space.eq_nil {w s t : List Char} {x : Char} (h : Space w) (heq : w ++ s = x :: t)
    (hx : x ∉ [' ', '\t', '\n', '\r']) : w = [] := by
  cases w with
  | nil => rfl
  | cons c w =>
    obtain ⟨rfl, -⟩ := List.cons.inj heq
    exact absurd (h c List.mem_cons_self) hx

lemma textChar_escape {c : Char} (h : ¬ RawControl c) : TextChar (escape c) := by
  by_cases hc : c ∈ Reader.escapedChars
  · simp only [Reader.escapedChars, List.mem_cons, List.not_mem_nil, or_false] at hc
    rcases hc with rfl | rfl | rfl | rfl | rfl | rfl | rfl | rfl | rfl
    all_goals
      first
      | exact .short (by decide)
      | exact .code (by decide) (by decide) (by decide) (by decide)
  · have hb : c ≠ '\\' := fun h => hc (by simp [h, Reader.escapedChars])
    have hq : c ≠ '"' := fun h => hc (by simp [h, Reader.escapedChars])
    have hprinted : ¬ c.toNat < 0x20 := fun hlow => h ((rawControl_iff c).mpr ⟨hc, hlow⟩)
    rw [Reader.escape_of_notMem hc]
    exact .plain (Nat.not_lt.mp hprinted) hq hb

lemma TextChar.eq_of_append {p p' q q' : List Char} (h : TextChar p) (h' : TextChar p')
    (heq : p ++ q = p' ++ q') :
    p = p' ∧ q = q' := by
  cases h with
  | plain _ _ hb =>
    cases h' with
    | plain => simpa using heq
    | short => exact absurd (List.cons.inj heq).1 hb
    | code => exact absurd (List.cons.inj heq).1 hb
  | short hc =>
    cases h' with
    | plain _ _ hb => exact absurd (List.cons.inj heq).1.symm hb
    | short => simpa using heq
    | code =>
      obtain ⟨rfl, -⟩ := List.cons.inj (List.cons.inj heq).2
      exact absurd hc (by decide)
  | code =>
    cases h' with
    | plain _ _ hb => exact absurd (List.cons.inj heq).1.symm hb
    | short hc =>
      obtain ⟨rfl, -⟩ := List.cons.inj (List.cons.inj heq).2
      exact absurd hc (by decide)
    | code => simpa [and_assoc] using heq

lemma TextChar.eq_escape {p q rest : List Char} {c : Char} (h : TextChar p)
    (heq : p ++ q = escape c ++ rest) :
    p = escape c ∧ q = rest ∧ ¬ RawControl c := by
  by_cases hc : RawControl c
  · -- the character would stand in the text as it is
    exfalso
    obtain ⟨hescaped, hlow⟩ := (rawControl_iff c).mp hc
    rw [Reader.escape_of_notMem hescaped] at heq
    cases h with
    | plain hprinted =>
      obtain ⟨rfl, -⟩ := List.cons.inj heq
      exact Nat.not_lt.mpr hprinted hlow
    | short =>
      obtain ⟨rfl, -⟩ := List.cons.inj heq
      exact hescaped (by decide)
    | code =>
      obtain ⟨rfl, -⟩ := List.cons.inj heq
      exact hescaped (by decide)
  · obtain ⟨hp, hq⟩ := h.eq_of_append (textChar_escape hc) heq
    exact ⟨hp, hq, hc⟩

lemma TextChar.ne_quote {p q rest : List Char} (h : TextChar p) : p ++ q ≠ '"' :: rest := by
  intro heq
  cases h with
  | plain _ hq => exact hq (List.cons.inj heq).1
  | short => exact absurd (List.cons.inj heq).1 (by decide)
  | code => exact absurd (List.cons.inj heq).1 (by decide)

lemma escape_ne_quote (c : Char) (q rest : List Char) : '"' :: q ≠ escape c ++ rest := by
  intro heq
  by_cases hc : RawControl c
  · have hescaped := ((rawControl_iff c).mp hc).1
    rw [Reader.escape_of_notMem hescaped] at heq
    obtain ⟨rfl, -⟩ := List.cons.inj heq
    exact hescaped (by decide)
  · exact (textChar_escape hc).ne_quote heq.symm

lemma textChars_escaped {s : List Char} (h : ∀ c ∈ s, ¬ RawControl c) : TextChars (s.flatMap escape) := by
  induction s with
  | nil => exact .nil
  | cons c s ih =>
    obtain ⟨hc, hs⟩ := List.forall_mem_cons.mp h
    exact .cons (textChar_escape hc) (ih hs)

lemma TextChars.eq_escaped {body q s rest : List Char} (h : TextChars body)
    (heq : body ++ '"' :: q = s.flatMap escape ++ '"' :: rest) :
    body = s.flatMap escape ∧ q = rest ∧ ∀ c ∈ s, ¬ RawControl c := by
  induction s generalizing body with
  | nil =>
    cases h with
    | nil => simpa using heq
    | cons hp _ =>
      rw [List.append_assoc] at heq
      exact absurd heq hp.ne_quote
  | cons c s ih =>
    rw [List.flatMap_cons, List.append_assoc] at heq
    cases h with
    | nil => exact absurd heq (escape_ne_quote c q _)
    | cons hp hbody =>
      rw [List.append_assoc] at heq
      obtain ⟨rfl, heq, hc⟩ := hp.eq_escape heq
      obtain ⟨rfl, hq, hs⟩ := ih hbody heq
      exact ⟨rfl, hq, List.forall_mem_cons.mpr ⟨hc, hs⟩⟩

def isNumberChar (c : Char) : Bool :=
  c.isDigit || ['.', 'e', 'E', '+', '-'].contains c

lemma isNumberChar_of_isDigit {c : Char} (h : c.isDigit = true) : isNumberChar c = true := by
  rw [isNumberChar, h, Bool.true_or]

lemma Fraction.chars {s : List Char} (h : Fraction s) : ∀ c ∈ s, isNumberChar c = true := by
  cases h with
  | none => simp
  | point hds => exact List.forall_mem_cons.mpr ⟨by decide, fun c hc => isNumberChar_of_isDigit (hds.2 c hc)⟩

lemma Exponent.chars {s : List Char} (h : Exponent s) : ∀ c ∈ s, isNumberChar c = true := by
  cases h with
  | none => simp
  | @power e sign ds he hsign hds =>
    have hletters : ∀ e ∈ ['e', 'E'], isNumberChar e = true := by simp [isNumberChar]
    have hsigns : ∀ sign ∈ [[], ['+'], ['-']], ∀ c ∈ sign, isNumberChar c = true := by simp [isNumberChar]
    refine List.forall_mem_cons.mpr ⟨hletters e he, List.forall_mem_append.mpr ⟨hsigns sign hsign, ?_⟩⟩
    exact fun c hc => isNumberChar_of_isDigit (hds.2 c hc)

lemma WholePart.chars {s : List Char} (h : WholePart s) : s ≠ [] ∧ ∀ c ∈ s, isNumberChar c = true := by
  cases h with
  | zero => simp [isNumberChar]
  | digits hc _ hds =>
    refine ⟨List.cons_ne_nil _ _, List.forall_mem_cons.mpr ⟨isNumberChar_of_isDigit hc, ?_⟩⟩
    exact fun d hd => isNumberChar_of_isDigit (hds d hd)

lemma Number.chars {s : List Char} (h : Number s) : s ≠ [] ∧ ∀ c ∈ s, isNumberChar c = true := by
  obtain @⟨sign, whole, fraction, exponent, hsign, hwhole, hfraction, hexponent⟩ := h
  have hsigns : ∀ sign ∈ [[], ['-']], ∀ c ∈ sign, isNumberChar c = true := by simp [isNumberChar]
  refine ⟨by simp [hwhole.chars.1], ?_⟩
  simp only [List.forall_mem_append]
  exact ⟨hsigns sign hsign, hwhole.chars.2, hfraction.chars, hexponent.chars⟩

lemma Number.head {s q t : List Char} {x : Char} (h : Number s) (heq : s ++ q = x :: t) :
    isNumberChar x = true := by
  obtain ⟨hne, hchars⟩ := h.chars
  obtain ⟨c, cs, rfl⟩ := List.exists_cons_of_ne_nil hne
  obtain ⟨rfl, -⟩ := List.cons.inj heq
  exact hchars c List.mem_cons_self

lemma number_renderInt (n : Int) : Number (renderInt n) := by
  have hwhole : WholePart (Nat.toDigits 10 n.natAbs) := by
    by_cases hn : n.natAbs = 0
    · rw [hn]
      exact .zero
    · have hhead := Reader.head?_toDigits hn
      have hdigits : ∀ c ∈ Nat.toDigits 10 n.natAbs, c.isDigit = true := fun c hc =>
        Nat.isDigit_of_mem_toDigits (by decide) (by decide) hc
      obtain ⟨c, cs, hc, hdigit⟩ := Reader.toDigits_eq_cons n.natAbs
      rw [hc] at hhead hdigits ⊢
      exact .digits hdigit (by simpa using hhead) fun d hd => hdigits d (List.mem_cons_of_mem _ hd)
  have hnumber : ∀ sign ∈ [[], ['-']], Number (sign ++ Nat.toDigits 10 n.natAbs) := by
    intro sign hsign
    simpa using Number.mk hsign hwhole .none .none
  unfold renderInt
  split
  · exact hnumber ['-'] (by decide)
  · exact hnumber [] (by decide)

def delimiters : List Char :=
  [',', ']', '\x7d']

/-- Of the texts of the class, only `r` can stand where `r` stands before a delimiter, and it is
of the class under the condition only. -/
structure Exact (P : List Char → Prop) (r : List Char) (condition : Prop) : Prop where
  admitted : condition → P r
  unique : ∀ {p t t' : List Char} {c c' : Char}, P p → c ∈ delimiters → c' ∈ delimiters →
    p ++ c :: t = r ++ c' :: t' → p = r ∧ c :: t = c' :: t' ∧ condition

def Avoids (P : List Char → Prop) (close : Char) : Prop :=
  ∀ {p q t : List Char} {x : Char}, P p → p ++ q = x :: t → x ≠ close

section Lists

variable {α : Type} {P : List Char → Prop} {f : α → List Char} {condition : α → Prop} {xs : List α}

lemma separated_join (hne : xs ≠ []) (h : ∀ x ∈ xs, P (f x)) : Separated P (Text.join [','] (xs.map f)) := by
  induction xs with
  | nil => exact absurd rfl hne
  | cons x xs ih =>
    obtain ⟨hx, hxs⟩ := List.forall_mem_cons.mp h
    cases xs with
    | nil => exact .one hx
    | cons y xs =>
      have hrest := ih (List.cons_ne_nil y xs) hxs
      simp only [List.map_cons, Text.join, List.append_assoc, List.singleton_append]
      exact .more hx hrest

lemma Separated.eq_join {s t t' : List Char} {c c' : Char} (hs : Separated P s) (hne : xs ≠ [])
    (h : ∀ x ∈ xs, Exact P (f x) (condition x)) (hc : c ∈ [']', '\x7d']) (hc' : c' ∈ [']', '\x7d'])
    (heq : s ++ c :: t = Text.join [','] (xs.map f) ++ c' :: t') :
    s = Text.join [','] (xs.map f) ∧ c :: t = c' :: t' ∧ ∀ x ∈ xs, condition x := by
  have hd : c ∈ delimiters := List.mem_cons_of_mem _ hc
  have hd' : c' ∈ delimiters := List.mem_cons_of_mem _ hc'
  have hcomma : ',' ∈ delimiters := List.mem_cons_self
  induction xs generalizing s with
  | nil => exact absurd rfl hne
  | cons x xs ih =>
    obtain ⟨hx, hxs⟩ := List.forall_mem_cons.mp h
    cases xs with
    | nil =>
      cases hs with
      | one hp =>
        obtain ⟨rfl, heq, hx⟩ := hx.unique hp hd hd' heq
        exact ⟨rfl, heq, by simpa using hx⟩
      | more hp _ =>
        rw [List.append_assoc] at heq
        obtain ⟨-, heq, -⟩ := hx.unique hp hcomma hd' heq
        obtain ⟨rfl, -⟩ := List.cons.inj heq
        exact absurd hc' (by decide)
    | cons y xs =>
      simp only [List.map_cons, Text.join, List.append_assoc, List.cons_append] at heq ⊢
      cases hs with
      | one hp =>
        obtain ⟨-, heq, -⟩ := hx.unique hp hd hcomma heq
        obtain ⟨rfl, -⟩ := List.cons.inj heq
        exact absurd hc (by decide)
      | more hp hrest =>
        rw [List.append_assoc, List.cons_append] at heq
        obtain ⟨rfl, heq, hx⟩ := hx.unique hp hcomma hcomma heq
        obtain ⟨rfl, heq, hxs⟩ := ih hrest (List.cons_ne_nil y xs) hxs (List.cons.inj heq).2
        exact ⟨rfl, heq, List.forall_mem_cons.mpr ⟨hx, hxs⟩⟩

lemma Separated.avoids {close : Char} (h : Avoids P close) : Avoids (Separated P) close := by
  intro p q t x hp heq
  cases hp with
  | one hp => exact h hp heq
  | more hp _ =>
    rw [List.append_assoc] at heq
    exact h hp heq

lemma closed_join (close : Char) (h : ∀ x ∈ xs, P (f x)) :
    Closed P close (Text.join [','] (xs.map f) ++ [close]) := by
  cases xs with
  | nil => exact .empty (w := []) (by simp [Space])
  | cons x xs => exact .list (separated_join (List.cons_ne_nil x xs) h)

lemma Closed.eq_join {close : Char} {s q t : List Char} (hs : Closed P close s)
    (hclose : close ∈ [']', '\x7d'])
    (hP : Avoids P close)
    (hf : ∀ x ∈ xs, ∃ y ys, f x = y :: ys ∧ y ∉ [' ', '\t', '\n', '\r'] ∧ y ≠ close)
    (h : ∀ x ∈ xs, Exact P (f x) (condition x))
    (heq : s ++ q = Text.join [','] (xs.map f) ++ close :: t) :
    s = Text.join [','] (xs.map f) ++ [close] ∧ q = t ∧ ∀ x ∈ xs, condition x := by
  have hblank : close ∉ [' ', '\t', '\n', '\r'] := by
    have hall : ∀ c ∈ [']', '\x7d'], c ∉ [' ', '\t', '\n', '\r'] := by simp
    exact hall close hclose
  cases hs with
  | empty hw =>
    rw [List.append_assoc, List.singleton_append] at heq
    cases xs with
    | nil =>
      obtain rfl := hw.eq_nil heq hblank
      exact ⟨rfl, (List.cons.inj heq).2, by simp⟩
    | cons x xs =>
      obtain ⟨y, ys, hy, hspace, hne⟩ := hf x List.mem_cons_self
      obtain ⟨r, hr⟩ : ∃ r, Text.join [','] ((x :: xs).map f) = y :: r := by
        cases xs with
        | nil => exact ⟨ys, hy⟩
        | cons z xs => exact ⟨_, by rw [List.map_cons, List.map_cons, Text.join, hy]; rfl⟩
      rw [hr, List.cons_append] at heq
      obtain rfl := hw.eq_nil heq hspace
      exact absurd (List.cons.inj heq).1.symm hne
  | list hs =>
    rw [List.append_assoc, List.singleton_append] at heq
    cases xs with
    | nil => exact absurd rfl (Separated.avoids hP hs heq)
    | cons x xs =>
      obtain ⟨rfl, heq, hxs⟩ := hs.eq_join (List.cons_ne_nil x xs) h hclose hclose heq
      exact ⟨rfl, (List.cons.inj heq).2, hxs⟩

end Lists

lemma Value.head {p q t : List Char} {x : Char} (h : Value p) (heq : p ++ q = x :: t) :
    isNumberChar x = true ∨ x ∈ ['n', 't', 'f', '"', '[', '\x7b'] := by
  cases h with
  | number hn => exact Or.inl (hn.head heq)
  | _ =>
    obtain ⟨rfl, -⟩ := List.cons.inj heq
    exact Or.inr (by decide)

lemma element_avoids : Avoids Element ']' := by
  rintro p q t x ⟨hw, hv, -⟩ heq rfl
  rw [List.append_assoc] at heq
  obtain rfl := hw.eq_nil heq (by decide)
  rw [List.nil_append, List.append_assoc] at heq
  exact absurd (hv.head heq) (by decide)

lemma field_avoids : Avoids Field '\x7d' := by
  rintro p q t x ⟨hw, -, -, -⟩ heq rfl
  rw [List.append_assoc] at heq
  obtain rfl := hw.eq_nil heq (by decide)
  exact absurd (List.cons.inj heq).1 (by decide)

lemma notMem_of_isSpace {c : Char} (h : Reader.isSpace c = false) : c ∉ [' ', '\t', '\n', '\r'] := by
  simpa [Reader.isSpace, and_assoc] using h

def Ends (rest : List Char) : Prop :=
  ∀ c ∈ rest.head?, isNumberChar c = false

lemma ends_append {w t : List Char} {c : Char} (hw : Space w) (hc : c ∈ delimiters) : Ends (w ++ c :: t) := by
  intro x hx
  cases w with
  | nil =>
    obtain rfl : c = x := Option.some.inj hx
    have hall : ∀ c ∈ delimiters, isNumberChar c = false := by simp [delimiters, isNumberChar]
    exact hall c hc
  | cons y w =>
    obtain rfl : y = x := Option.some.inj hx
    have hall : ∀ c ∈ [' ', '\t', '\n', '\r'], isNumberChar c = false := by simp [isNumberChar]
    exact hall y (hw y List.mem_cons_self)

structure Fixes (v : Json) : Prop where
  admitted : v.Plain → Value v.render
  unique : ∀ {p q t : List Char} {c : Char}, Value p → Ends q → c ∈ delimiters → p ++ q = v.render ++ c :: t →
    p = v.render ∧ q = c :: t ∧ v.Plain

lemma Fixes.exact {v : Json} (hw : v.Whole) (h : Fixes v) : Exact Element v.render v.Plain where
  admitted hv := by
    have hspace : Space [] := by simp [Space]
    simpa using Element.mk hspace (h.admitted hv) hspace
  unique := by
    rintro p t t' c c' ⟨hspace, hv, hspace'⟩ hc hc' heq
    obtain ⟨x, xs, hx, hne, -⟩ := Reader.render_eq_cons hw
    have hblank : c' ∉ [' ', '\t', '\n', '\r'] := by
      have hall : ∀ c ∈ delimiters, c ∉ [' ', '\t', '\n', '\r'] := by simp [delimiters]
      exact hall c' hc'
    rw [List.append_assoc, List.append_assoc] at heq
    -- no space on the left, since the rendered value begins there, and none on the right, since it ends there
    have hleft := heq
    rw [hx, List.cons_append] at hleft
    obtain rfl := hspace.eq_nil hleft (notMem_of_isSpace hne)
    obtain ⟨rfl, hright, hplain⟩ := h.unique hv (ends_append hspace' hc) hc' heq
    obtain rfl := hspace'.eq_nil hright hblank
    exact ⟨by simp, hright, hplain⟩

def renderField (f : String × Json) : List Char :=
  renderText f.1 ++ ':' :: f.2.render

lemma renderItems_eq_join (items : List Json) : renderItems items = Text.join [','] (items.map render) := by
  induction items with
  | nil => rfl
  | cons v items ih =>
    cases items with
    | nil => rfl
    | cons w items =>
      simp only [renderItems, ih, List.map_cons, Text.join, List.append_assoc,
        List.singleton_append]

lemma renderFields_eq_join (fields : List (String × Json)) :
    renderFields fields = Text.join [','] (fields.map renderField) := by
  induction fields with
  | nil => rfl
  | cons f fields ih =>
    obtain ⟨name, v⟩ := f
    cases fields with
    | nil => rfl
    | cons g fields =>
      simp only [renderFields, renderField, ih, List.map_cons, Text.join, List.append_assoc, List.cons_append,
        List.nil_append]

lemma exact_field (name : String) {v : Json} (h : Exact Element v.render v.Plain) :
    Exact Field (renderField (name, v)) (PlainText name ∧ v.Plain) where
  admitted := by
    rintro ⟨hname, hv⟩
    have hspace : Space [] := by simp [Space]
    simpa [renderField, renderText] using Field.mk hspace (textChars_escaped hname) hspace (h.admitted hv)
  unique := by
    rintro p t t' c c' ⟨hspace, hname, hspace', hv⟩ hc hc' heq
    simp only [renderField, renderText, List.append_assoc, List.cons_append, List.nil_append] at heq
    obtain rfl := hspace.eq_nil heq (by decide)
    obtain ⟨rfl, heq, hplain⟩ := hname.eq_escaped (List.cons.inj heq).2
    obtain rfl := hspace'.eq_nil heq (by decide)
    obtain ⟨rfl, heq, hv⟩ := h.unique hv hc hc' (List.cons.inj heq).2
    exact ⟨by simp [renderField, renderText], heq, hplain, hv⟩

lemma Value.eq_word {p q r word : List Char} (hp : Value p)
    (hword : word ∈ [['n', 'u', 'l', 'l'], ['t', 'r', 'u', 'e'], ['f', 'a', 'l', 's', 'e']])
    (heq : p ++ q = word ++ r) : p = word ∧ q = r := by
  simp only [List.mem_cons, List.not_mem_nil, or_false] at hword
  rcases hword with rfl | rfl | rfl
  all_goals
    cases hp with
    | number hn => exact absurd (hn.head heq) (by decide)
    | _ => simp_all

lemma fixes_null : Fixes .null where
  admitted _ := .nullWord
  unique hp _ _ heq := by
    obtain ⟨hp, hq⟩ := hp.eq_word (by simp [render]) heq
    exact ⟨hp, hq, by simp [Plain, texts]⟩

lemma fixes_bool (b : Bool) : Fixes (.bool b) where
  admitted _ := by
    cases b with
    | false => exact .falseWord
    | true => exact .trueWord
  unique hp _ _ heq := by
    obtain ⟨hp, hq⟩ := hp.eq_word (by cases b <;> simp [render]) heq
    exact ⟨hp, hq, by simp [Plain, texts]⟩

lemma fixes_int (n : Int) : Fixes (.int n) where
  admitted _ := .number (number_renderInt n)
  unique := by
    intro p q t c hp hq hc heq
    obtain ⟨hne, hchars⟩ := (number_renderInt n).chars
    have hends : Ends (c :: t) := ends_append (w := []) (by simp [Space]) hc
    rw [render] at heq ⊢
    cases hp with
    | number hn =>
      have hp : p = renderInt n := by
        calc p = (p ++ q).takeWhile isNumberChar := (Text.takeWhile_append_stop hn.chars.2 hq).symm
          _ = (renderInt n ++ c :: t).takeWhile isNumberChar := by rw [heq]
          _ = renderInt n := Text.takeWhile_append_stop hchars hends
      rw [hp] at heq
      exact ⟨hp, List.append_cancel_left heq, by simp [Plain]⟩
    | _ =>
      obtain ⟨x, xs, hx⟩ := List.exists_cons_of_ne_nil hne
      rw [hx] at heq hchars
      obtain ⟨rfl, -⟩ := List.cons.inj heq
      exact absurd (hchars _ List.mem_cons_self) (by decide)

lemma fixes_text (s : String) : Fixes (.text s) where
  admitted h := by
    have hs := textChars_escaped ((plain_text s).mp h)
    simpa [render, renderText] using Value.text hs
  unique := by
    intro p q t c hp _ _ heq
    simp only [render, renderText, List.cons_append, List.append_assoc, List.nil_append] at heq ⊢
    cases hp with
    | text hs =>
      simp only [List.cons_append, List.append_assoc, List.nil_append] at heq
      obtain ⟨rfl, hq, hplain⟩ := hs.eq_escaped (List.cons.inj heq).2
      exact ⟨rfl, hq, (plain_text s).mpr hplain⟩
    | number hn => exact absurd (hn.head heq) (by decide)
    | _ => simp at heq

-- arrays and objects differ in the brackets and in what stands between them
lemma fixes_of_closed {α : Type} {P : List Char → Prop} {f : α → List Char} {condition : α → Prop}
    {xs : List α} {v : Json}
    {start close : Char} (hrender : v.render = start :: (Text.join [','] (xs.map f) ++ [close]))
    (hplain : v.Plain ↔ ∀ x ∈ xs, condition x) (hclose : close ∈ [']', '\x7d']) (hP : Avoids P close)
    (hf : ∀ x ∈ xs, ∃ y ys, f x = y :: ys ∧ y ∉ [' ', '\t', '\n', '\r'] ∧ y ≠ close)
    (h : ∀ x ∈ xs, Exact P (f x) (condition x)) (hvalue : ∀ {s}, Closed P close s → Value (start :: s))
    (hinv : ∀ {p q t}, Value p → p ++ q = start :: t → ∃ s, p = start :: s ∧ Closed P close s) : Fixes v := by
  constructor
  · intro hv
    rw [hrender]
    exact hvalue (closed_join close fun x hx => (h x hx).admitted (hplain.mp hv x hx))
  · intro p q t c hp _ _ heq
    rw [hrender, List.cons_append, List.append_assoc] at heq
    obtain ⟨s, rfl, hs⟩ := hinv hp heq
    obtain ⟨rfl, hq, hxs⟩ := hs.eq_join hclose hP hf h (List.cons.inj heq).2
    exact ⟨hrender.symm, hq, hplain.mpr hxs⟩

lemma fixes_array {items : List Json} (hw : ∀ v ∈ items, v.Whole) (h : ∀ v ∈ items, Fixes v) :
    Fixes (.array items) := by
  refine fixes_of_closed (f := render) ?_ (plain_array items) (by decide) element_avoids ?_
    (fun v hv => (h v hv).exact (hw v hv)) .array ?_
  · rw [render, renderItems_eq_join, List.cons_append]
  · intro v hv
    obtain ⟨y, ys, hy, hspace, hne⟩ := Reader.render_eq_cons (hw v hv)
    exact ⟨y, ys, hy, notMem_of_isSpace hspace, hne⟩
  · intro p q t hp heq
    cases hp with
    | array hs => exact ⟨_, rfl, hs⟩
    | number hn => exact absurd (hn.head heq) (by decide)
    | _ => simp at heq

lemma fixes_object {fields : List (String × Json)} (hw : ∀ f ∈ fields, f.2.Whole)
    (h : ∀ f ∈ fields, Fixes f.2) :
    Fixes (.object fields) := by
  refine fixes_of_closed (f := renderField) ?_ (plain_object fields) (by decide) field_avoids
    (fun f _ => ⟨_, _, rfl, by decide, by decide⟩)
      (fun f hf => exact_field f.1 ((h f hf).exact (hw f hf))) .object ?_
  · rw [render, renderFields_eq_join, List.cons_append]
  · intro p q t hp heq
    cases hp with
    | object hs => exact ⟨_, rfl, hs⟩
    | number hn => exact absurd (hn.head heq) (by decide)
    | _ => simp at heq

lemma fixes {v : Json} (h : v.Whole) : Fixes v := by
  induction h with
  | null => exact fixes_null
  | bool b => exact fixes_bool b
  | int n => exact fixes_int n
  | text s => exact fixes_text s
  | array hw ih => exact fixes_array hw ih
  | object hw ih => exact fixes_object hw ih

end Grammar

theorem standard_compact_iff {v : Json} (h : v.Whole) : Grammar.Standard v.compact ↔ v.Plain := by
  have hexact := (Grammar.fixes h).exact h
  rw [Grammar.Standard, compact, String.toList_ofList]
  constructor
  · -- the same delimiter after both, so that the two texts can be compared
    intro hv
    exact (hexact.unique (c := ',') (t := []) hv (by decide) (by decide) rfl).2.2
  · exact hexact.admitted

theorem read?_of_standard {v : Json} (h : v.Whole) (hv : Grammar.Standard v.compact) (d : Dialect) :
    read? d v.compact = some (v, []) := by
  apply read?_compact h
  intro t ht c hc
  have hplain := (standard_compact_iff h).mp hv t ht c hc
  by_cases hescaped : c ∈ Reader.escapedChars
  · exact Or.inr (Or.inl hescaped)
  · have hprinted : ¬ c.toNat < 0x20 := fun hlow => hplain ((rawControl_iff c).mpr ⟨hescaped, hlow⟩)
    exact Or.inr (Or.inr (Nat.not_lt.mp hprinted))

end CommentDoc.Json
