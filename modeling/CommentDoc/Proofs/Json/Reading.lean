import CommentDoc.Json.Reader
import CommentDoc.Proofs.Text.Trimming

/-! Reading a rendered tree gives the tree back, whatever follows it, in every dialect that takes
the characters of its texts as they are written. -/

namespace CommentDoc.Json

inductive Whole : Json → Prop
  | null : Whole .null
  | bool (b : Bool) : Whole (.bool b)
  | int (n : Int) : Whole (.int n)
  | text (s : String) : Whole (.text s)
  | array {items : List Json} : (∀ v ∈ items, Whole v) → Whole (.array items)
  | object {fields : List (String × Json)} : (∀ f ∈ fields, Whole f.2) → Whole (.object fields)

mutual

def texts : Json → List String
  | .text s => [s]
  | .array items => itemTexts items
  | .object fields => fieldTexts fields
  | _ => []

def itemTexts : List Json → List String
  | [] => []
  | v :: rest => texts v ++ itemTexts rest

def fieldTexts : List (String × Json) → List String
  | [] => []
  | (k, v) :: rest => k :: texts v ++ fieldTexts rest

end

@[simp] lemma texts_int (n : Int) : (int n).texts = [] := by
  rw [texts] <;> simp

@[simp] lemma texts_text (s : String) : (text s).texts = [s] := by
  rw [texts]

@[simp] lemma texts_array (items : List Json) : (array items).texts = items.flatMap texts := by
  rw [texts]
  induction items with
  | nil => rfl
  | cons v items ih => rw [itemTexts, ih, List.flatMap_cons]

@[simp] lemma texts_object (fields : List (String × Json)) :
    (object fields).texts = fields.flatMap fun f => f.1 :: f.2.texts := by
  rw [texts]
  induction fields with
  | nil => rfl
  | cons f fields ih => rw [fieldTexts, ih, List.flatMap_cons]

namespace Reader

def escapedChars : List Char :=
  ['\\', '"', '\x00', '\x07', '\x08', '\t', '\x0b', '\x0c', '\r']

lemma escape_of_notMem {c : Char} (h : c ∉ escapedChars) : escape c = [c] := by
  simp only [escapedChars, List.mem_cons, List.not_mem_nil, or_false, not_or] at h
  obtain ⟨h₁, h₂, h₃, h₄, h₅, h₆, h₇, h₈, h₉⟩ := h
  rw [escape, if_neg h₁, if_neg h₂, if_neg h₃, if_neg h₄, if_neg h₅, if_neg h₆, if_neg h₇, if_neg h₈,
    if_neg h₉]

def Takes (d : Dialect) (c : Char) : Prop :=
  d.controls = true ∨ c ∈ escapedChars ∨ 0x20 ≤ c.toNat

variable {d : Dialect}

lemma textFrom_escape {c : Char} (hc : Takes d c) (fuel : Nat) (done rest : List Char) :
    textFrom d (fuel + 1) done (escape c ++ rest) = textFrom d fuel (c :: done) rest := by
  by_cases h : c ∈ escapedChars
  · simp only [escapedChars, List.mem_cons, List.not_mem_nil, or_false] at h
    rcases h with rfl | rfl | rfl | rfl | rfl | rfl | rfl | rfl | rfl
    all_goals rfl
  · have hb : c ≠ '\\' := fun hc => h (by simp [hc, escapedChars])
    have hq : c ≠ '"' := fun hc => h (by simp [hc, escapedChars])
    have hkept : (decide (c.toNat < 0x20) && !d.controls) = false := by
      rcases hc with hd | hc | hc
      · simp [hd]
      · exact absurd hc h
      · simp only [Nat.not_lt.mpr hc, decide_false, Bool.false_and]
    rw [escape_of_notMem h, List.singleton_append, textFrom]
    · rw [hkept]
      rfl
    · exact hq
    · exact hb

lemma textFrom_escaped {s : List Char} (hs : ∀ c ∈ s, Takes d c) {fuel : Nat} (h : s.length < fuel)
    (done rest : List Char) :
    textFrom d fuel done (s.flatMap escape ++ '"' :: rest) =
      some (String.ofList (done.reverse ++ s), rest) := by
  induction s generalizing fuel done with
  | nil =>
    obtain ⟨fuel, rfl⟩ := Nat.exists_eq_add_of_lt h
    simp [textFrom]
  | cons c s ih =>
    obtain ⟨fuel, rfl⟩ : ∃ n, fuel = n + 1 := ⟨fuel - 1, by omega⟩
    obtain ⟨hc, hs⟩ := List.forall_mem_cons.mp hs
    rw [List.flatMap_cons, List.append_assoc, textFrom_escape hc, ih hs (by simpa using h)]
    simp

lemma length_le_escaped (s : List Char) : s.length ≤ (s.flatMap escape).length := by
  induction s with
  | nil => simp
  | cons c s ih =>
    have hc : 1 ≤ (escape c).length := by
      by_cases h : c ∈ escapedChars
      · have hall : escapedChars.all (fun c => 1 ≤ (escape c).length) = true := by decide
        simpa using List.all_eq_true.mp hall c h
      · simp [escape_of_notMem h]
    simp only [List.flatMap_cons, List.length_append, List.length_cons]
    omega

def Stops (rest : List Char) : Prop :=
  ∀ c ∈ rest.head?, c.isDigit = false ∧ c ≠ '.' ∧ c ≠ 'e' ∧ c ≠ 'E'

lemma fraction_of_stops {rest : List Char} (h : Stops rest) : Decimal.Numeral.fraction rest = ([], rest) := by
  unfold Decimal.Numeral.fraction
  split
  · exact absurd rfl (h '.' rfl).2.1
  · rfl

lemma exponent_of_stops {rest : List Char} (h : Stops rest) : Decimal.Numeral.exponent rest = (0, rest) := by
  cases rest with
  | nil => rfl
  | cons c rest =>
    obtain ⟨-, -, he, hE⟩ := h c rfl
    simp [Decimal.Numeral.exponent, he, hE]

lemma head?_toDigits {n : Nat} (h : n ≠ 0) : (Nat.toDigits 10 n).head? ≠ some '0' := by
  induction n using Nat.strongRecOn with
  | ind n ih =>
    rw [Nat.toDigits_eq_if (by decide)]
    split
    next hlt =>
      have hn : ∀ m : Nat, m < 10 → m ≠ 0 → m.digitChar ≠ '0' := by decide
      simpa using hn n hlt h
    next hge =>
      have hdiv := ih (n / 10) (by omega) (by omega)
      obtain ⟨c, cs, hc⟩ := List.exists_cons_of_ne_nil (Nat.toDigits_ne_nil (n := n / 10) (b := 10))
      rw [hc] at hdiv ⊢
      exact hdiv

lemma natOf_toDigits (n : Nat) : Decimal.Numeral.natOf (Nat.toDigits 10 n) = n := by
  rw [Decimal.Numeral.natOf, ← Nat.ofDigitChars_eq_foldl]
  exact Nat.ofDigitChars_ten_toDigits

lemma unsigned?_toDigits (negative : Bool) (n : Nat) {rest : List Char} (h : Stops rest) :
    unsigned? negative (Nat.toDigits 10 n ++ rest) =
      some (.int (if negative then -(n : Int) else n), rest) := by
  have hdigits : ∀ c ∈ Nat.toDigits 10 n, c.isDigit := fun c hc =>
    Nat.isDigit_of_mem_toDigits (by decide) (by decide) hc
  have hwhole : (if (Nat.toDigits 10 n ++ rest).head? = some '0' then ['0']
      else (Nat.toDigits 10 n ++ rest).takeWhile Char.isDigit) = Nat.toDigits 10 n := by
    by_cases hn : n = 0
    · subst n
      rfl
    · have hhead := head?_toDigits hn
      obtain ⟨c, cs, hc⟩ := List.exists_cons_of_ne_nil (Nat.toDigits_ne_nil (n := n) (b := 10))
      rw [if_neg, Text.takeWhile_append_stop hdigits fun c hc => (h c hc).1]
      rw [hc] at hhead ⊢
      exact hhead
  have hempty : (Nat.toDigits 10 n).isEmpty = false := by simp
  simp only [unsigned?, hwhole, hempty, List.drop_left, fraction_of_stops h, exponent_of_stops h,
    natOf_toDigits]
  simp

lemma word?_eq_none {s : List Char} (h : ∀ w ∈ words ++ specials, Text.after? w.1.toList s = none) :
    ((wordsOf d).findSome? fun (word, v) => (Text.after? word.toList s).map (v, ·)) = none := by
  rw [List.findSome?_eq_none_iff]
  intro w hw
  have hmem : w ∈ words ++ specials := by
    unfold wordsOf at hw
    split at hw
    · exact hw
    · exact List.mem_append_left _ hw
  simp only [h w hmem, Option.map_none]

lemma after?_word {c : Char} (h : c ∉ ['n', 't', 'f', 'N', 'I', '-']) (s : List Char) :
    ∀ w ∈ words ++ specials, Text.after? w.1.toList (c :: s) = none := by
  simp only [List.mem_cons, List.not_mem_nil, or_false, not_or] at h
  obtain ⟨hn, ht, hf, hN, hI, hm⟩ := h
  simp [words, specials, Text.after?, Ne.symm hn, Ne.symm ht, Ne.symm hf, Ne.symm hN, Ne.symm hI, Ne.symm hm]

lemma after?_word_minus {c : Char} (h : c ≠ 'I') (s : List Char) :
    ∀ w ∈ words ++ specials, Text.after? w.1.toList ('-' :: c :: s) = none := by
  simp [words, specials, Text.after?, Ne.symm h]

lemma ne_of_isDigit {c d : Char} (hc : c.isDigit) (hd : d.isDigit = false) : c ≠ d := by
  rintro rfl
  rw [hc] at hd
  cases hd

lemma toDigits_eq_cons (n : Nat) : ∃ c cs, Nat.toDigits 10 n = c :: cs ∧ c.isDigit := by
  obtain ⟨c, cs, hc⟩ := List.exists_cons_of_ne_nil (Nat.toDigits_ne_nil (n := n) (b := 10))
  exact ⟨c, cs, hc, Nat.isDigit_of_mem_toDigits (b := 10) (n := n) (by decide) (by decide) (by simp [hc])⟩

lemma text?_escaped {s : String} (hs : ∀ c ∈ s.toList, Takes d c) (fuel : Nat) (rest : List Char)
    (h : s.toList.length < fuel) :
    text? d fuel (s.toList.flatMap escape ++ '"' :: rest) = some (s, rest) := by
  rw [text?, textFrom_escaped hs h, List.reverse_nil, List.nil_append, String.ofList_toList]

lemma scalar?_text {s : String} (hs : ∀ c ∈ s.toList, Takes d c) (fuel : Nat) (rest : List Char)
    (h : s.toList.length < fuel) : scalar? d fuel (renderText s ++ rest) = some (.text s, rest) := by
  have ht := text?_escaped hs fuel rest h
  simp only [renderText, List.cons_append, List.append_assoc, List.nil_append, scalar?,
    word?_eq_none (after?_word (c := '"') (by decide) _)]
  rw [ht]
  rfl

lemma scalar?_int (n : Int) (fuel : Nat) {rest : List Char} (h : Stops rest) :
    scalar? d fuel (renderInt n ++ rest) = some (.int n, rest) := by
  unfold renderInt
  split
  next hn =>
    have hu := unsigned?_toDigits true n.natAbs h
    have habs : -(n.natAbs : Int) = n := by omega
    obtain ⟨c, cs, hc, hdigit⟩ := toDigits_eq_cons n.natAbs
    rw [if_pos rfl, habs] at hu
    rw [hc, List.cons_append] at hu ⊢
    have hword := word?_eq_none (d := d)
        (after?_word_minus (c := c) (ne_of_isDigit hdigit (by decide)) (cs ++ rest))
    simp only [List.cons_append, scalar?, hword]
    exact hu
  next hn =>
    have hu := unsigned?_toDigits false n.natAbs h
    have habs : (n.natAbs : Int) = n := by omega
    obtain ⟨c, cs, hc, hdigit⟩ := toDigits_eq_cons n.natAbs
    rw [habs] at hu
    rw [hc, List.cons_append] at hu ⊢
    have hc : c ∉ ['n', 't', 'f', 'N', 'I', '-'] := by
      intro hc
      have hall : ['n', 't', 'f', 'N', 'I', '-'].all (!·.isDigit) = true := by decide
      simpa [hdigit] using List.all_eq_true.mp hall c hc
    have hword := word?_eq_none (d := d) (after?_word hc (cs ++ rest))
    simp only [scalar?, hword]
    split
    next heq => cases heq
    next heq =>
      obtain ⟨rfl, -⟩ := List.cons.inj heq
      exact absurd rfl (ne_of_isDigit hdigit (by decide))
    next heq =>
      obtain ⟨rfl, -⟩ := List.cons.inj heq
      exact absurd rfl (ne_of_isDigit hdigit (by decide))
    next => exact hu

lemma skip_cons {c : Char} (h : isSpace c = false) (s : List Char) : skip (c :: s) = c :: s := by
  rw [skip, List.dropWhile_cons, h]
  rfl

lemma value?_of_scalar {c : Char} {s : List Char} (h : c ≠ '[' ∧ c ≠ '\x7b') (fuel : Nat) :
    value? d (fuel + 1) (c :: s) = scalar? d fuel (c :: s) := by
  rw [value?]
  · exact fun _ heq => h.1 (List.cons.inj heq).1
  · exact fun _ heq => h.2 (List.cons.inj heq).1

lemma renderInt_eq_cons (n : Int) : ∃ c cs, renderInt n = c :: cs ∧ c ≠ '[' ∧ c ≠ '\x7b' := by
  unfold renderInt
  split
  · exact ⟨_, _, rfl, by decide, by decide⟩
  · obtain ⟨c, cs, hc, hdigit⟩ := toDigits_eq_cons n.natAbs
    exact ⟨c, cs, hc, ne_of_isDigit hdigit (by decide), ne_of_isDigit hdigit (by decide)⟩

lemma render_eq_cons {v : Json} (h : v.Whole) : ∃ c cs, v.render = c :: cs ∧ isSpace c = false ∧ c ≠ ']' := by
  cases h with
  | null => exact ⟨_, _, rfl, by decide, by decide⟩
  | bool b => cases b <;> exact ⟨_, _, rfl, by decide, by decide⟩
  | int n =>
    rw [render, renderInt]
    split
    · exact ⟨_, _, rfl, by decide, by decide⟩
    · obtain ⟨c, cs, hc, hdigit⟩ := toDigits_eq_cons n.natAbs
      refine ⟨c, cs, hc, ?_, ne_of_isDigit hdigit (by decide)⟩
      simp [isSpace, ne_of_isDigit hdigit]
  | text s => exact ⟨_, _, rfl, by decide, by decide⟩
  | array _ => exact ⟨_, _, rfl, by decide, by decide⟩
  | object _ => exact ⟨_, _, rfl, by decide, by decide⟩

def ReadsBack (d : Dialect) (v : Json) : Prop :=
  ∀ (fuel : Nat) (rest : List Char), 2 * v.render.length ≤ fuel → Stops rest →
    value? d fuel (v.render ++ rest) = some (v, rest)

lemma stops_cons {c : Char} (h : c.isDigit = false ∧ c ≠ '.' ∧ c ≠ 'e' ∧ c ≠ 'E') (rest : List Char) :
    Stops (c :: rest) := by
  intro d hd
  obtain rfl : c = d := Option.some.inj hd
  exact h

lemma renderItems_eq_cons {v : Json} (h : v.Whole) (vs : List Json) :
    ∃ c cs, renderItems (v :: vs) = c :: cs ∧ isSpace c = false ∧ c ≠ ']' := by
  obtain ⟨c, cs, hc, hspace, hclose⟩ := render_eq_cons h
  cases vs with
  | nil => exact ⟨c, cs, by rw [renderItems, hc], hspace, hclose⟩
  | cons w vs => exact ⟨c, _, by rw [renderItems, hc, List.cons_append], hspace, hclose⟩

lemma items?_renderItems {v : Json} {vs : List Json} (hw : ∀ w ∈ v :: vs, w.Whole)
    (hr : ∀ w ∈ v :: vs, ReadsBack d w)
    (fuel : Nat) (rest : List Char) (hf : 2 * (renderItems (v :: vs)).length < fuel) :
    items? d fuel (renderItems (v :: vs) ++ ']' :: rest) = some (v :: vs, rest) := by
  induction vs generalizing v fuel with
  | nil =>
    obtain ⟨fuel, rfl⟩ : ∃ n, fuel = n + 1 := ⟨fuel - 1, by omega⟩
    have hv := hr v (by simp) fuel (']' :: rest) (by rw [renderItems] at hf; omega) (stops_cons (by decide) _)
    simp only [renderItems, items?, hv]
    rfl
  | cons w vs ih =>
    obtain ⟨fuel, rfl⟩ : ∃ n, fuel = n + 1 := ⟨fuel - 1, by omega⟩
    simp only [renderItems, List.length_append, List.length_cons] at hf
    have hv := hr v (by simp) fuel (',' :: (renderItems (w :: vs) ++ ']' :: rest)) (by omega)
        (stops_cons (by decide) _)
    have hvs : items? d fuel (renderItems (w :: vs) ++ ']' :: rest) = some (w :: vs, rest) :=
      ih (fun u hu => hw u (by simp [hu])) (fun u hu => hr u (by simp [hu])) fuel (by omega)
    obtain ⟨c, cs, hc, hspace, -⟩ := renderItems_eq_cons (hw w (by simp)) vs
    have hskip : skip (renderItems (w :: vs) ++ ']' :: rest) = renderItems (w :: vs) ++ ']' :: rest := by
      rw [hc, List.cons_append, skip_cons hspace]
    rw [renderItems, List.append_assoc, List.cons_append, items?, hv]
    simp only [Option.bind_eq_bind, Option.bind_some, skip_cons (c := ',') (by decide), hskip, hvs]
    rfl

lemma renderFields_eq_cons (f : String × Json) (fs : List (String × Json)) :
    ∃ cs, renderFields (f :: fs) = '"' :: cs := by
  cases fs with
  | nil => exact ⟨_, rfl⟩
  | cons g fs => exact ⟨_, rfl⟩

lemma fields?_field {name : String} (hn : ∀ c ∈ name.toList, Takes d c) {v : Json} (hw : v.Whole)
    (hr : ReadsBack d v) (fuel : Nat) (c : Char) (rest : List Char)
    (hf : 2 * (renderText name ++ v.render).length < fuel + 1) (hc : c = ',' ∨ c = '\x7d') :
    fields? d (fuel + 1) (renderText name ++ ':' :: (v.render ++ c :: rest)) =
      match c :: rest with
      | '\x7d' :: rest => some ([(name, v)], rest)
      | ',' :: rest => (fields? d fuel (skip rest)).map fun (fs, rest) => ((name, v) :: fs, rest)
      | _ => none := by
  have hlength := length_le_escaped name.toList
  simp only [renderText, List.length_append, List.length_cons, List.length_nil] at hf
  have hname := text?_escaped hn fuel (':' :: (v.render ++ c :: rest)) (by omega)
  have hstops : Stops (c :: rest) := by
    rcases hc with rfl | rfl <;> exact stops_cons (by decide) rest
  have hv := hr fuel (c :: rest) (by omega) hstops
  obtain ⟨e, es, he, hspace, -⟩ := render_eq_cons hw
  have hskip : skip (v.render ++ c :: rest) = v.render ++ c :: rest := by
    rw [he, List.cons_append, skip_cons hspace]
  simp only [renderText, List.cons_append, List.append_assoc, List.nil_append, fields?, hname,
    Option.bind_eq_bind, Option.bind_some, skip_cons (c := ':') (by decide), hskip, hv]
  rcases hc with rfl | rfl
  · simp only [skip_cons (c := ',') (by decide)]
    cases fields? d fuel (skip rest) <;> rfl
  · rfl

lemma fields?_renderFields {f : String × Json} {fs : List (String × Json)}
    (hn : ∀ g ∈ f :: fs, ∀ c ∈ g.1.toList, Takes d c) (hw : ∀ g ∈ f :: fs, g.2.Whole)
    (hr : ∀ g ∈ f :: fs, ReadsBack d g.2) (fuel : Nat) (rest : List Char)
    (hf : 2 * (renderFields (f :: fs)).length < fuel) :
    fields? d fuel (renderFields (f :: fs) ++ '\x7d' :: rest) = some (f :: fs, rest) := by
  induction fs generalizing f fuel with
  | nil =>
    obtain ⟨fuel, rfl⟩ : ∃ n, fuel = n + 1 := ⟨fuel - 1, by omega⟩
    obtain ⟨name, v⟩ := f
    have hnv : ∀ c ∈ name.toList, Takes d c := hn (name, v) (by simp)
    have hwv : v.Whole := hw (name, v) (by simp)
    have hrv : ReadsBack d v := hr (name, v) (by simp)
    simp only [renderFields, List.length_append, List.length_cons] at hf
    rw [renderFields, List.append_assoc, List.cons_append,
      fields?_field hnv hwv hrv fuel _ rest (by rw [List.length_append]; omega) (Or.inr rfl)]
    rfl
  | cons g fs ih =>
    obtain ⟨fuel, rfl⟩ : ∃ n, fuel = n + 1 := ⟨fuel - 1, by omega⟩
    obtain ⟨name, v⟩ := f
    have hnv : ∀ c ∈ name.toList, Takes d c := hn (name, v) (by simp)
    have hwv : v.Whole := hw (name, v) (by simp)
    have hrv : ReadsBack d v := hr (name, v) (by simp)
    simp only [renderFields, List.length_append, List.length_cons] at hf
    have hfs := ih (f := g) (fun u hu => hn u (List.mem_cons_of_mem _ hu))
      (fun u hu => hw u (List.mem_cons_of_mem _ hu)) (fun u hu => hr u (List.mem_cons_of_mem _ hu)) fuel
        (by omega)
    obtain ⟨cs, hcs⟩ := renderFields_eq_cons g fs
    have hskip : skip (renderFields (g :: fs) ++ '\x7d' :: rest) =
        renderFields (g :: fs) ++ '\x7d' :: rest := by
      rw [hcs, List.cons_append, skip_cons (by decide)]
    rw [renderFields, List.append_assoc, List.cons_append, List.append_assoc, List.cons_append,
      fields?_field hnv hwv hrv fuel _ _ (by rw [List.length_append]; omega) (Or.inl rfl)]
    simp only [hskip, hfs, Option.map_some]

lemma ReadsBack.of_succ {v : Json} (hw : v.Whole) (h : ∀ (fuel : Nat) (rest : List Char),
    2 * v.render.length ≤ fuel + 1 → Stops rest → value? d (fuel + 1) (v.render ++ rest) = some (v, rest)) :
    ReadsBack d v := by
  intro fuel rest hf hs
  obtain ⟨c, cs, hc, -, -⟩ := render_eq_cons hw
  obtain ⟨fuel, rfl⟩ : ∃ n, fuel = n + 1 := ⟨fuel - 1, by rw [hc, List.length_cons] at hf; omega⟩
  exact h fuel rest hf hs

lemma readsBack {v : Json} (h : v.Whole) (ht : ∀ t ∈ v.texts, ∀ c ∈ t.toList, Takes d c) : ReadsBack d v := by
  induction h with
  | null =>
    refine .of_succ .null ?_
    intro fuel rest hf hs
    obtain ⟨controls, specials⟩ := d
    cases specials <;> rfl
  | bool b =>
    refine .of_succ (.bool b) ?_
    intro fuel rest hf hs
    obtain ⟨controls, specials⟩ := d
    cases specials <;> cases b <;> rfl
  | int n =>
    refine .of_succ (.int n) ?_
    intro fuel rest hf hs
    have hn := scalar?_int (d := d) n fuel hs
    obtain ⟨c, cs, hc, hbracket⟩ := renderInt_eq_cons n
    rw [render, hc, List.cons_append, value?_of_scalar hbracket, ← List.cons_append, ← hc, hn]
  | text s =>
    refine .of_succ (.text s) ?_
    intro fuel rest hf hs
    have hlength := length_le_escaped s.toList
    simp only [render, renderText, List.length_append, List.length_cons, List.length_nil] at hf
    have ht := scalar?_text (ht s (by simp)) fuel rest (by omega)
    simp only [render, renderText, List.cons_append] at ht ⊢
    rw [value?_of_scalar (by decide), ht]
  | @array items hw ih =>
    refine .of_succ (.array hw) ?_
    intro fuel rest hf hs
    simp only [render, List.length_append, List.length_cons, List.length_nil] at hf
    simp only [render, List.cons_append, List.append_assoc, List.nil_append]
    cases items with
    | nil => rfl
    | cons v vs =>
      rw [texts_array, List.forall_mem_flatMap] at ht
      have hitems := items?_renderItems hw (fun w hw => ih w hw (ht w hw)) fuel rest (by omega)
      obtain ⟨c, cs, hc, hspace, hclose⟩ := renderItems_eq_cons (hw v (by simp)) vs
      rw [hc, List.cons_append] at hitems ⊢
      simp only [value?, skip_cons hspace]
      split
      next heq => exact absurd (List.cons.inj heq).1 hclose
      next => rw [hitems, Option.map_some]
  | @object fields hw ih =>
    refine .of_succ (.object hw) ?_
    intro fuel rest hf hs
    simp only [render, List.length_append, List.length_cons, List.length_nil] at hf
    simp only [render, List.cons_append, List.append_assoc, List.nil_append]
    cases fields with
    | nil => rfl
    | cons f fs =>
      rw [texts_object, List.forall_mem_flatMap] at ht
      have hnames := fun g hg => (List.forall_mem_cons.mp (ht g hg)).1
      have hvalues := fun g hg => ih g hg (List.forall_mem_cons.mp (ht g hg)).2
      have hfields := fields?_renderFields hnames hw hvalues fuel rest (by omega)
      obtain ⟨cs, hcs⟩ := renderFields_eq_cons f fs
      rw [hcs, List.cons_append] at hfields ⊢
      simp only [value?, skip_cons (c := '"') (by decide)]
      split
      next heq => exact absurd (List.cons.inj heq).1 (by decide)
      next => rw [hfields, Option.map_some]

end Reader

theorem read?_compact {d : Dialect} {v : Json} (h : v.Whole)
    (ht : ∀ t ∈ v.texts, ∀ c ∈ t.toList, Reader.Takes d c) :
    read? d v.compact = some (v, []) := by
  obtain ⟨c, cs, hc, hspace, -⟩ := Reader.render_eq_cons h
  have hskip : Reader.skip v.render = v.render := by rw [hc, Reader.skip_cons hspace]
  have hread := Reader.readsBack h ht (2 * v.render.length + 1) [] (by omega) (by simp [Reader.Stops])
  rw [List.append_nil] at hread
  simp only [read?, compact, String.toList_ofList, hskip, hread]
  rfl

theorem decode?_compact {v : Json} (h : v.Whole) : decode? v.compact = some (v, []) := by
  apply read?_compact h
  intro t _ c _
  exact Or.inl rfl

theorem compact_injective {v w : Json} (hv : v.Whole) (hw : w.Whole) (h : v.compact = w.compact) : v = w := by
  have hd := decode?_compact hv
  rw [h, decode?_compact hw] at hd
  exact (Prod.mk.inj (Option.some.inj hd)).1.symm

end CommentDoc.Json
