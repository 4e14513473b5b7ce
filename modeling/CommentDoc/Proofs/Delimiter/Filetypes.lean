import CommentDoc.Proofs.Text.Trimming
import CommentDoc.Proofs.Validation.Remaking
import Mathlib.Data.List.Forall2

/-! No filetype is known to two families, so that of the order of a table's rows nothing matters
but which of them stand before the first one that claims every filetype. -/

namespace CommentDoc

namespace Family

inductive SameLetter (known : Char) : Char → Prop
  | same : SameLetter known known
  | capital : SameLetter known known.toUpper
  | long : known = 's' → SameLetter known '\u017F'
  | kelvin : known = 'k' → SameLetter known '\u212A'

/-- The filetype is a known one in other letters. A newline may stand behind it. -/
def Spells (known filetype : String) : Prop :=
  ∃ letters, List.Forall₂ SameLetter known.toList letters ∧
    (filetype.toList = letters ∨ filetype.toList = letters ++ ['\n'])

def Knows (family : Family) (filetype : String) : Prop :=
  ∃ known ∈ family.filetypes, Spells known filetype

def knownChars : List Char :=
  "abcdefghijklmnopqrstuvwxyz+".toList

lemma mem_knownChars (family : Family) : ∀ known ∈ family.filetypes, known.toList ⊆ knownChars := by
  cases family <;> decide

lemma SameLetter.foldChar_eq {k c : Char} (hk : k ∈ knownChars) (h : SameLetter k c) :
    Text.foldChar c = k := by
  have hall : knownChars.all fun k => Text.foldChar k = k && Text.foldChar k.toUpper = k := by decide
  have hcases : ∀ k ∈ knownChars, Text.foldChar k = k ∧ Text.foldChar k.toUpper = k := by simpa using hall
  cases h with
  | same => exact (hcases k hk).1
  | capital => exact (hcases k hk).2
  | long hs => exact hs.symm
  | kelvin hk => exact hk.symm

lemma toUpper_toLower {c : Char} (h : c.toLower ≠ c) : c.toLower.toUpper = c := by
  have hcapital : c.val ≥ 'A'.val ∧ c.val ≤ 'Z'.val := by
    by_contra hc
    exact h (dif_neg hc)
  have hA : 65 ≤ c.toNat := hcapital.1
  have hZ : c.toNat ≤ 90 := hcapital.2
  have hround : ∀ n < 26, (Char.ofNat (65 + n)).toLower.toUpper = Char.ofNat (65 + n) := by decide
  have hc : Char.ofNat (65 + (c.toNat - 65)) = c := by
    rw [Nat.add_sub_cancel' hA, Char.ofNat_toNat]
  rw [← hc]
  exact hround _ (by omega)

lemma sameLetter_foldChar (c : Char) : SameLetter (Text.foldChar c) c := by
  by_cases hkelvin : c = '\u212A'
  · subst hkelvin
    exact .kelvin rfl
  by_cases hlong : c = '\u017F'
  · subst hlong
    exact .long rfl
  have hfold : Text.foldChar c = c.toLower := by simp [Text.foldChar, hkelvin, hlong]
  rw [hfold]
  by_cases hlower : c.toLower = c
  · rw [hlower]
    exact .same
  · have hcapital : SameLetter c.toLower c.toLower.toUpper := .capital
    rwa [toUpper_toLower hlower] at hcapital

lemma forall₂_sameLetter_iff {known letters : List Char} (hknown : known ⊆ knownChars) :
    List.Forall₂ SameLetter known letters ↔ known = Text.fold letters := by
  constructor
  · intro h
    induction h with
    | nil => rfl
    | @cons k c known letters hkc _ ih =>
      obtain ⟨hk, hrest⟩ := List.forall_mem_cons.mp hknown
      rw [Text.fold, List.map_cons, hkc.foldChar_eq hk, ← Text.fold, ← ih hrest]
  · rintro rfl
    rw [Text.fold, List.forall₂_map_left_iff]
    exact List.forall₂_same.mpr fun c _ => sameLetter_foldChar c

lemma withoutNewline_append (s : List Char) : withoutNewline (s ++ ['\n']) = s := by
  simp [withoutNewline]

lemma withoutNewline_of_notMem {s : List Char} (h : '\n' ∉ s) : withoutNewline s = s := by
  unfold withoutNewline
  rw [if_neg fun hlast => h (List.mem_of_getLast? hlast)]

lemma eq_withoutNewline (s : List Char) : s = withoutNewline s ∨ s = withoutNewline s ++ ['\n'] := by
  unfold withoutNewline
  split
  next hlast => exact Or.inr (List.dropLast_append_getLast? '\n' hlast).symm
  next => exact Or.inl rfl

lemma spells_iff {known filetype : String} (hknown : known.toList ⊆ knownChars) :
    Spells known filetype ↔ known.toList = Text.fold (withoutNewline filetype.toList) := by
  constructor
  · rintro ⟨letters, hletters, hfiletype⟩
    have hfold := (forall₂_sameLetter_iff hknown).mp hletters
    have hline : '\n' ∉ letters := by
      intro hmem
      have hknownLine : '\n' ∈ known.toList := by
        rw [hfold]
        exact List.mem_map.mpr ⟨'\n', hmem, rfl⟩
      exact absurd (hknown hknownLine) (by decide)
    rcases hfiletype with h | h
    · rw [h, withoutNewline_of_notMem hline, hfold]
    · rw [h, withoutNewline_append, hfold]
  · intro h
    exact ⟨_, (forall₂_sameLetter_iff hknown).mpr h, eq_withoutNewline _⟩

lemma claims_iff {family : Family} (hfamily : family ≠ .fallback) (filetype : String) :
    family.claims filetype = true ↔ family.Knows filetype := by
  simp only [claims, hfamily, decide_false, Bool.false_or, List.any_eq_true, decide_eq_true_eq]
  exact exists_congr fun known => and_congr_right fun hknown =>
    (spells_iff (mem_knownChars family known hknown)).symm

lemma filetypes_apart {family other : Family} {known : String} (h : known ∈ family.filetypes)
    (h' : known ∈ other.filetypes) :
    family = other := by
  have happart : ∀ known ∈ family.filetypes, known ∈ other.filetypes → family = other := by
    cases family <;> cases other <;> decide
  exact happart known h h'

lemma eq_of_claims {family other : Family} {filetype : String} (hfamily : family ≠ .fallback)
    (hother : other ≠ .fallback)
    (h : family.claims filetype = true) (h' : other.claims filetype = true) : family = other := by
  obtain ⟨known, hknown, hspells⟩ := (claims_iff hfamily filetype).mp h
  obtain ⟨known', hknown', hspells'⟩ := (claims_iff hother filetype).mp h'
  rw [spells_iff (mem_knownChars _ _ hknown)] at hspells
  rw [spells_iff (mem_knownChars _ _ hknown')] at hspells'
  obtain rfl : known = known' := String.toList_inj.mp (hspells.trans hspells'.symm)
  exact filetypes_apart hknown hknown'

end Family

namespace Table

variable {t : Table} {family : Family} {filetype : String}

def leading (t : Table) : List Family :=
  t.rows.takeWhile (· ≠ .fallback)

lemma ne_fallback_of_mem_leading (h : family ∈ t.leading) : family ≠ .fallback := by
  simpa using List.mem_takeWhile_imp h

lemma family_eq_find? (t : Table) (filetype : String) :
    t.family filetype = (t.leading.find? (·.claims filetype)).getD .fallback := by
  have hspan : t.leading ++ t.rows.dropWhile (· ≠ .fallback) = t.rows := List.takeWhile_append_dropWhile
  have hrest : ((t.rows.dropWhile (· ≠ .fallback)).find? (·.claims filetype)).getD .fallback = .fallback := by
    cases hdrop : t.rows.dropWhile (· ≠ .fallback) with
    | nil => rfl
    | cons row rows =>
      have hstop := List.head?_dropWhile_not (fun row : Family => decide (row ≠ .fallback)) t.rows
      rw [hdrop] at hstop
      obtain rfl : row = .fallback := by simpa using hstop
      rfl
  rw [Table.family, ← hspan, List.find?_append, Option.getD_or, hrest]

lemma family_of_claims (hfamily : family ≠ .fallback) (h : family.claims filetype = true) :
    t.family filetype = if family ∈ t.leading then family else .fallback := by
  rw [family_eq_find?]
  split
  next hmem =>
    have hsome : (t.leading.find? (·.claims filetype)).isSome := List.find?_isSome.mpr ⟨family, hmem, h⟩
    obtain ⟨found, hfound⟩ := Option.isSome_iff_exists.mp hsome
    have hne := ne_fallback_of_mem_leading (List.mem_of_find?_eq_some hfound)
    have hclaims : found.claims filetype = true := by simpa using List.find?_some hfound
    rw [hfound, Family.eq_of_claims hfamily hne h hclaims]
    rfl
  next hmem =>
    have hnone : t.leading.find? (·.claims filetype) = none := by
      rw [List.find?_eq_none]
      intro found hfound hclaims
      rw [Family.eq_of_claims hfamily (ne_fallback_of_mem_leading hfound) h hclaims] at hmem
      exact hmem hfound
    rw [hnone]
    rfl

lemma family_of_unclaimed (h : ∀ family : Family, family ≠ .fallback → family.claims filetype = false) :
    t.family filetype = .fallback := by
  have hnone : t.leading.find? (·.claims filetype) = none := by
    rw [List.find?_eq_none]
    intro found hfound
    rw [h found (ne_fallback_of_mem_leading hfound)]
    exact Bool.false_ne_true
  rw [family_eq_find?, hnone]
  rfl

lemma family_of_perm {before before' : List Family} (h : before.Perm before')
    (hbefore : .fallback ∉ before) (rest : List Family)
    (filetype : String) :
    (Table.mk (before ++ rest)).family filetype = (Table.mk (before' ++ rest)).family filetype := by
  have hleading : ∀ rows : List Family, .fallback ∉ rows →
      (Table.mk (rows ++ rest)).leading = rows ++ (Table.mk rest).leading := by
    intro rows hrows
    apply List.takeWhile_append_of_pos
    intro row hrow
    exact decide_eq_true (ne_of_mem_of_not_mem hrow hrows)
  have hmem : ∀ row, row ∈ (Table.mk (before ++ rest)).leading ↔
      row ∈ (Table.mk (before' ++ rest)).leading := by
    intro row
    rw [hleading before hbefore, hleading before' fun hmem => hbefore (h.mem_iff.mpr hmem)]
    simp [h.mem_iff]
  by_cases hclaims : ∃ row : Family, row ≠ .fallback ∧ row.claims filetype = true
  · obtain ⟨row, hrow, hrowClaims⟩ := hclaims
    rw [family_of_claims hrow hrowClaims, family_of_claims hrow hrowClaims]
    simp only [hmem row]
  · have hnone : ∀ row : Family, row ≠ .fallback → row.claims filetype = false := by simpa using hclaims
    rw [family_of_unclaimed hnone, family_of_unclaimed hnone]

lemma family_empty (t : Table) : t.family "" = .fallback := by
  apply family_of_unclaimed
  intro row hrow
  cases row with
  | fallback => exact absurd rfl hrow
  | script => decide
  | shell => decide
  | cLike => decide

lemma family_resolve (t : Table) (path : Path) (default : String) :
    t.family (t.resolve path default) =
      if t.family path.extension = .fallback then t.family (if default = "" then unknownFiletype else default)
      else t.family path.extension := by
  by_cases hextension : t.family path.extension = .fallback
  · by_cases hdefault : default = "" <;> simp [resolve, hextension, hdefault]
  · have hne : path.extension ≠ "" := by
      intro hempty
      rw [hempty] at hextension
      exact hextension t.family_empty
    simp [resolve, hextension, hne]

lemma resolve_ne_empty (t : Table) (path : Path) (default : String) : t.resolve path default ≠ "" := by
  unfold resolve
  dsimp only
  split
  next h => exact h.1
  next =>
    split
    next h => exact h
    next => decide

end Table

theorem lookup_ignores_row_order (t : Table) (filetype : String) :
    (∀ f g : Family, f ≠ .fallback → g ≠ .fallback → f.Knows filetype → g.Knows filetype → f = g) ∧
    t.row filetype = .ok (t.family filetype) ∧
    (∀ f : Family, f ≠ .fallback → f.Knows filetype →
      t.delimiters filetype =
        if f ∈ t.rows.takeWhile (· ≠ .fallback) then f.delimiters else Family.fallback.delimiters) ∧
    ((∀ f : Family, f ≠ .fallback → ¬ f.Knows filetype) →
      t.delimiters filetype = Family.fallback.delimiters) ∧
    (∀ before before' rest : List Family, t.rows = before ++ rest → .fallback ∉ before → before.Perm before' →
      (Table.mk (before' ++ rest)).delimiters filetype = t.delimiters filetype) ∧
    ∀ (path : Path) (default : String),
      t.family (t.resolve path default) =
        (if t.family path.extension = .fallback then t.family (if default = "" then "unknown" else default)
          else t.family path.extension) ∧
      t.resolve path default ≠ "" := by
  refine ⟨?_, t.row_eq filetype, ?_, ?_, ?_, fun path default =>
    ⟨t.family_resolve path default, t.resolve_ne_empty path default⟩⟩
  · intro f g hf hg hfk hgk
    exact Family.eq_of_claims hf hg ((Family.claims_iff hf filetype).mpr hfk)
      ((Family.claims_iff hg filetype).mpr hgk)
  · intro f hf hknows
    rw [Table.delimiters, Table.family_of_claims hf ((Family.claims_iff hf filetype).mpr hknows),
      Table.leading]
    split <;> rfl
  · intro hunknown
    have hnone : ∀ f : Family, f ≠ .fallback → f.claims filetype = false := by
      intro f hf
      have h := mt (Family.claims_iff hf filetype).mp (hunknown f hf)
      simpa using h
    rw [Table.delimiters, Table.family_of_unclaimed hnone]
  · intro before before' rest hrows hbefore hperm
    obtain ⟨rows⟩ := t
    obtain rfl := hrows
    rw [Table.delimiters, Table.delimiters, Table.family_of_perm hperm hbefore]

def shortTable : Table where
  rows := [.shell, .cLike, .fallback, .script]

theorem lookup_of_odd_letters :
    Family.shell.Knows "\u017FH\n" ∧ shortTable.delimiters "\u017FH\n" = Family.shell.delimiters ∧
      (Table.mk [.cLike, .shell, .fallback, .script]).delimiters "\u017FH\n" = Family.shell.delimiters ∧
      Family.script.Knows "gAw\u212A" ∧ shortTable.delimiters "gAw\u212A" = Family.fallback.delimiters := by
  have hshell : Family.shell.Knows "\u017FH\n" :=
    ⟨"sh", by decide, _, .cons (.long rfl) (.cons .capital .nil), Or.inr rfl⟩
  have hscript : Family.script.Knows "gAw\u212A" :=
    ⟨"gawk", by decide, _, .cons .same (.cons .capital (.cons .same (.cons (.kelvin rfl) .nil))), Or.inl rfl⟩
  obtain ⟨-, -, hknown, -, hperm, -⟩ := lookup_ignores_row_order shortTable "\u017FH\n"
  obtain ⟨-, -, hbehind, -⟩ := lookup_ignores_row_order shortTable "gAw\u212A"
  have hlookup : shortTable.delimiters "\u017FH\n" = Family.shell.delimiters :=
    hknown .shell (by decide) hshell
  refine ⟨hshell, hlookup, ?_, hscript, hbehind .script (by decide) hscript⟩
  rw [← hlookup]
  exact hperm [.shell, .cLike] [.cLike, .shell] [.fallback, .script] rfl (by decide) (.swap _ _ _)

end CommentDoc
