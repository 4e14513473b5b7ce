import CommentDoc.Command.Basic
import CommentDoc.Command.Options
import CommentDoc.Proofs.Text.Trimming
import CommentDoc.Text.Unicode

/-! Of the selectors before the end of the options only the last one stays. A command line asks
for both kinds of block only with a token that holds a selector and something else. -/

namespace CommentDoc

namespace Selector

/-- Of the selectors among the tokens only the last one is kept, where it stands, and of the other
tokens all are. -/
inductive LastKept : List String → List String → Prop
  | none {tokens} : (∀ t ∈ tokens, isSelector t = false) → LastKept tokens tokens
  | last {before selector after} : isSelector selector = true → (∀ t ∈ after, isSelector t = false) →
      LastKept (before ++ selector :: after) (before.filter (!isSelector ·) ++ selector :: after)

def options (tokens : List String) : List String :=
  tokens.takeWhile (· ≠ endOfOptions)

variable {tokens kept before after : List String} {selector : String}

lemma dropEarlier_of_none (h : ∀ t ∈ tokens, isSelector t = false) : dropEarlier tokens = tokens := by
  induction tokens with
  | nil => rfl
  | cons t tokens ih =>
    obtain ⟨ht, htokens⟩ := List.forall_mem_cons.mp h
    simp only [dropEarlier, ht, ih htokens, Bool.false_and, Bool.false_eq_true, if_false]

lemma dropEarlier_append (hs : isSelector selector = true) (hafter : ∀ t ∈ after, isSelector t = false) :
    dropEarlier (before ++ selector :: after) = before.filter (!isSelector ·) ++ selector :: after := by
  induction before with
  | nil =>
    have hany : after.any isSelector = false := by simpa using hafter
    simp [dropEarlier, hany, dropEarlier_of_none hafter]
  | cons t before ih =>
    have hany : (before ++ selector :: after).any isSelector = true := by simp [hs]
    rw [List.cons_append, dropEarlier, hany, Bool.and_true, ih]
    cases ht : isSelector t <;> simp [ht]

lemma exists_last (h : ∃ t ∈ tokens, isSelector t = true) :
    ∃ before selector after, tokens = before ++ selector :: after ∧ isSelector selector = true ∧
      ∀ t ∈ after, isSelector t = false := by
  obtain ⟨t, ht, hs⟩ := h
  have hsome : (tokens.reverse.find? isSelector).isSome :=
    List.find?_isSome.mpr ⟨t, List.mem_reverse.mpr ht, hs⟩
  obtain ⟨selector, hfind⟩ := Option.isSome_iff_exists.mp hsome
  obtain ⟨hselector, after, before, hsplit, hafter⟩ := List.find?_eq_some_iff_append.mp hfind
  refine ⟨before.reverse, selector, after.reverse, ?_, hselector, ?_⟩
  · rw [← List.reverse_reverse tokens, hsplit]
    simp
  · intro t ht
    simpa using hafter t (List.mem_reverse.mp ht)

lemma lastKept_iff : LastKept tokens kept ↔ dropEarlier tokens = kept := by
  constructor
  · rintro (hnone | ⟨hs, hafter⟩)
    · exact dropEarlier_of_none hnone
    · exact dropEarlier_append hs hafter
  · rintro rfl
    by_cases h : ∃ t ∈ tokens, isSelector t = true
    · obtain ⟨before, selector, after, rfl, hs, hafter⟩ := exists_last h
      rw [dropEarlier_append hs hafter]
      exact .last hs hafter
    · have hnone : ∀ t ∈ tokens, isSelector t = false := by simpa using h
      rw [dropEarlier_of_none hnone]
      exact .none hnone

lemma LastKept.sublist (h : LastKept tokens kept) : kept.Sublist tokens := by
  cases h with
  | none _ => exact List.Sublist.refl _
  | last _ _ => exact List.filter_sublist.append (List.Sublist.refl _)

lemma LastKept.filter_eq (h : LastKept tokens kept) :
    kept.filter (!isSelector ·) = tokens.filter (!isSelector ·) := by
  cases h with
  | none _ => rfl
  | last _ _ => simp

lemma LastKept.again (h : LastKept tokens kept) : LastKept kept kept := by
  cases h with
  | none hnone => exact .none hnone
  | @last before selector after hs hafter =>
    have hlast : LastKept (before.filter (!isSelector ·) ++ selector :: after)
      ((before.filter (!isSelector ·)).filter (!isSelector ·) ++ selector :: after) := .last hs hafter
    simpa only [List.filter_filter, Bool.and_self] using hlast

lemma LastKept.unique (h : LastKept tokens kept) {s t : String} (hs : s ∈ kept) (ht : t ∈ kept)
    (hss : isSelector s = true) (hst : isSelector t = true) : s = t := by
  cases h with
  | none hnone => exact absurd hss (by simp [hnone s hs])
  | @last before selector after _ hafter =>
    have heq : ∀ u ∈ before.filter (!isSelector ·) ++ selector :: after, isSelector u = true →
        u = selector := by
      intro u hu hsu
      rcases List.mem_append.mp hu with hu | hu
      · simp [hsu] at hu
      · rcases List.mem_cons.mp hu with hu | hu
        · exact hu
        · exact absurd hsu (by simp [hafter u hu])
    rw [heq s hs hss, heq t ht hst]

lemma options_keepLast (tokens : List String) : options (keepLast tokens) = dropEarlier (options tokens) ∧
    (keepLast tokens).dropWhile (· ≠ endOfOptions) = tokens.dropWhile (· ≠ endOfOptions) := by
  have hoptions : ∀ t ∈ dropEarlier (options tokens), decide (t ≠ endOfOptions) = true := by
    intro t ht
    have hmem : t ∈ options tokens := (lastKept_iff.mpr rfl).sublist.subset ht
    exact List.mem_takeWhile_imp (p := fun t => decide (t ≠ endOfOptions)) hmem
  have hrest : ∀ t ∈ (tokens.dropWhile (· ≠ endOfOptions)).head?, decide (t ≠ endOfOptions) = false := by
    intro t ht
    have hstop := List.head?_dropWhile_not (fun t => decide (t ≠ endOfOptions)) tokens
    rw [Option.mem_def.mp ht] at hstop
    exact hstop
  exact ⟨Text.takeWhile_append_stop hoptions hrest, Text.dropWhile_append_stop hoptions hrest⟩

lemma keepLast_keepLast (tokens : List String) : keepLast (keepLast tokens) = keepLast tokens := by
  obtain ⟨hoptions, hrest⟩ := options_keepLast tokens
  have hagain : dropEarlier (dropEarlier (options tokens)) = dropEarlier (options tokens) :=
    lastKept_iff.mp (lastKept_iff.mpr rfl : LastKept (options tokens) _).again
  have hkeep : keepLast (keepLast tokens) = dropEarlier (options (keepLast tokens)) ++
      (keepLast tokens).dropWhile (· ≠ endOfOptions) := rfl
  rw [hkeep, hrest, hoptions, hagain]
  rfl

end Selector

namespace Options

open Selector (isSelector)

def beforeValue (cs : List Char) : List Char :=
  cs.takeWhile fun c => c ≠ 'o' && c ≠ 't'

/-- A token that holds a selector and something else: a value behind an equals sign, or other
short options behind the same dash. -/
inductive Joins : String → Prop
  | value {flag : String} (text : String) : isSelector flag = true → Joins (flag ++ "=" ++ text)
  | shorts {token : String} {cs : List Char} {c : Char} : token.toList = '-' :: cs →
    cs.head? ≠ some '-' → 2 ≤ cs.length →
      c = 'f' ∨ c = 'g' → c ∈ beforeValue cs → Joins token

lemma not_joins {token : String} (hvalue : '=' ∉ token.toList)
    (hshorts : token.toList.length ≤ 2 ∨
      ('f' ∉ beforeValue (token.toList.drop 1) ∧ 'g' ∉ beforeValue (token.toList.drop 1))) :
    ¬ Joins token := by
  rintro (⟨text, _⟩ | ⟨hchars, _, hlength, hselector, hc⟩)
  · simp at hvalue
  · rw [hchars] at hshorts
    rcases hshorts with hshort | ⟨hf, hg⟩
    · simp only [List.length_cons] at hshort
      omega
    · rcases hselector with rfl | rfl
      · exact hf hc
      · exact hg hc

def Holds (o : OptionName) (token : String) : Prop :=
  OptionName.ofToken? token = some o ∨ Joins token

def asked (d : Draft) (pending : Pending) : List OptionName :=
  d.given.map Prod.fst ++ pending.toList

variable {d d' : Draft} {pending : Pending} {o p : OptionName} {token value : String}

lemma eq_of_give (h : d.give? p value = some d') : d' = { d with given := d.given ++ [(p, value)] } := by
  unfold Draft.give? at h
  split at h
  · cases h
  · exact (Option.some.inj h).symm

lemma asked_give (h : d.give? p value = some d') : asked d' none = asked d (some p) := by
  rw [eq_of_give h]
  simp [asked]

lemma mem_asked_some : o ∈ asked d (some p) ↔ o ∈ asked d none ∨ o = p := by
  simp [asked]

lemma beforeValue_other {c : Char} (h : OptionName.ofShort? c = none) (cs : List Char) :
    beforeValue (c :: cs) = c :: beforeValue cs := by
  have hother : ∀ p : OptionName, p ∈ OptionName.all → p.short ≠ c := by simpa [OptionName.ofShort?] using h
  have houtput : 'o' ≠ c := hother .output (by decide)
  have htype : 't' ≠ c := hother .filetype (by decide)
  simp [beforeValue, houtput.symm, htype.symm]

lemma beforeValue_flag (h : p.takesValue = false) (cs : List Char) :
    beforeValue (p.short :: cs) = p.short :: beforeValue cs := by
  cases p with
  | functions => rfl
  | generics => rfl
  | quiet => rfl
  | output => cases h
  | filetype => cases h

lemma asked_cluster_value {cs : List Char} (hp : p.takesValue = true)
    (h : cluster d (p.short :: cs) = some (d', pending)) :
    asked d' pending = asked d (some p) := by
  have hshort : OptionName.ofShort? p.short = some p := by cases p <;> rfl
  simp only [cluster, hshort, hp, if_true] at h
  split at h
  · obtain ⟨rfl, rfl⟩ := Prod.mk.inj (Option.some.inj h)
    rfl
  · obtain ⟨d₁, hgive, heq⟩ := Option.map_eq_some_iff.mp h
    obtain ⟨rfl, rfl⟩ := Prod.mk.inj heq
    exact asked_give hgive

lemma mem_asked_cluster {cs : List Char} (ho : o.takesValue = false) (h : cluster d cs = some (d', pending))
    (hmem : o ∈ asked d' pending) : o ∈ asked d none ∨ o.short ∈ beforeValue cs := by
  induction cs generalizing d with
  | nil =>
    obtain ⟨rfl, rfl⟩ := Prod.mk.inj (Option.some.inj h)
    exact Or.inl hmem
  | cons c cs ih =>
    cases hc : OptionName.ofShort? c with
    | none =>
      rw [cluster, hc] at h
      rw [beforeValue_other hc]
      exact (ih h).imp id (List.mem_cons_of_mem _)
    | some p =>
      obtain rfl : p.short = c := by simpa using List.find?_some hc
      cases hp : p.takesValue with
      | true =>
        rw [asked_cluster_value hp h, mem_asked_some] at hmem
        refine Or.inl (hmem.resolve_right ?_)
        rintro rfl
        cases ho.symm.trans hp
      | false =>
        simp only [cluster, hc, hp, Bool.false_eq_true, if_false] at h
        rw [beforeValue_flag hp]
        cases hgive : d.give? p setFlag with
        | none =>
          rw [hgive] at h
          cases h
        | some d₁ =>
          rw [hgive] at h
          rcases ih h with hmem | hmem
          · rw [asked_give hgive, mem_asked_some] at hmem
            rcases hmem with hmem | rfl
            · exact Or.inl hmem
            · exact Or.inr List.mem_cons_self
          · exact Or.inr (List.mem_cons_of_mem _ hmem)

lemma cut_some {name : String} (h : cut token = (name, some value)) : token = name ++ "=" ++ value := by
  unfold cut at h
  split at h
  next rest hrest =>
    obtain ⟨rfl, hvalue⟩ := Prod.mk.inj h
    obtain rfl := Option.some.inj hvalue
    have hspan := List.takeWhile_append_dropWhile (p := fun c => decide (c ≠ '=')) (l := token.toList)
    rw [hrest] at hspan
    apply String.toList_inj.mp
    simpa using hspan.symm
  next => cases h

lemma cut_none {name : String} (h : cut token = (name, none)) : token = name := by
  unfold cut at h
  split at h
  · cases h
  · exact (Prod.mk.inj h).1

lemma selector_cases (h : OptionName.ofToken? token = some o) :
    (o = .functions → token ∈ Selector.functionFlags) ∧ (o = .generics → token ∈ Selector.genericFlags) := by
  have hfound := List.find?_some h
  simp only [Bool.or_eq_true, decide_eq_true_eq] at hfound
  constructor
  · rintro rfl
    rcases hfound with rfl | hshort
    · decide
    · obtain rfl : token = "-f" := String.toList_inj.mp hshort
      decide
  · rintro rfl
    rcases hfound with rfl | hshort
    · decide
    · obtain rfl : token = "-g" := String.toList_inj.mp hshort
      decide

lemma isSelector_of_ofToken? (ho : o = .functions ∨ o = .generics) (h : OptionName.ofToken? token = some o) :
    isSelector token = true := by
  obtain ⟨hfunctions, hgenerics⟩ := selector_cases h
  rcases ho with ho | ho
  · simp [isSelector, hfunctions ho]
  · simp [isSelector, hgenerics ho]

lemma mem_asked_readOption (ho : o = .functions ∨ o = .generics) (h : readOption d token = some (d', pending))
    (hmem : o ∈ asked d' pending) : o ∈ asked d none ∨ Holds o token := by
  have hvalue : o.takesValue = false := by rcases ho with rfl | rfl <;> rfl
  cases hcut : cut token with | mk name value? =>
  simp only [readOption, hcut] at h
  split at h
  next p value hp =>
    obtain ⟨d₁, hgive, heq⟩ := Option.map_eq_some_iff.mp h
    obtain ⟨rfl, rfl⟩ := Prod.mk.inj heq
    rw [asked_give hgive, mem_asked_some] at hmem
    refine hmem.imp id ?_
    rintro rfl
    rw [cut_some hcut]
    exact Or.inr (.value _ (isSelector_of_ofToken? ho hp))
  next p hp =>
    have hasked : asked d' pending = asked d (some p) := by
      split at h
      · obtain ⟨rfl, rfl⟩ := Prod.mk.inj (Option.some.inj h)
        rfl
      · obtain ⟨d₁, hgive, heq⟩ := Option.map_eq_some_iff.mp h
        obtain ⟨rfl, rfl⟩ := Prod.mk.inj heq
        exact asked_give hgive
    rw [hasked, mem_asked_some] at hmem
    refine hmem.imp id ?_
    rintro rfl
    rw [cut_none hcut]
    exact Or.inl hp
  next hp =>
    split at h
    next c e rest hchars =>
      split at h
      · obtain ⟨rfl, rfl⟩ := Prod.mk.inj (Option.some.inj h)
        exact Or.inl hmem
      next hc =>
        refine (mem_asked_cluster hvalue h hmem).imp id fun hshort => Or.inr ?_
        refine .shorts hchars (by simpa using hc) (by simp) ?_ hshort
        exact ho.imp (by rintro rfl; rfl) (by rintro rfl; rfl)
    next =>
      obtain ⟨rfl, rfl⟩ := Prod.mk.inj (Option.some.inj h)
      exact Or.inl hmem

lemma mem_asked_read [Text.Edition] {tokens : List String} (ho : o = .functions ∨ o = .generics)
    (h : read d pending tokens = some d')
    (hmem : o ∈ asked d' none) : o ∈ asked d pending ∨ ∃ token ∈ tokens, Holds o token := by
  induction tokens generalizing d pending with
  | nil =>
    cases pending with
    | none =>
      obtain rfl := Option.some.inj h
      exact Or.inl hmem
    | some p => cases h
  | cons token tokens ih =>
    -- what is asked for after the token was asked for before it, or the token holds it
    have hstep : ∀ {d₁ pending₁}, read d₁ pending₁ tokens = some d' →
        (o ∈ asked d₁ pending₁ → o ∈ asked d pending ∨ Holds o token) →
        o ∈ asked d pending ∨ ∃ token' ∈ token :: tokens, Holds o token' := by
      intro d₁ pending₁ hread hback
      rcases ih hread with hmem | ⟨token', htoken, hholds⟩
      · exact (hback hmem).imp id fun hholds => ⟨token, List.mem_cons_self, hholds⟩
      · exact Or.inr ⟨token', List.mem_cons_of_mem _ htoken, hholds⟩
    cases pending with
    | some p =>
      rw [read] at h
      split at h
      · cases h
      · split at h
        next d₁ hgive =>
          apply hstep h
          rw [asked_give hgive]
          exact Or.inl
        next => cases h
    | none =>
      rw [read] at h
      split at h
      · split at h
        next d₁ pending₁ hoption => exact hstep h (mem_asked_readOption ho hoption)
        next => cases h
      · exact hstep h Or.inl

lemma mem_of_flag? {given : List (OptionName × String)} (h : flag? given o = some true) :
    o ∈ given.map Prod.fst := by
  cases hlookup : given.lookup o with
  | none => simp [flag?, hlookup] at h
  | some value =>
    obtain ⟨before, after, rfl, -⟩ := List.lookup_eq_some_iff.mp hlookup
    simp

lemma exists_draft [Text.Edition] {tokens : List String} {options : Options}
    (h : parse? tokens = some options) :
    ∃ d, read ⟨[], []⟩ none (Selector.options tokens) = some d ∧
      ((pathTokens? (d.left ++ tokens.drop (Selector.options tokens).length)).bind paths? =
        some options.paths) ∧
      flag? d.given .functions = some options.functions ∧ flag? d.given .generics = some options.generics ∧
      options.output = d.given.lookup .output ∧ options.filetype = d.given.lookup .filetype := by
  simp only [parse?, bind, Option.bind_eq_some_iff, pure, Option.some.injEq] at h
  obtain ⟨d, hread, pathTokens, hpathTokens, paths, hpaths, functions, hfunctions, generics, hgenerics,
    -, -, rfl⟩ := h
  exact ⟨d, hread, Option.bind_eq_some_iff.mpr ⟨pathTokens, hpathTokens, hpaths⟩, hfunctions, hgenerics,
    rfl, rfl⟩

lemma exists_holds [Text.Edition] {tokens : List String} {d : Draft} (ho : o = .functions ∨ o = .generics)
    (hread : read ⟨[], []⟩ none tokens = some d) (hflag : flag? d.given o = some true) :
    ∃ token ∈ tokens, Holds o token := by
  have hmem : o ∈ asked d none := by simpa [asked] using mem_of_flag? hflag
  exact (mem_asked_read ho hread hmem).resolve_left (by simp [asked])

lemma selection_of_separate [Text.Edition] {tokens kept : List String} {options : Options}
    (hkept : Selector.LastKept tokens kept)
    (hjoins : ∀ token ∈ tokens, ¬ Joins token) {d : Draft} (hread : read ⟨[], []⟩ none kept = some d)
    (hfunctions : flag? d.given .functions = some options.functions)
    (hgenerics : flag? d.given .generics = some options.generics) :
    ¬ (options.functions = true ∧ options.generics = true) := by
  rintro ⟨hf, hg⟩
  rw [hf] at hfunctions
  rw [hg] at hgenerics
  have hseparate : ∀ {o token}, token ∈ kept → Holds o token → OptionName.ofToken? token = some o :=
    fun htoken hholds => hholds.resolve_right (hjoins _ (hkept.sublist.subset htoken))
  obtain ⟨s, hs, hsholds⟩ := exists_holds (Or.inl rfl) hread hfunctions
  obtain ⟨t, ht, htholds⟩ := exists_holds (Or.inr rfl) hread hgenerics
  have hs' := hseparate hs hsholds
  have ht' := hseparate ht htholds
  obtain rfl := hkept.unique hs ht (isSelector_of_ofToken? (Or.inl rfl) hs')
    (isSelector_of_ofToken? (Or.inr rfl) ht')
  cases hs'.symm.trans ht'

end Options

lemma Invocation.parse?_of_extract [Text.Edition] {tokens : List String} {options : Options}
    (h : Invocation.parse tokens = .extract options) :
    Options.parse? (Selector.keepLast tokens) = some options := by
  unfold Invocation.parse Invocation.read at h
  simp only at h
  split at h
  · cases h
  · split at h
    · cases h
    · split at h
      next options' hparse =>
        rw [hparse, Invocation.extract.inj h]
      next => cases h

lemma Command.exists_selection {options : Options}
    (h : ¬ (options.functions = true ∧ options.generics = true)) :
    ∃ selection, Command.selection? options = .ok selection := by
  unfold Command.selection?
  rw [if_neg (by simpa using h)]
  split
  · exact ⟨_, rfl⟩
  · split <;> exact ⟨_, rfl⟩

theorem only_last_selector_stays [Text.Edition] (tokens : List String) :
    (Selector.keepLast tokens).Sublist tokens ∧
    (Selector.keepLast tokens).filter (!Selector.isSelector ·) = tokens.filter (!Selector.isSelector ·) ∧
    (Selector.keepLast tokens).dropWhile (· ≠ Selector.endOfOptions) =
      tokens.dropWhile (· ≠ Selector.endOfOptions) ∧
    Selector.LastKept (Selector.options tokens) (Selector.options (Selector.keepLast tokens)) ∧
    Selector.keepLast (Selector.keepLast tokens) = Selector.keepLast tokens ∧
    (∀ s ∈ Selector.options (Selector.keepLast tokens), ∀ t ∈ Selector.options (Selector.keepLast tokens),
      s ∈ Selector.functionFlags → t ∉ Selector.genericFlags) ∧
    ((∀ token ∈ Selector.options tokens, ¬ Options.Joins token) →
      ∀ options, Invocation.parse tokens = .extract options →
        ∃ selection, Command.selection? options = .ok selection) := by
  obtain ⟨hoptions, hrest⟩ := Selector.options_keepLast tokens
  have hkept : Selector.LastKept (Selector.options tokens) (Selector.options (Selector.keepLast tokens)) :=
    Selector.lastKept_iff.mpr hoptions.symm
  have hspan : ∀ ts : List String, Selector.options ts ++ ts.dropWhile (· ≠ Selector.endOfOptions) = ts :=
    fun ts => List.takeWhile_append_dropWhile
  refine ⟨?_, ?_, hrest, hkept, Selector.keepLast_keepLast tokens, ?_, ?_⟩
  · have hsublist := hkept.sublist.append (List.Sublist.refl (tokens.dropWhile (· ≠ Selector.endOfOptions)))
    rwa [hspan, ← hrest, hspan] at hsublist
  · rw [← hspan (Selector.keepLast tokens), hrest, List.filter_append, hkept.filter_eq,
      ← List.filter_append, hspan]
  · intro s hs t ht hfunction hgeneric
    obtain rfl := hkept.unique hs ht (by simp [Selector.isSelector, hfunction])
      (by simp [Selector.isSelector, hgeneric])
    have hapart : ∀ flag ∈ Selector.functionFlags, flag ∉ Selector.genericFlags := by decide
    exact hapart s hfunction hgeneric
  · intro hjoins options hparse
    obtain ⟨d, hread, -, hfunctions, hgenerics, -⟩ :=
      Options.exists_draft (Invocation.parse?_of_extract hparse)
    exact Command.exists_selection (Options.selection_of_separate hkept hjoins hread hfunctions hgenerics)

def manySelectors : List String :=
  ["-g", "-ofg", "-f", "a.sh", "--", "-g", "--"]

theorem last_of_many_selectors_stays :
    (∀ token ∈ Selector.options manySelectors, ¬ Options.Joins token) ∧
      Selector.keepLast manySelectors = ["-ofg", "-f", "a.sh", "--", "-g", "--"] ∧
      Selector.keepLast (Selector.keepLast manySelectors) = Selector.keepLast manySelectors ∧
      ∃ options, Invocation.parse manySelectors = .extract options ∧ options.functions = true ∧
        options.paths = [some "a.sh", some "-g", some "--"] ∧
        ∃ selection, Command.selection? options = .ok selection := by
  obtain ⟨-, -, -, -, hagain, -, hselection⟩ := only_last_selector_stays manySelectors
  have hjoins : ∀ token ∈ Selector.options manySelectors, ¬ Options.Joins token := by
    have hoptions : Selector.options manySelectors = ["-g", "-ofg", "-f", "a.sh"] := by decide
    rw [hoptions]
    intro token htoken
    apply Options.not_joins
    · revert token
      decide
    · revert token
      decide
  have hparse : Invocation.parse manySelectors =
      .extract ⟨[some "a.sh", some "-g", some "--"], true, false, some "fg", none, false⟩ := by decide +kernel
  exact ⟨hjoins, by decide, hagain, _, hparse, rfl, rfl, hselection hjoins _ hparse⟩

end CommentDoc
