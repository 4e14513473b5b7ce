import CommentDoc.Proofs.Command.Lawful
import CommentDoc.Proofs.Command.Selectors
import CommentDoc.Text.Unicode

namespace CommentDoc

namespace Selector

variable {before : List String}

lemma options_append (h : endOfOptions ∉ before) (after : List String) :
    options (before ++ after) = before ++ options after ∧
      (before ++ after).dropWhile (· ≠ endOfOptions) = after.dropWhile (· ≠ endOfOptions) := by
  have hall : ∀ t ∈ before, decide (t ≠ endOfOptions) = true := by
    intro t ht
    simpa using ne_of_mem_of_not_mem ht h
  exact ⟨List.takeWhile_append_of_pos hall, List.dropWhile_append_of_pos hall⟩

lemma options_cons {token : String} (h : token ≠ endOfOptions) (after : List String) :
    options (token :: after) = token :: options after :=
  List.takeWhile_cons_of_pos (by simpa using h)

lemma dropEarlier_insert {flag : String} (hflag : isSelector flag = false) (before after : List String) :
    ∃ b a, (∀ t ∈ b, t ∈ before) ∧ dropEarlier (before ++ after) = b ++ a ∧
      dropEarlier (before ++ flag :: after) = b ++ flag :: a := by
  induction before with
  | nil => exact ⟨[], dropEarlier after, by simp, rfl, by simp [dropEarlier, hflag]⟩
  | cons t before ih =>
    obtain ⟨b, a, hmem, hb, ha⟩ := ih
    have hany : (before ++ flag :: after).any isSelector = (before ++ after).any isSelector := by simp [hflag]
    have hcons : ∀ u ∈ b, u ∈ t :: before := fun u hu => List.mem_cons_of_mem t (hmem u hu)
    rw [List.cons_append, List.cons_append, dropEarlier, dropEarlier, hany, hb, ha]
    split
    · exact ⟨b, a, hcons, rfl, rfl⟩
    · exact ⟨t :: b, a, List.forall_mem_cons.mpr ⟨List.mem_cons_self, hcons⟩, rfl, rfl⟩

lemma keepLast_insert {flag : String} (hflag : isSelector flag = false) (hend : flag ≠ endOfOptions)
    (hbefore : endOfOptions ∉ before) (after : List String) :
    ∃ b a, endOfOptions ∉ b ∧ keepLast (before ++ after) = b ++ a ∧
      keepLast (before ++ flag :: after) = b ++ flag :: a := by
  have hkeep : ∀ tokens,
      keepLast tokens = dropEarlier (options tokens) ++ tokens.dropWhile (· ≠ endOfOptions) :=
    fun _ => rfl
  obtain ⟨b, a, hmem, hb, ha⟩ := dropEarlier_insert hflag before (options after)
  refine ⟨b, a ++ after.dropWhile (· ≠ endOfOptions), fun h => hbefore (hmem _ h), ?_, ?_⟩
  · rw [hkeep, (options_append hbefore after).1, (options_append hbefore after).2, hb, List.append_assoc]
  · rw [hkeep, (options_append hbefore _).1, (options_append hbefore _).2, options_cons hend, ha,
      List.dropWhile_cons_of_pos (by simpa using hend), List.append_assoc, List.cons_append]

end Selector

namespace Options

structure SameBut (o : OptionName) (d d' : Draft) : Prop where
  left : d'.left = d.left
  given : ∀ p ≠ o, d'.given.lookup p = d.given.lookup p

def readToken (d : Draft) (pending : Pending) (token : String) : Option (Draft × Pending) :=
  match pending with
  | some o => if looksLikeOption token then none else (d.give? o token).map (·, none)
  | none => if looksLikeOption token then readOption d token else some (d.leave token, none)

lemma read_cons (d : Draft) (pending : Pending) (token : String) (rest : List String) :
    read d pending (token :: rest) = (readToken d pending token).bind fun s => read s.1 s.2 rest := by
  cases pending with
  | some o =>
    rw [read, readToken]
    split
    · rfl
    · cases d.give? o token <;> rfl
  | none =>
    rw [read, readToken]
    split
    · cases readOption d token <;> rfl
    · rfl

variable {o p : OptionName} {d d' e e' : Draft} {value : String}

def Alike (o : OptionName) (r r' : Option (Draft × Pending)) : Prop :=
  ∀ d pending d' pending', r = some (d, pending) → r' = some (d', pending') →
    SameBut o d d' ∧ pending' = pending

lemma SameBut.leave (h : SameBut o d d') (token : String) : SameBut o (d.leave token) (d'.leave token) :=
  ⟨by rw [Draft.leave, Draft.leave, h.left], h.given⟩

lemma SameBut.give (h : SameBut o d d') (hd : d.give? p value = some e)
    (hd' : d'.give? p value = some e') : SameBut o e e' := by
  rw [eq_of_give hd, eq_of_give hd']
  exact ⟨h.left, fun q hq => by rw [List.lookup_append, List.lookup_append, h.given q hq]⟩

lemma SameBut.alike_give (h : SameBut o d d') (p : OptionName) (value : String) :
    Alike o ((d.give? p value).map (·, none)) ((d'.give? p value).map (·, none)) := by
  rintro e _ e' _ hr hr'
  obtain ⟨e, he, heq⟩ := Option.map_eq_some_iff.mp hr
  obtain ⟨e', he', heq'⟩ := Option.map_eq_some_iff.mp hr'
  obtain ⟨rfl, rfl⟩ := Prod.mk.inj heq
  obtain ⟨rfl, rfl⟩ := Prod.mk.inj heq'
  exact ⟨h.give he he', rfl⟩

lemma SameBut.alike_some (h : SameBut o d d') (pending : Pending) :
    Alike o (some (d, pending)) (some (d', pending)) := by
  rintro _ _ _ _ ⟨⟩ ⟨⟩
  exact ⟨h, rfl⟩

lemma SameBut.alike_cluster (h : SameBut o d d') (cs : List Char) :
    Alike o (cluster d cs) (cluster d' cs) := by
  induction cs generalizing d d' with
  | nil => exact h.alike_some none
  | cons c cs ih =>
    cases hc : OptionName.ofShort? c with
    | none =>
      simp only [cluster, hc]
      exact ih (h.leave _)
    | some p =>
      simp only [cluster, hc]
      split
      · split
        · exact h.alike_some _
        · exact h.alike_give p _
      · cases hd : d.give? p setFlag with
        | none => rintro _ _ _ _ ⟨⟩
        | some e =>
          cases hd' : d'.give? p setFlag with
          | none => rintro _ _ _ _ - ⟨⟩
          | some e' => exact ih (h.give hd hd')

lemma SameBut.alike_readOption (h : SameBut o d d') (token : String) :
    Alike o (readOption d token) (readOption d' token) := by
  simp only [readOption]
  split
  · exact h.alike_give _ _
  · split
    · exact h.alike_some _
    · exact h.alike_give _ _
  · split
    · split
      · exact (h.leave token).alike_some none
      · exact h.alike_cluster _
    · exact (h.leave token).alike_some none

lemma SameBut.alike_readToken (h : SameBut o d d') (pending : Pending) (token : String) :
    Alike o (readToken d pending token) (readToken d' pending token) := by
  cases pending with
  | some p =>
    simp only [readToken]
    split
    · rintro _ _ _ _ ⟨⟩
    · exact h.alike_give p token
  | none =>
    simp only [readToken]
    split
    · exact h.alike_readOption token
    · exact (h.leave token).alike_some none

lemma SameBut.read {tokens : List String} {pending : Pending} (h : SameBut o d d')
    (hread : read d pending tokens = some e)
    (hread' : read d' pending tokens = some e') : SameBut o e e' := by
  induction tokens generalizing d d' pending with
  | nil =>
    cases pending with
    | some p => cases hread
    | none =>
      obtain rfl := Option.some.inj hread
      obtain rfl := Option.some.inj hread'
      exact h
  | cons token tokens ih =>
    rw [read_cons] at hread hread'
    obtain ⟨⟨e₁, pending₁⟩, htoken, hread⟩ := Option.bind_eq_some_iff.mp hread
    obtain ⟨⟨e₁', pending₁'⟩, htoken', hread'⟩ := Option.bind_eq_some_iff.mp hread'
    obtain ⟨hsame, rfl⟩ := h.alike_readToken pending token _ _ _ _ htoken htoken'
    exact ih hsame hread hread'

variable {before after : List String} {flag : String}

lemma readToken_quietFlag (hflag : flag ∈ quietFlags) (d : Draft) :
    readToken d none flag = (d.give? .quiet setFlag).map (·, none) := by
  have hread : ∀ flag ∈ quietFlags, looksLikeOption flag = true ∧ cut flag = (flag, none) ∧
      OptionName.ofToken? flag = some .quiet := by
    decide
  obtain ⟨hlooks, hcut, htoken⟩ := hread flag hflag
  simp only [readToken, hlooks, if_true, readOption, hcut, htoken, OptionName.takesValue,
    Bool.false_eq_true, if_false]

lemma sameBut_give {o : OptionName} (h : d.give? o value = some d') : SameBut o d d' := by
  rw [eq_of_give h]
  refine ⟨rfl, fun p hp => ?_⟩
  have hother : [(o, value)].lookup p = none := by rw [List.lookup_cons, beq_false_of_ne hp, List.lookup_nil]
  rw [List.lookup_append, hother, Option.or_none]

lemma read_insert (hflag : flag ∈ quietFlags) {pending : Pending}
    (h : read d pending (before ++ after) = some e)
    (h' : read d pending (before ++ flag :: after) = some e') : SameBut .quiet e e' := by
  induction before generalizing d pending with
  | nil =>
    rw [List.nil_append, read_cons] at h'
    obtain ⟨⟨d₁, pending₁⟩, htoken, h'⟩ := Option.bind_eq_some_iff.mp h'
    cases pending with
    -- a value that is still to come cannot be the flag
    | some p =>
      have hlooks : ∀ flag ∈ quietFlags, looksLikeOption flag = true := by decide
      simp [readToken, hlooks flag hflag] at htoken
    | none =>
      rw [readToken_quietFlag hflag] at htoken
      obtain ⟨_, hgive, heq⟩ := Option.map_eq_some_iff.mp htoken
      obtain ⟨rfl, rfl⟩ := Prod.mk.inj heq
      exact (sameBut_give hgive).read h h'
  | cons token before ih =>
    rw [List.cons_append, read_cons] at h h'
    obtain ⟨⟨d₁, pending₁⟩, htoken, h⟩ := Option.bind_eq_some_iff.mp h
    obtain ⟨⟨d₁', pending₁'⟩, htoken', h'⟩ := Option.bind_eq_some_iff.mp h'
    obtain ⟨rfl, rfl⟩ := Prod.mk.inj (Option.some.inj (htoken.symm.trans htoken'))
    exact ih h h'

lemma drop_options (tokens : List String) :
    tokens.drop (Selector.options tokens).length = tokens.dropWhile (· ≠ Selector.endOfOptions) := by
  have hspan : Selector.options tokens ++ tokens.dropWhile (· ≠ Selector.endOfOptions) = tokens :=
    List.takeWhile_append_dropWhile
  have hdrop : (Selector.options tokens ++ tokens.dropWhile (· ≠ Selector.endOfOptions)).drop
      (Selector.options tokens).length =
      tokens.dropWhile (· ≠ Selector.endOfOptions) := List.drop_left
  rwa [hspan] at hdrop

lemma flag?_congr {given given' : List (OptionName × String)} (h : given'.lookup o = given.lookup o) :
    flag? given' o = flag? given o := by
  rw [flag?, flag?, h]

lemma parse?_insert (hflag : flag ∈ quietFlags) (hbefore : Selector.endOfOptions ∉ before)
    {options options' : Options}
    (h : parse? (before ++ after) = some options) (h' : parse? (before ++ flag :: after) = some options') :
    { options' with quiet := false } = { options with quiet := false } := by
  obtain ⟨hoptions, hrest⟩ := Selector.options_append hbefore after
  obtain ⟨hoptions', hrest'⟩ := Selector.options_append hbefore (flag :: after)
  have hend : ∀ flag ∈ quietFlags, flag ≠ Selector.endOfOptions := by decide
  rw [Selector.options_cons (hend flag hflag)] at hoptions'
  rw [List.dropWhile_cons_of_pos (by simpa using hend flag hflag)] at hrest'
  obtain ⟨d, hread, hpaths, hfunctions, hgenerics, houtput, hfiletype⟩ := exists_draft h
  obtain ⟨d', hread', hpaths', hfunctions', hgenerics', houtput', hfiletype'⟩ := exists_draft h'
  rw [hoptions] at hread
  rw [hoptions'] at hread'
  have hsame : SameBut .quiet d d' := read_insert hflag hread hread'
  rw [drop_options] at hpaths hpaths'
  rw [hrest', ← hrest, hsame.left, hpaths] at hpaths'
  rw [flag?_congr (hsame.given _ (by decide)), hfunctions] at hfunctions'
  rw [flag?_congr (hsame.given _ (by decide)), hgenerics] at hgenerics'
  rw [hsame.given _ (by decide), ← houtput] at houtput'
  rw [hsame.given _ (by decide), ← hfiletype] at hfiletype'
  rw [Option.some.inj hpaths', Option.some.inj hfunctions', Option.some.inj hgenerics', houtput', hfiletype']

end Options

namespace Invocation

lemma read_eq (tokens : List String) :
    read tokens =
      if (Selector.options tokens).any (· ∈ helpFlags) then .help
      else if (Selector.options tokens).any (· ∈ versionFlags) then .version
      else
        match Options.parse? tokens with
        | some options => .extract options
        | none => .usageError := rfl

lemma aloud_read_insert {before after : List String} {flag : String} (hflag : flag ∈ quietFlags)
    (hbefore : Selector.endOfOptions ∉ before) (h : read (before ++ after) ≠ .usageError)
    (h' : read (before ++ flag :: after) ≠ .usageError) :
    (read (before ++ flag :: after)).aloud = (read (before ++ after)).aloud := by
  have hother : ∀ flag ∈ quietFlags, flag ≠ Selector.endOfOptions ∧ flag ∉ helpFlags ∧
      flag ∉ versionFlags := by
    decide
  obtain ⟨hend, hhelp, hversion⟩ := hother flag hflag
  have hany : ∀ flags : List String, flag ∉ flags →
      (Selector.options (before ++ flag :: after)).any (· ∈ flags) =
        (Selector.options (before ++ after)).any (· ∈ flags) := by
    intro flags hflags
    rw [(Selector.options_append hbefore _).1, (Selector.options_append hbefore _).1,
      Selector.options_cons hend]
    simp [hflags]
  rw [read_eq (before ++ after)] at h ⊢
  rw [read_eq (before ++ flag :: after), hany _ hhelp, hany _ hversion] at h' ⊢
  split
  · rfl
  next hnohelp =>
    rw [if_neg hnohelp] at h h'
    split
    · rfl
    next hnoversion =>
      rw [if_neg hnoversion] at h h'
      cases hoptions : Options.parse? (before ++ after) with
      | none => simp [hoptions] at h
      | some options =>
        cases hoptions' : Options.parse? (before ++ flag :: after) with
        | none => simp [hoptions'] at h'
        | some options' =>
          exact congrArg Invocation.extract (Options.parse?_insert hflag hbefore hoptions hoptions')

end Invocation

end CommentDoc
