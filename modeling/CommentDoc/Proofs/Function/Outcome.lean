import CommentDoc.Proofs.Function.Faults
import CommentDoc.Proofs.Function.RoundTrip
import CommentDoc.Text.Unicode

namespace CommentDoc

namespace Header

structure Declares (header word rest : List Char) : Prop where
  word_ne_nil : word ≠ []
  letters : ∀ c ∈ word, c.isAlpha = true
  blanks : ∃ blanks, blanks ≠ [] ∧ (∀ c ∈ blanks, Text.isBlank c = true) ∧ header = word ++ (blanks ++ rest)
  start : ∃ c ∈ rest.head?, Foot.isNameStart c = true

def Title (header text : List Char) : Prop :=
  Declares header Foot.functionWord text ∨ (∀ rest, ¬ Declares header Foot.functionWord rest) ∧ text = header

structure LongestName (text name : List Char) : Prop where
  ne_nil : name ≠ []
  chars : ∀ c ∈ name, isNameChar c = true
  stops : ∃ rest, text = name ++ rest ∧ ∀ c ∈ rest.head?, isNameChar c = false

lemma isAlphanum_of_isAlpha {c : Char} (h : c.isAlpha = true) : c.isAlphanum = true := by
  rw [Char.isAlphanum, h, Bool.true_or]

lemma isNameChar_of_isAlpha {c : Char} (h : c.isAlpha = true) : isNameChar c = true := by
  simp [isNameChar, isAlphanum_of_isAlpha h]

lemma isNameChar_of_isNameStart {c : Char} (h : Foot.isNameStart c = true) : isNameChar c = true := by
  simp only [Foot.isNameStart, Bool.or_eq_true, beq_iff_eq] at h
  rcases h with h | rfl
  · exact isNameChar_of_isAlpha h
  · decide

lemma isAlpha_of_isBlank {c : Char} (h : Text.isBlank c = true) : c.isAlpha = false := by
  cases ha : c.isAlpha with
  | false => rfl
  | true =>
    rw [isBlank_of_isAlphanum (isAlphanum_of_isAlpha ha)] at h
    cases h

lemma afterBlanks?_blanks {blanks rest : List Char} (hne : blanks ≠ [])
    (hblanks : ∀ c ∈ blanks, Text.isBlank c = true)
    (hrest : ∀ c ∈ rest.head?, Text.isBlank c = false) : Foot.afterBlanks? (blanks ++ rest) = some rest := by
  obtain ⟨b, blanks, rfl⟩ := List.exists_cons_of_ne_nil hne
  obtain ⟨hb, hblanks⟩ := List.forall_mem_cons.mp hblanks
  rw [List.cons_append, Foot.afterBlanks?, if_pos hb, Text.trimStart,
    Text.dropWhile_append_stop hblanks hrest]

lemma eq_append_of_afterBlanks? {s rest : List Char} (h : Foot.afterBlanks? s = some rest) :
    ∃ blanks, blanks ≠ [] ∧ (∀ c ∈ blanks, Text.isBlank c = true) ∧ s = blanks ++ rest := by
  cases s with
  | nil => cases h
  | cons b s =>
    rw [Foot.afterBlanks?] at h
    split at h
    next hb =>
      obtain rfl := Option.some.inj h
      refine ⟨b :: s.takeWhile Text.isBlank, by simp, ?_, ?_⟩
      · exact List.forall_mem_cons.mpr ⟨hb, fun c hc => List.mem_takeWhile_imp hc⟩
      · rw [Text.trimStart, List.cons_append, List.takeWhile_append_dropWhile]
    next => cases h

namespace Declares

variable {header word rest : List Char}

lemma isBlank_rest (h : Declares header word rest) : ∀ c ∈ rest.head?, Text.isBlank c = false := by
  obtain ⟨c, hc, hstart⟩ := h.start
  intro d hd
  obtain rfl := Option.mem_unique hc hd
  exact isBlank_of_isNameChar (isNameChar_of_isNameStart hstart)

lemma declared?_eq (h : Declares header word rest) : declared? header = some word := by
  obtain ⟨blanks, hne, hblanks, rfl⟩ := h.blanks
  have hstop : ∀ c ∈ (blanks ++ rest).head?, c.isAlpha = false := by
    obtain ⟨b, blanks, rfl⟩ := List.exists_cons_of_ne_nil hne
    rintro _ ⟨⟩
    exact isAlpha_of_isBlank (hblanks b List.mem_cons_self)
  have htake := Text.takeWhile_append_stop h.letters hstop
  have hdrop := Text.dropWhile_append_stop h.letters hstop
  have hafter := afterBlanks?_blanks hne hblanks h.isBlank_rest
  obtain ⟨c, hc, hstart⟩ := h.start
  obtain ⟨tail, rfl⟩ := List.head?_eq_some_iff.mp hc
  obtain ⟨d, word, rfl⟩ := List.exists_cons_of_ne_nil h.word_ne_nil
  simp only [declared?, htake, hdrop, hafter, hstart, if_true]

lemma trimStart_drop (h : Declares header word rest) : Text.trimStart (header.drop word.length) = rest := by
  obtain ⟨blanks, -, hblanks, rfl⟩ := h.blanks
  rw [List.drop_left, Text.trimStart, Text.dropWhile_append_stop hblanks h.isBlank_rest]

lemma isNameChar_head (h : Declares header word rest) : ∃ c ∈ header.head?, isNameChar c = true := by
  obtain ⟨blanks, -, -, rfl⟩ := h.blanks
  obtain ⟨c, word, rfl⟩ := List.exists_cons_of_ne_nil h.word_ne_nil
  exact ⟨c, rfl, isNameChar_of_isAlpha (h.letters c List.mem_cons_self)⟩

end Declares

lemma declares_of_declared? {header word : List Char} (h : declared? header = some word) :
    ∃ rest, Declares header word rest := by
  have hspan := List.takeWhile_append_dropWhile (p := Char.isAlpha) (l := header)
  unfold declared? at h
  split at h
  next c tail d rest htake hafter =>
    split at h
    next hstart =>
      obtain rfl := Option.some.inj h
      obtain ⟨blanks, hne, hblanks, hdrop⟩ := eq_append_of_afterBlanks? hafter
      refine ⟨d :: rest, by simp, ?_, ⟨blanks, hne, hblanks, ?_⟩, d, rfl, hstart⟩
      · intro e he
        rw [← htake] at he
        exact List.mem_takeWhile_imp he
      · rw [← hspan, htake, hdrop]
    next => cases h
  next => cases h

lemma name_of_declares {header word rest : List Char} (h : Declares header word rest) :
    Header.name header = if word = Foot.functionWord then leadingName rest else .error .notFunction := by
  rw [Header.name, h.declared?_eq]
  simp only [h.trimStart_drop]

lemma name_of_not_declares {header : List Char} (h : ∀ word rest, ¬ Declares header word rest) :
    Header.name header = leadingName header := by
  cases hd : declared? header with
  | none => rw [Header.name, hd]
  | some word =>
    obtain ⟨rest, hdeclares⟩ := declares_of_declared? hd
    exact absurd hdeclares (h word rest)

lemma leadingName_of_head {text : List Char} (h : ∃ c ∈ text.head?, isNameChar c = true) :
    ∃ name, leadingName text = .ok name ∧ LongestName text name := by
  obtain ⟨c, hc, hname⟩ := h
  obtain ⟨tail, rfl⟩ := List.head?_eq_some_iff.mp hc
  have htake : (c :: tail).takeWhile isNameChar = c :: tail.takeWhile isNameChar :=
    List.takeWhile_cons_of_pos hname
  have hspan := List.takeWhile_append_dropWhile (p := isNameChar) (l := c :: tail)
  refine ⟨(c :: tail).takeWhile isNameChar, ?_, by simp [htake], fun d hd => List.mem_takeWhile_imp hd,
    _, hspan.symm, ?_⟩
  · rw [leadingName, htake]
  · intro d hd
    have hstop := List.head?_dropWhile_not isNameChar (c :: tail)
    rw [Option.mem_def.mp hd] at hstop
    simpa using hstop

lemma leadingName_of_not_head {text : List Char} (h : ∀ c ∈ text.head?, isNameChar c = false) :
    leadingName text = .error .noName := by
  have htake : text.takeWhile isNameChar = [] := by
    cases text with
    | nil => rfl
    | cons c text => exact List.takeWhile_cons_of_neg (by simp [h c rfl])
  rw [leadingName, htake]

/-- What a header comes to: it declares something else, it has no name, or it names a function. -/
inductive Says (header : List Char) : Except Fault (List Char) → Prop
  | other {word rest : List Char} : Declares header word rest → word ≠ Foot.functionWord →
    Says header (.error .notFunction)
  | nameless : (∀ c ∈ header.head?, isNameChar c = false) → Says header (.error .noName)
  | named {title name : List Char} : (∀ word rest, Declares header word rest → word = Foot.functionWord) →
      Title header title → LongestName title name → Says header (.ok name)

lemma says_of_declares {header word rest : List Char} (h : Declares header word rest) :
    Says header (Header.name header) := by
  rw [name_of_declares h]
  by_cases hf : word = Foot.functionWord
  · subst hf
    obtain ⟨c, hc, hstart⟩ := h.start
    obtain ⟨name, hname, hlongest⟩ := leadingName_of_head ⟨c, hc, isNameChar_of_isNameStart hstart⟩
    rw [if_pos rfl, hname]
    refine .named ?_ (Or.inl h) hlongest
    intro word' rest' h'
    exact Option.some.inj (h'.declared?_eq.symm.trans h.declared?_eq)
  · rw [if_neg hf]
    exact .other h hf

lemma says_of_not_declares {header : List Char} (h : ∀ word rest, ¬ Declares header word rest) :
    Says header (Header.name header) := by
  rw [name_of_not_declares h]
  by_cases hh : ∃ c ∈ header.head?, isNameChar c = true
  · obtain ⟨name, hname, hlongest⟩ := leadingName_of_head hh
    rw [hname]
    refine .named ?_ (Or.inr ⟨h _, rfl⟩) hlongest
    intro word rest hd
    exact absurd hd (h word rest)
  · have hnone : ∀ c ∈ header.head?, isNameChar c = false := by
      intro c hc
      exact eq_false_of_ne_true fun hname => hh ⟨c, hc, hname⟩
    rw [leadingName_of_not_head hnone]
    exact .nameless hnone

lemma says_name (header : List Char) : Says header (Header.name header) := by
  by_cases h : ∃ word rest, Declares header word rest
  · obtain ⟨word, rest, h⟩ := h
    exact says_of_declares h
  · apply says_of_not_declares
    intro word rest hd
    exact h ⟨word, rest, hd⟩

lemma LongestName.isNameChar_head {text name : List Char} (h : LongestName text name) :
    ∃ c ∈ text.head?, isNameChar c = true := by
  obtain ⟨rest, rfl, -⟩ := h.stops
  obtain ⟨c, name, rfl⟩ := List.exists_cons_of_ne_nil h.ne_nil
  exact ⟨c, rfl, h.chars c List.mem_cons_self⟩

lemma Title.isNameChar_head {header title name : List Char} (h : Title header title)
    (hname : LongestName title name) :
    ∃ c ∈ header.head?, isNameChar c = true := by
  rcases h with h | ⟨-, rfl⟩
  · exact h.isNameChar_head
  · exact hname.isNameChar_head

lemma not_nameless {header : List Char} (h : ∃ c ∈ header.head?, isNameChar c = true) :
    ¬ ∃ c ∈ header.head?, isNameChar c = false := by
  rintro ⟨d, hd, hfalse⟩
  obtain ⟨c, hc, htrue⟩ := h
  obtain rfl := Option.mem_unique hc hd
  rw [htrue] at hfalse
  cases hfalse

lemma name_eq_notFunction_iff {header : List Char} :
    Header.name header = .error .notFunction ↔
    ∃ word rest, Declares header word rest ∧ word ≠ Foot.functionWord := by
  have hsays := says_name header
  generalize Header.name header = result at hsays
  cases hsays with
  | other hdeclares hword => exact ⟨fun _ => ⟨_, _, hdeclares, hword⟩, fun _ => rfl⟩
  | nameless hnone =>
    refine ⟨nofun, ?_⟩
    rintro ⟨word, rest, hdeclares, -⟩
    obtain ⟨c, hc, hname⟩ := hdeclares.isNameChar_head
    rw [hnone c hc] at hname
    cases hname
  | named hfunction _ _ =>
    refine ⟨nofun, ?_⟩
    rintro ⟨word, rest, hdeclares, hword⟩
    exact absurd (hfunction word rest hdeclares) hword

lemma name_eq_noName_iff {header : List Char} (hne : header ≠ []) :
    Header.name header = .error .noName ↔ ∃ c ∈ header.head?, isNameChar c = false := by
  have hsays := says_name header
  generalize Header.name header = result at hsays
  cases hsays with
  | other hdeclares _ => exact ⟨nofun, fun h => absurd h (not_nameless hdeclares.isNameChar_head)⟩
  | nameless hnone =>
    obtain ⟨c, header, rfl⟩ := List.exists_cons_of_ne_nil hne
    exact ⟨fun _ => ⟨c, rfl, hnone c rfl⟩, fun _ => rfl⟩
  | named _ htitle hname => exact ⟨nofun, fun h => absurd h (not_nameless (htitle.isNameChar_head hname))⟩

lemma exists_name {header : List Char} (hfunction : Header.name header ≠ .error .notFunction)
    (hnamed : Header.name header ≠ .error .noName) :
    ∃ name title, Header.name header = .ok name ∧ Title header title ∧ LongestName title name := by
  have hsays := says_name header
  generalize Header.name header = result at hsays hfunction hnamed
  cases hsays with
  | other _ _ => exact absurd rfl hfunction
  | nameless _ => exact absurd rfl hnamed
  | named _ htitle hname => exact ⟨_, _, rfl, htitle, hname⟩

end Header

namespace FunctionContent

lemma parse_of_blank [Text.Edition] {captured : List String} (h : ∀ text ∈ captured, IsBlank text) :
    parse captured = .error .blank := by
  have hdrop : (captured.map String.toList).dropWhile isBlankLine = [] := by
    apply List.dropWhile_eq_nil_iff.mpr
    intro line hl
    obtain ⟨text, ht, rfl⟩ := List.mem_map.mp hl
    exact isBlankLine_iff.mpr (h text ht)
  simp only [parse, hdrop]

lemma parse_of_firstText [Text.Edition] {captured : List String} {k : Nat} {text : String}
    (h : FirstText captured k text) :
    parse captured =
      (ofHeader (Text.trim text.toList) ((captured.drop (k + 1)).map String.toList)).mapError
        (.header · k) := by
  obtain ⟨hk, htext⟩ := List.getElem?_eq_some_iff.mp h.here
  have hsplit : captured.map String.toList =
      (captured.take k).map String.toList ++ text.toList :: (captured.drop (k + 1)).map String.toList := by
    rw [← List.map_cons, ← List.map_append, ← htext, ← List.drop_eq_getElem_cons hk, List.take_append_drop]
  have hblanks : ∀ line ∈ (captured.take k).map String.toList, isBlankLine line = true := by
    intro line hl
    obtain ⟨t, ht, rfl⟩ := List.mem_map.mp hl
    exact isBlankLine_iff.mpr (h.before t ht)
  have hstop : ∀ line ∈ (text.toList :: (captured.drop (k + 1)).map String.toList).head?,
      isBlankLine line = false := by
    rintro _ ⟨⟩
    exact eq_false_of_ne_true fun hb => h.notBlank (isBlankLine_iff.mp hb)
  have hdrop := Text.dropWhile_append_stop hblanks hstop
  have htake := Text.takeWhile_append_stop hblanks hstop
  have hlength : ((captured.take k).map String.toList).length = k := by
    rw [List.length_map, List.length_take, Nat.min_eq_left (Nat.le_of_lt hk)]
  rw [← hsplit] at hdrop htake
  simp only [parse, hdrop, htake, hlength]

lemma exists_firstText {captured : List String} (h : ¬ ∀ text ∈ captured, IsBlank text) :
    ∃ k text, FirstText captured k text := by
  cases hd : (captured.map String.toList).dropWhile isBlankLine with
  | nil =>
    refine absurd ?_ h
    intro text ht
    exact isBlankLine_iff.mp (List.dropWhile_eq_nil_iff.mp hd text.toList (List.mem_map_of_mem ht))
  | cons header body =>
    obtain ⟨text, -, hfirst⟩ := firstText_of_dropWhile hd
    exact ⟨_, text, hfirst⟩

end FunctionContent

namespace Block

variable [Text.Edition]

def missingTitle (b : Block) (line : Nat) : Failure where
  kind := .missingTitle
  message := "missing title in function block"
  details := [("file_path", .text b.file), ("line_number", .int line)]

def otherDeclaration (b : Block) (line : Nat) : Failure where
  kind := .nonFunctionBlock
  message := "ignoring non-function block"
  details := [("file_path", .text b.file), ("line_number", .int line)]

variable {b : Block}

lemma documentation_of_blank (h : ∀ text ∈ b.captured, IsBlank text) :
    b.documentation =
      (.error (b.missingTitle b.lines.initial),
        [⟨.warning, "empty function block", b.file, b.lines.initial⟩]) := by
  rw [documentation, FunctionContent.parse_of_blank h]
  rfl

lemma documentation_of_fault {k : Nat} {text : String} (h : FirstText b.captured k text)
    {fault : Header.Fault}
    (hname : Header.name (Text.trim text.toList) = .error fault) :
    b.documentation = (.error ((ContentFault.header fault k).failure b.file b.lines.initial), []) := by
  rw [documentation, FunctionContent.parse_of_firstText h, FunctionContent.ofHeader, hname]
  rfl

lemma documentation_of_name {k : Nat} {text : String} (h : FirstText b.captured k text)
    {name : List Char}
    (hname : Header.name (Text.trim text.toList) = .ok name) :
    let body := Body.parse ((b.captured.drop (k + 1)).map String.toList)
    b.documentation = (.ok
      ⟨String.ofList name, String.ofList (Header.shortDescription (Text.trim text.toList)),
      body.members, body.paragraphs⟩, []) := by
  rw [documentation, FunctionContent.parse_of_firstText h, FunctionContent.ofHeader, hname]
  rfl

lemma documentation_eq_fault_iff {k : Nat} {text : String}
    (h : FirstText b.captured k text) (fault : Header.Fault) :
    b.documentation = (.error ((ContentFault.header fault k).failure b.file b.lines.initial), []) ↔
      Header.name (Text.trim text.toList) = .error fault := by
  refine ⟨fun hdoc => ?_, documentation_of_fault h⟩
  cases hname : Header.name (Text.trim text.toList) with
  | ok name => cases hdoc.symm.trans (documentation_of_name h hname)
  | error fault' =>
    -- the two faults have different messages
    have hsame := hdoc.symm.trans (documentation_of_fault h hname)
    cases fault <;> cases fault' <;> first | rfl | cases hsame

lemma documentation_eq_blank_iff :
    b.documentation =
        (.error (b.missingTitle b.lines.initial),
          [⟨.warning, "empty function block", b.file, b.lines.initial⟩]) ↔
      ¬ ∃ k text, FirstText b.captured k text := by
  constructor
  · rintro hdoc ⟨k, text, hfirst⟩
    -- only a block of blank lines is remarked on
    cases hname : Header.name (Text.trim text.toList) with
    | ok name => cases hdoc.symm.trans (documentation_of_name hfirst hname)
    | error fault => cases congrArg Prod.snd (hdoc.symm.trans (documentation_of_fault hfirst hname))
  · intro hnone
    apply documentation_of_blank
    by_contra hblank
    exact hnone (FunctionContent.exists_firstText hblank)

end Block

lemma FirstText.trim_ne_nil {texts : List String} {k : Nat} {text : String} (h : FirstText texts k text) :
    Text.trim text.toList ≠ [] :=
  fun ht => h.notBlank (Text.trim_eq_nil_iff.mp ht)

theorem first_text_decides_outcome [Text.Edition] (b : Block) :
    (b.documentation =
        (.error (b.missingTitle b.lines.initial),
          [⟨.warning, "empty function block", b.file, b.lines.initial⟩]) ↔
      ¬ ∃ k text, FirstText b.captured k text) ∧
    ∀ (k : Nat) (text : String), FirstText b.captured k text →
      let header := Text.trim text.toList
      let line := b.lines.initial + 1 + k
      (b.documentation = (.error (b.otherDeclaration line), []) ↔
        ∃ word rest, Header.Declares header word rest ∧ word ≠ Foot.functionWord) ∧
      (b.documentation = (.error (b.missingTitle line), []) ↔
        ∃ c ∈ header.head?, Header.isNameChar c = false) ∧
      ((¬ ∃ word rest, Header.Declares header word rest ∧ word ≠ Foot.functionWord) →
        (¬ ∃ c ∈ header.head?, Header.isNameChar c = false) →
        ∃ content title, b.documentation = (.ok content, []) ∧
          Header.Title header title ∧ Header.LongestName title content.name.toList ∧
          content.shortDescription = String.ofList (Header.shortDescription header) ∧
          ⟨content.members, content.description⟩ =
            Body.parse ((b.captured.drop (k + 1)).map String.toList)) := by
  refine ⟨Block.documentation_eq_blank_iff, ?_⟩
  intro k text hfirst header line
  have hother : Header.name header = .error .notFunction ↔ _ := Header.name_eq_notFunction_iff
  have hnameless : Header.name header = .error .noName ↔ _ := Header.name_eq_noName_iff hfirst.trim_ne_nil
  refine ⟨?_, ?_, ?_⟩
  · exact (Block.documentation_eq_fault_iff hfirst .notFunction).trans hother
  · exact (Block.documentation_eq_fault_iff hfirst .noName).trans hnameless
  · intro hfunction hnamed
    obtain ⟨name, title, hname, htitle, hlongest⟩ :=
      Header.exists_name (mt hother.mp hfunction) (mt hnameless.mp hnamed)
    refine ⟨_, title, Block.documentation_of_name hfirst hname, htitle, ?_, rfl, rfl⟩
    rwa [String.toList_ofList]

def keywordBlock : Block :=
  ⟨0, .function, "function", "a.sh", ⟨3, 4⟩, ["", " \t", "  function\tgreet: - Say hi ", "@x: y"]⟩

def recordBlock : Block :=
  ⟨1, .function, "function", "a.sh", ⟨9, 2⟩, ["", "struct  point - A point."]⟩

theorem first_text_decides_keyword_and_record :
    FirstText keywordBlock.captured 2 "  function\tgreet: - Say hi " ∧
      (∃ content, keywordBlock.documentation = (.ok content, []) ∧
        Header.LongestName "greet: - Say hi".toList content.name.toList ∧ content.members = [⟨"x", "y"⟩]) ∧
      FirstText recordBlock.captured 1 "struct  point - A point." ∧
      recordBlock.documentation = (.error (recordBlock.otherDeclaration 11), []) := by
  have hkeyword : FirstText keywordBlock.captured 2 "  function\tgreet: - Say hi " :=
    ⟨rfl, by decide, by decide⟩
  have hrecord : FirstText recordBlock.captured 1 "struct  point - A point." := ⟨rfl, by decide, by decide⟩
  have hfunction : Header.Declares (Text.trim "  function\tgreet: - Say hi ".toList) Foot.functionWord
      "greet: - Say hi".toList :=
    ⟨by simp [Foot.functionWord], by simp [Foot.functionWord],
      ⟨['\t'], by simp, by simp [Text.isBlank], by decide⟩, 'g',
      rfl, by decide⟩
  have hstruct : Header.Declares
      (Text.trim "struct  point - A point.".toList) "struct".toList "point - A point.".toList :=
    ⟨by simp, by simp, ⟨[' ', ' '], by simp, by simp [Text.isBlank], by decide⟩, 'p', rfl, by decide⟩
  refine ⟨hkeyword, ?_, hrecord, ?_⟩
  · obtain ⟨-, -, hnamed⟩ := (first_text_decides_outcome keywordBlock).2 2 _ hkeyword
    have hkeeps : ¬ ∃ word rest, Header.Declares (Text.trim "  function\tgreet: - Say hi ".toList) word rest ∧
        word ≠ Foot.functionWord := by
      rintro ⟨word, rest, hdeclares, hword⟩
      exact hword (Option.some.inj (hdeclares.declared?_eq.symm.trans hfunction.declared?_eq))
    have hnameless := Header.not_nameless hfunction.isNameChar_head
    obtain ⟨content, title, hdoc, htitle, hname, -, hbody⟩ := hnamed hkeeps hnameless
    obtain rfl : title = "greet: - Say hi".toList := by
      rcases htitle with htitle | ⟨hnot, -⟩
      · exact htitle.trimStart_drop.symm.trans hfunction.trimStart_drop
      · exact absurd hfunction (hnot _)
    exact ⟨content, hdoc, hname, congrArg Body.members hbody⟩
  · obtain ⟨hother, -⟩ := (first_text_decides_outcome recordBlock).2 1 _ hrecord
    exact hother.mpr ⟨_, _, hstruct, by decide⟩

end CommentDoc
