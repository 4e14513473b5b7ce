import CommentDoc.Proofs.Record.Framing
import CommentDoc.Proofs.Run.Invariant

/-! Making a value anew through the check of its type. The check gives the value itself exactly if
the fields are what the type asks for. -/

namespace CommentDoc

inductive Breach where
  | invalid (error : Invalid)
  | noRow (filetype : String)
  | notEncodable (error : Value.EncodeError)
deriving DecidableEq, Repr

def remade {α : Type} (m : Model) (check : Value → Checked α) (toJson : α → Json) (a : α) : Except Breach α :=
  (Checked.validate m.name check (.ofJson (toJson a))).mapError .invalid

lemma remade_eq_ok_iff {α : Type} {m : Model} {check : Value → Checked α} {toJson : α → Json} {a : α} :
    remade m check toJson a = .ok a ↔ check (.ofJson (toJson a)) = .ok a := by
  unfold remade Checked.validate
  cases check (.ofJson (toJson a)) <;> simp [Except.mapError]

lemma mapM_eq_ok {α β ε : Type} {f : α → Except ε β} {g : α → β} {as : List α}
    (h : ∀ a ∈ as, f a = .ok (g a)) :
    as.mapM f = .ok (as.map g) := by
  induction as with
  | nil => rfl
  | cons a as ih =>
    obtain ⟨ha, has⟩ := List.forall_mem_cons.mp h
    rw [List.mapM_cons, ha, ih has]
    rfl

lemma mapM_eq_self {α ε : Type} {f : α → Except ε α} {as : List α} (h : ∀ a ∈ as, f a = .ok a) :
    as.mapM f = .ok as := by
  rw [mapM_eq_ok (g := id) h, List.map_id]

def Diagnostic.remade [Scalars] (d : Diagnostic) : Except Breach Diagnostic :=
  CommentDoc.remade .diagnostic Diagnostic.check Diagnostic.toJson d

def LineSpan.remade [Scalars] (l : LineSpan) : Except Breach LineSpan :=
  CommentDoc.remade .lineSpan LineSpan.check LineSpan.toJson l

def Block.remade [Text.Edition] [Scalars] (b : Block) : Except Breach Block :=
  CommentDoc.remade .block Block.check Block.toJson b

def Member.remade [Scalars] (m : Member) : Except Breach Member :=
  CommentDoc.remade .member Member.check Member.toJson m

def Paragraph.remade [Scalars] (p : Paragraph) : Except Breach Paragraph :=
  CommentDoc.remade .paragraph Paragraph.check Paragraph.toJson p

def FunctionContent.remade [Scalars] (c : FunctionContent) : Except Breach FunctionContent := do
  let members ← c.members.mapM Member.remade
  let description ← c.description.mapM Paragraph.remade
  CommentDoc.remade .functionContent FunctionContent.check FunctionContent.toJson
    { c with members, description }

def Content.remade [Scalars] : Content → Except Breach Content
  | .function c => c.remade.map .function
  | .generic lines =>
    (CommentDoc.remade .genericContent (Checked.list Scalars.string)
      (fun ls => .array (ls.map .text)) lines).map
      .generic

def Record.remade [Scalars] (r : Record) : Except Breach Record :=
  CommentDoc.remade .record Record.check Record.toJson r

lemma Diagnostic.remade_eq [Scalars] (d : Diagnostic) : d.remade = .ok d := by
  apply remade_eq_ok_iff.mpr
  rw [Diagnostic.toJson, Value.ofJson_object (by simp)]
  simp [Diagnostic.check, Checked.model, Checked.required, Value.field?]

lemma LineSpan.remade_iff [Scalars] {l : LineSpan} : l.remade = .ok l ↔ 1 ≤ l.initial := by
  refine remade_eq_ok_iff.trans ⟨?_, ?_⟩
  · intro h
    exact LineSpan.initial_pos_of_check h
  · intro h
    exact LineSpan.check_toJson h

namespace Block

lemma consistent_eq_ok_iff [Text.Edition] {b b' : Block} :
    b.consistent = .ok b' ↔
    b = b' ∧ b.lines.total = b.captured.length ∧ (b.kind = .function → b.markup = "function") := by
  unfold consistent
  by_cases htotal : b.lines.total = b.captured.length
  · by_cases hmarkup : b.kind = .function → b.markup = "function"
    · have hkind : ¬ (b.kind = .function ∧ b.markup ≠ functionMarkup) := fun hb => hb.2 (hmarkup hb.1)
      rw [if_neg (not_not_intro htotal), if_neg hkind]
      simpa [htotal] using fun _ => hmarkup
    · have hkind : b.kind = .function ∧ b.markup ≠ functionMarkup := Classical.not_imp.mp hmarkup
      rw [if_neg (not_not_intro htotal), if_pos hkind]
      simp [Checked.fail, hmarkup]
  · rw [if_pos htotal]
    simp [Checked.fail, htotal]

lemma proper_of_check [Text.Edition] [Scalars] {v : Value} {b : Block} (h : Block.check v = .ok b) :
    b.Proper := by
  obtain ⟨b', hfields, hconsistent⟩ := Checked.bind_eq_ok h
  obtain ⟨rfl, htotal, hmarkup⟩ := consistent_eq_ok_iff.mp hconsistent
  refine ⟨htotal, ?_, hmarkup⟩
  obtain ⟨entries, h₀⟩ := Checked.model_eq_ok hfields
  obtain ⟨_, captured, h₁, -, rfl⟩ := Checked.and_eq_ok h₀
  obtain ⟨_, lines, h₂, hlines, rfl⟩ := Checked.and_eq_ok h₁
  obtain ⟨_, file, h₃, -, rfl⟩ := Checked.and_eq_ok h₂
  obtain ⟨_, markup, h₄, -, rfl⟩ := Checked.and_eq_ok h₃
  obtain ⟨_, kind, h₅, -, rfl⟩ := Checked.and_eq_ok h₄
  obtain ⟨_, id, h₆, -, rfl⟩ := Checked.and_eq_ok h₅
  cases h₆
  obtain ⟨w, hw⟩ := Checked.required_eq_ok hlines
  exact LineSpan.initial_pos_of_check hw

lemma check_toJson [Text.Edition] [Scalars] {b : Block} (h : b.Proper) :
    Block.check (.ofJson b.toJson) = .ok b := by
  have hcaptured : Checked.list Scalars.string (.ofJson (.array (b.captured.map .text))) = .ok b.captured :=
    Checked.list_array fun s _ => by simp
  have hconsistent : b.consistent = .ok b := consistent_eq_ok_iff.mpr ⟨rfl, h.total, h.markup⟩
  rw [Block.toJson, Value.ofJson_object (by simp)]
  simpa [Block.check, Checked.model, Checked.required, Value.field?, LineSpan.check_toJson h.initial,
    hcaptured, bind,
    Except.bind] using hconsistent

lemma remade_iff [Text.Edition] [Scalars] {b : Block} : b.remade = .ok b ↔ b.Proper := by
  refine remade_eq_ok_iff.trans ⟨?_, ?_⟩
  · intro h
    exact proper_of_check h
  · intro h
    exact check_toJson h

end Block

lemma FunctionContent.remade_iff [Scalars] {c : FunctionContent} : c.remade = .ok c ↔ c.name ≠ "" := by
  have hmembers : c.members.mapM Member.remade = .ok c.members :=
    mapM_eq_self fun m _ => remade_eq_ok_iff.mpr m.check_toJson
  have hdescription : c.description.mapM Paragraph.remade = .ok c.description :=
    mapM_eq_self fun p _ => remade_eq_ok_iff.mpr p.check_toJson
  rw [FunctionContent.remade, hmembers, hdescription]
  refine remade_eq_ok_iff.trans ⟨?_, ?_⟩
  · intro h
    exact FunctionContent.name_ne_of_check h
  · intro h
    exact FunctionContent.check_toJson h

lemma Content.remade_eq [Scalars] {c : Content} (h : ∀ f, c = .function f → f.name ≠ "") :
    c.remade = .ok c := by
  cases c with
  | function f =>
    rw [Content.remade, FunctionContent.remade_iff.mpr (h f rfl)]
    rfl
  | generic lines =>
    have hlines : Checked.list Scalars.string (.ofJson (.array (lines.map .text))) = .ok lines :=
      Checked.list_array fun s _ => by simp
    rw [Content.remade, remade_eq_ok_iff.mpr hlines]
    rfl

lemma Record.remade_iff [Scalars] {r : Record} : r.remade = .ok r ↔ r.Valid := by
  refine remade_eq_ok_iff.trans ⟨?_, ?_⟩
  · intro h
    exact valid_of_check h
  · intro h
    exact check_toJson h

namespace Table

def completed (t : Table) : List Family :=
  if t.rows.getLast? = some .fallback then t.rows else t.rows ++ [.fallback]

def row (t : Table) (filetype : String) : Except Breach Family :=
  match t.completed.find? (·.claims filetype) with
  | some family => .ok family
  | none => .error (.noRow filetype)

lemma row_eq (t : Table) (filetype : String) : t.row filetype = .ok (t.family filetype) := by
  have hfallback : Family.fallback.claims filetype = true := rfl
  have hfind : t.completed.find? (·.claims filetype) = some (t.family filetype) := by
    unfold completed family
    split
    next hlast =>
      have hmem : Family.fallback ∈ t.rows := List.mem_of_getLast? hlast
      have hsome : (t.rows.find? (·.claims filetype)).isSome :=
        List.find?_isSome.mpr ⟨.fallback, hmem, hfallback⟩
      obtain ⟨found, hfound⟩ := Option.isSome_iff_exists.mp hsome
      rw [hfound]
      rfl
    next =>
      rw [List.find?_append]
      cases t.rows.find? (·.claims filetype) with
      | some found => rfl
      | none => simp [hfallback]
  rw [row, hfind]

def resolved (t : Table) (path : Path) (default : String) : Except Breach String := do
  let known ← if path.extension = "" then pure false else (t.row path.extension).map (· ≠ .fallback)
  return if known then path.extension else if default ≠ "" then default else unknownFiletype

lemma resolved_eq (t : Table) (path : Path) (default : String) :
    t.resolved path default = .ok (t.resolve path default) := by
  by_cases hempty : path.extension = ""
  · simp [resolved, resolve, hempty, bind, Except.bind, pure, Except.pure]
  · simp [resolved, resolve, hempty, row_eq, Except.map, bind, Except.bind, pure, Except.pure]

end Table

end CommentDoc
