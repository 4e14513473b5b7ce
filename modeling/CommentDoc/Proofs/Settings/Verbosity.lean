import CommentDoc.Proofs.Command.Lawful
import CommentDoc.Proofs.Validation.Laws
import CommentDoc.Settings.Basic

/-! Variables of verbosity do not bear on the data, unless the environment file refers to such a
variable where it gives one of the other settings a value. -/

namespace CommentDoc

lemma EnvFile.depends_of_notMem {references : String → List String} {hidden : String → Bool}
    {as : List Assignment}
    {name : String} (h : name ∉ as.map Prod.fst) : depends references hidden as name = hidden name := by
  induction as generalizing hidden with
  | nil => rfl
  | cons a as ih =>
    rw [List.map_cons, List.mem_cons, not_or] at h
    have hstep : depends references hidden (a :: as) =
        depends references (dependsAfter references hidden a) as := rfl
    rw [hstep, ih h.2, dependsAfter, if_neg h.1]

namespace Settings

def setsVerbosity (name : String) : Bool :=
  namesField "log_level" name || namesField "rich_logging" name

def SameButVerbosity (environment environment' : List (String × String)) : Prop :=
  environment.filter (fun v => !setsVerbosity v.1) = environment'.filter fun v => !setsVerbosity v.1

def dataFields : List String :=
  ["default_filetype", "blocks"]

/-- No value that the file gives to one of these settings refers to the variables of verbosity, by
itself or by way of other names. -/
def SettlesData [Packages] (as : List EnvFile.Assignment) : Prop :=
  ∀ field ∈ dataFields, ∀ a ∈ as, namesField field a.1 = true →
    EnvFile.depends Packages.references setsVerbosity as a.1 = false

lemma filter_of_imp {α : Type} {p q : α → Bool} {as as' : List α} (hpq : ∀ a, p a = true → q a = true)
    (h : as.filter q = as'.filter q) : as.filter p = as'.filter p := by
  have hand : (fun a => p a && q a) = p := by
    funext a
    cases hp : p a with
    | false => rfl
    | true => simp [hpq a hp]
  have hfilter : ∀ as : List α, as.filter p = (as.filter q).filter p := by
    intro as
    rw [List.filter_filter, hand]
  rw [hfilter as, h, ← hfilter as']

section Environments

variable {environment environment' : List (String × String)} {field : String}

lemma lookup_filter_of_not {entries : List (String × String)} {hidden : String → Bool} {name : String}
    (h : hidden name = false) : (entries.filter fun v => !hidden v.1).lookup name = entries.lookup name := by
  induction entries with
  | nil => rfl
  | cons entry entries ih =>
    obtain ⟨m, v⟩ := entry
    by_cases hm : name = m
    · subst hm
      rw [List.filter_cons_of_pos (by simpa using h), List.lookup_cons_self, List.lookup_cons_self]
    · have hne : (name == m) = false := by simpa using hm
      rw [List.lookup_cons, hne, ← ih, List.filter_cons]
      split
      · rw [List.lookup_cons, hne]
      · rfl

lemma SameButVerbosity.lookup_eq (h : SameButVerbosity environment environment') {name : String}
    (hname : setsVerbosity name = false) : environment.lookup name = environment'.lookup name := by
  rw [← lookup_filter_of_not hname, h, lookup_filter_of_not hname]

lemma eq_of_namesField {field field' name : String} (h : namesField field name = true)
    (h' : namesField field' name = true) : field = field' := by
  have hlower : Text.lower name.toList = "procdoc_".toList ++ field.toList := of_decide_eq_true h
  have hlower' : Text.lower name.toList = "procdoc_".toList ++ field'.toList := of_decide_eq_true h'
  exact String.toList_injective (List.append_cancel_left (hlower.symm.trans hlower'))

lemma setsVerbosity_of_dataField (hfield : field ∈ dataFields) {name : String}
    (h : namesField field name = true) :
    setsVerbosity name = false := by
  have hapart : ∀ field ∈ dataFields, field ≠ "log_level" ∧ field ≠ "rich_logging" := by decide
  rw [setsVerbosity, Bool.or_eq_false_iff]
  exact ⟨Bool.eq_false_iff.mpr fun hname => (hapart field hfield).1 (eq_of_namesField h hname),
    Bool.eq_false_iff.mpr fun hname => (hapart field hfield).2 (eq_of_namesField h hname)⟩

lemma filter_environment (h : SameButVerbosity environment environment') (hfield : field ∈ dataFields) :
    (environment.filter fun v => namesField field v.1) = environment'.filter fun v =>
      namesField field v.1 := by
  refine filter_of_imp (fun v hv => ?_) h
  rw [setsVerbosity_of_dataField hfield hv]
  rfl

variable [Packages] {as : List EnvFile.Assignment}

lemma SettlesData.depends_eq (h : SettlesData as) (hfield : field ∈ dataFields) {name : String}
    (hname : namesField field name = true) :
    EnvFile.depends Packages.references setsVerbosity as name = false := by
  by_cases hmem : name ∈ as.map Prod.fst
  · obtain ⟨a, ha, rfl⟩ := List.mem_map.mp hmem
    exact h field hfield a ha hname
  · rw [EnvFile.depends_of_notMem hmem]
    exact setsVerbosity_of_dataField hfield hname

lemma filter_table [LawfulPackages] (h : SameButVerbosity environment environment') (hfile : SettlesData as)
    (hfield : field ∈ dataFields) :
    ((Packages.table environment as).filter fun v => namesField field v.1) =
      (Packages.table environment' as).filter fun v => namesField field v.1 := by
  have htable := LawfulPackages.table_congr as fun _ hname => h.lookup_eq hname
  refine filter_of_imp (fun v hv => ?_) htable
  rw [hfile.depends_eq hfield hv]
  rfl

end Environments

lemma fields_of_load [Text.Edition] [Scalars] {value? : String → Option Value} {s : Settings}
    (h : load value? = .ok s) :
    field value? "default_filetype" "" Scalars.string = .ok s.defaultFiletype ∧
      field value? "blocks" .all Scalars.label = .ok s.blocks := by
  cases hcheck : check value? with
  | error issues =>
    rw [load, hcheck] at h
    cases h
  | ok loaded =>
    rw [load, hcheck] at h
    obtain rfl : loaded = s := Except.ok.inj h
    obtain ⟨_, _, hthree, -, rfl⟩ := Checked.and_eq_ok hcheck
    obtain ⟨_, _, htwo, -, rfl⟩ := Checked.and_eq_ok hthree
    obtain ⟨_, _, hone, hblocks, rfl⟩ := Checked.and_eq_ok htwo
    obtain ⟨_, _, hmk, hfiletype, rfl⟩ := Checked.and_eq_ok hone
    obtain rfl := Except.ok.inj hmk
    exact ⟨hfiletype, hblocks⟩

end Settings

end CommentDoc
