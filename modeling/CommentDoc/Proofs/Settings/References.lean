import CommentDoc.Proofs.Command.Lawful
import CommentDoc.Settings.EnvFile
import Mathlib.Data.List.Nodup

/-! Which values may depend on some variables of the environment is found by following the
references in the order of the file; the other values are the same in environments that differ in
no more than those variables. -/

namespace CommentDoc.EnvFile

section Expansion

variable {value? value?' : String → Option String}

lemma expandFrom_congr {fuel : Nat} {s : List Char}
    (h : ∀ name ∈ referencesFrom fuel s, value? name = value?' name) :
    expandFrom value? fuel s = expandFrom value?' fuel s := by
  fun_induction expandFrom value? fuel s with
  | case1 s => rw [expandFrom]
  | case2 fuel hfuel => rw [expandFrom.eq_2 _ _ hfuel]
  | case3 fuel rest name default after hreference ih =>
    simp only [referencesFrom, hreference, List.forall_mem_cons] at h
    simp only [expandFrom, hreference, h.1, ih h.2]
  | case4 fuel rest hreference ih =>
    simp only [referencesFrom, hreference] at h
    simp only [expandFrom, hreference, ih h]
  | case5 fuel c rest hc ih =>
    rw [referencesFrom] at h
    · rw [expandFrom, ih h]
      exact hc
    · exact hc

lemma expand_congr {value : Option String}
    (h : ∀ r ∈ (value.map references).getD [], value? r = value?' r) :
    value.map (expand value?) = value.map (expand value?') := by
  cases value with
  | none => rfl
  | some s => rw [Option.map_some, Option.map_some, expand, expand, expandFrom_congr h]

end Expansion

section Assigning

lemma lookup_cons_eq_ite {α : Type} (n m : String) (v : α) (entries : List (String × α)) :
    ((m, v) :: entries).lookup n = if n = m then some v else entries.lookup n := by
  rw [List.lookup_cons]
  by_cases h : n = m
  · simp [h]
  · have hne : (n == m) = false := by simpa using h
    rw [hne, if_neg h]

lemma lookup_assign (table : List Assignment) (name : String) (value : Option String) (n : String) :
    (assign table name value).lookup n = if n = name then some value else table.lookup n := by
  induction table with
  | nil => exact lookup_cons_eq_ite n name value []
  | cons entry table ih =>
    obtain ⟨m, v⟩ := entry
    rw [assign, lookup_cons_eq_ite]
    by_cases hm : m = name
    · rw [if_pos hm, lookup_cons_eq_ite, hm]
      by_cases hn : n = name <;> simp [hn]
    · rw [if_neg hm, lookup_cons_eq_ite, ih]
      by_cases hn : n = m
      · simp [hn, hm]
      · simp [hn]

lemma names_assign (table : List Assignment) (name : String) (value : Option String) :
    (assign table name value).map Prod.fst =
      if name ∈ table.map Prod.fst then table.map Prod.fst else table.map Prod.fst ++ [name] := by
  induction table with
  | nil => rfl
  | cons entry table ih =>
    obtain ⟨m, v⟩ := entry
    rw [assign]
    by_cases hm : m = name
    · simp [hm]
    · rw [if_neg hm, List.map_cons, ih]
      simp only [List.map_cons, List.mem_cons, Ne.symm hm, false_or]
      split <;> rfl

lemma lookup_of_notMem {table : List Assignment} {name : String} (h : name ∉ table.map Prod.fst) :
    table.lookup name = none := by
  rw [List.lookup_eq_none_iff]
  intro a ha
  simpa using fun heq : name = a.1 => h (List.mem_map.mpr ⟨a, ha, heq.symm⟩)

end Assigning

/-- Two tables, made in two environments, that differ only in what may depend on hidden variables. -/
structure Alike (depends : String → Bool) (environment environment' : List (String × String))
    (table table' : List Assignment) : Prop where
  names : table.map Prod.fst = table'.map Prod.fst
  nodup : (table.map Prod.fst).Nodup
  values : ∀ name, depends name = false → table.lookup name = table'.lookup name
  environment : ∀ name, depends name = false → table.lookup name = none →
    environment.lookup name = environment'.lookup name

section Tables

variable {depends : String → Bool} {environment environment' : List (String × String)}
  {table table' : List Assignment}

lemma Alike.lookup_eq (h : Alike depends environment environment' table table') {name : String}
    (hname : depends name = false) : lookup environment table name = lookup environment' table' name := by
  rw [lookup, lookup, ← h.values name hname]
  cases hvalue : table.lookup name with
  | some value => rfl
  | none => exact h.environment name hname hvalue

lemma Alike.assign (h : Alike depends environment environment' table table') (a : Assignment) :
    Alike (dependsAfter references depends a) environment environment'
      (assign table a.1 (a.2.map (expand (lookup environment table))))
      (assign table' a.1 (a.2.map (expand (lookup environment' table')))) where
  names := by rw [names_assign, names_assign, h.names]
  nodup := by
    rw [names_assign]
    split
    · exact h.nodup
    next hname => exact h.nodup.append (List.nodup_singleton _) (by simpa using hname)
  values := by
    intro name hname
    rw [lookup_assign, lookup_assign]
    rw [dependsAfter] at hname
    by_cases hn : name = a.1
    · rw [if_pos hn] at hname ⊢
      rw [if_pos hn]
      have hreferences : ∀ r ∈ (a.2.map references).getD [],
          lookup environment table r = lookup environment' table' r :=
        fun r hr => h.lookup_eq (by simpa using List.any_eq_false.mp hname r hr)
      rw [expand_congr hreferences]
    · rw [if_neg hn] at hname ⊢
      rw [if_neg hn]
      exact h.values name hname
  environment := by
    intro name hname hnone
    rw [lookup_assign] at hnone
    rw [dependsAfter] at hname
    by_cases hn : name = a.1
    · rw [if_pos hn] at hnone
      cases hnone
    · rw [if_neg hn] at hname hnone
      exact h.environment name hname hnone

lemma alike_table {hidden : String → Bool}
    (h : ∀ name, hidden name = false → environment.lookup name = environment'.lookup name)
    (as : List Assignment) :
    Alike (EnvFile.depends references hidden as) environment environment' (EnvFile.table environment as)
      (EnvFile.table environment' as) := by
  have hstart : Alike hidden environment environment' [] [] :=
    ⟨rfl, List.nodup_nil, fun _ _ => rfl, fun name hname _ => h name hname⟩
  have hfold : ∀ {depends table table'}, Alike depends environment environment' table table' →
      Alike (as.foldl (dependsAfter references) depends) environment environment'
        (as.foldl (fun table a =>
          EnvFile.assign table a.1 (a.2.map (expand (lookup environment table)))) table)
        (as.foldl (fun table a => EnvFile.assign table a.1 (a.2.map (expand (lookup environment' table))))
          table') := by
    -- each assignment moves the tables on, and with them what may depend on the hidden variables
    induction as with
    | nil => exact id
    | cons a as ih => exact fun halike => ih (halike.assign a)
  exact hfold hstart

lemma filter_eq_of_lookup {p : String → Bool} (hnames : table.map Prod.fst = table'.map Prod.fst)
    (hnodup : (table.map Prod.fst).Nodup)
      (hvalues : ∀ name, p name = true → table.lookup name = table'.lookup name) :
    table.filter (fun a => p a.1) = table'.filter fun a => p a.1 := by
  induction table generalizing table' with
  | nil =>
    obtain rfl : table' = [] := by simpa using hnames.symm
    rfl
  | cons a table ih =>
    cases table' with
    | nil => cases hnames
    | cons a' table' =>
      obtain ⟨name, value⟩ := a
      obtain ⟨name', value'⟩ := a'
      obtain ⟨rfl, hrest⟩ := List.cons.inj hnames
      obtain ⟨hnotMem, hnodup⟩ := List.nodup_cons.mp hnodup
      have htail : ∀ n, p n = true → table.lookup n = table'.lookup n := by
        intro n hn
        have hlookup := hvalues n hn
        rw [lookup_cons_eq_ite, lookup_cons_eq_ite] at hlookup
        by_cases heq : n = name
        · subst heq
          rw [lookup_of_notMem hnotMem, lookup_of_notMem (hrest ▸ hnotMem)]
        · rwa [if_neg heq, if_neg heq] at hlookup
      rw [List.filter_cons, List.filter_cons, ih hrest hnodup htail]
      by_cases hp : p name = true
      · have hlookup := hvalues name hp
        rw [lookup_cons_eq_ite, lookup_cons_eq_ite, if_pos rfl, if_pos rfl] at hlookup
        rw [Option.some.inj hlookup]
      · simp only [hp, if_false, Bool.false_eq_true]

lemma filter_table {hidden : String → Bool} (as : List Assignment)
    (h : ∀ name, hidden name = false → environment.lookup name = environment'.lookup name) :
    (EnvFile.table environment as).filter (fun a => !EnvFile.depends references hidden as a.1) =
      (EnvFile.table environment' as).filter fun a => !EnvFile.depends references hidden as a.1 := by
  have halike := alike_table h as
  exact filter_eq_of_lookup
    (p := fun name => !EnvFile.depends references hidden as name) halike.names halike.nodup
    fun name hname => halike.values name (by simpa using hname)

end Tables

end CommentDoc.EnvFile
