import CommentDoc.Disk
import Mathlib.Tactic.Lemma

namespace CommentDoc.Disk

open Text.Utf8 (Octets)

def Sound (d : Disk) : Prop :=
  ∀ place i, d.node? place = some (.file i) → i < d.contents.length

def Grows (d d' : Disk) : Prop :=
  ∀ place node, d.node? place = some node → d'.node? place = some node

/-- No file but the one at `place` is created, removed or changed. -/
structure SameBut (place : Place) (d d' : Disk) : Prop where
  node : ∀ p, p ≠ place → d'.node? p = d.node? p
  content : ∀ i < d.contents.length, d.node? place ≠ some (.file i) → d'.content i = d.content i
  faults : d'.faults = d.faults

variable {d d' : Disk} {place : Place}

section Walking

variable {here there : Place} {name : String} {names : List String} {p : Path} {i : Nat}

lemma walk_cons_eq_ok_iff :
    d.walk here (name :: names) = .ok there ↔
      d.node? here = some .directory ∧ name.utf8ByteSize ≤ nameLimit ∧
        (∃ node, d.node? (step here name) = some node ∧ ∀ cause, node ≠ .blocked cause) ∧
          d.walk (step here name) names = .ok there := by
  rw [walk]
  split
  next hnode =>
    by_cases hname : nameLimit < name.utf8ByteSize
    · simp [hname, Nat.not_le.mpr hname]
    · rw [if_neg hname]
      split
      next cause hnext => simp [hnext]
      next node hblocked hnext =>
        simpa [hnode, Nat.le_of_not_lt hname, hnext] using fun _ => hblocked
      next hnext => simp [hnext]
  next hnode =>
    simp only [reduceCtorEq, false_iff]
    exact fun h => hnode h.1

lemma walk_append (h : d.walk here names = .ok there) (more : List String) :
    d.walk here (names ++ more) = d.walk there more := by
  induction names generalizing here with
  | nil =>
    obtain rfl : here = there := Except.ok.inj h
    rfl
  | cons name names ih =>
    obtain ⟨hnode, hname, ⟨node, hnext, hleads⟩, hrest⟩ := walk_cons_eq_ok_iff.mp h
    rw [List.cons_append, walk, hnode]
    simp only [Nat.not_lt.mpr hname, if_false]
    rw [← ih hrest]
    cases node with
    | blocked cause => exact absurd rfl (hleads cause)
    | _ => rw [hnext]

lemma Grows.walk (hd : Grows d d') (h : d.walk here names = .ok there) : d'.walk here names = .ok there := by
  induction names generalizing here with
  | nil => exact h
  | cons name names ih =>
    obtain ⟨hnode, hname, ⟨node, hnext, hleads⟩, hrest⟩ := walk_cons_eq_ok_iff.mp h
    exact walk_cons_eq_ok_iff.mpr ⟨hd _ _ hnode, hname, ⟨node, hd _ _ hnext, hleads⟩, ih hrest⟩

lemma fileAt_eq_ok_iff :
    d.fileAt p = .ok i ↔
      p.text.utf8ByteSize ≤ pathLimit ∧
        ∃ place, d.walk (start p) p.parts = .ok place ∧ d.node? place = some (.file i) := by
  unfold fileAt find
  by_cases hp : pathLimit < p.text.utf8ByteSize
  · simp only [hp, if_true]
    simp [Nat.not_le.mpr hp, bind, Except.bind]
  · simp only [hp, if_false]
    cases hw : d.walk (start p) p.parts with
    | error e => simp [bind, Except.bind]
    | ok place =>
      simp only [bind, Except.bind, Nat.le_of_not_lt hp, true_and, Except.ok.injEq, exists_eq_left']
      split
      next identity hnode => simp [hnode, pure, Except.pure]
      next hnode =>
        simp only [reduceCtorEq, false_iff]
        exact hnode i

lemma openFile_eq_ok_iff : d.openFile p = .ok i ↔ d.fileAt p = .ok i ∧ d.openingFault? i = none := by
  unfold openFile
  cases h : d.fileAt p with
  | error e => simp [bind, Except.bind]
  | ok identity =>
    cases hfault : d.openingFault? identity with
    | some cause =>
      simp only [bind, Except.bind, hfault, reduceCtorEq, Except.ok.injEq, false_iff, not_and]
      rintro rfl
      simp [hfault]
    | none =>
      simp only [bind, Except.bind, hfault, pure, Except.pure, Except.ok.injEq]
      exact ⟨fun hi => ⟨hi, hi ▸ hfault⟩, And.left⟩

lemma Grows.fileAt (hd : Grows d d') (h : d.fileAt p = .ok i) : d'.fileAt p = .ok i := by
  obtain ⟨hp, place, hwalk, hnode⟩ := fileAt_eq_ok_iff.mp h
  exact fileAt_eq_ok_iff.mpr ⟨hp, place, hd.walk hwalk, hd _ _ hnode⟩

lemma openFile_of_grows (hd : Grows d d') (hfaults : d'.faults = d.faults) (h : d.openFile p = .ok i) :
    d'.openFile p = .ok i := by
  obtain ⟨hfile, hfault⟩ := openFile_eq_ok_iff.mp h
  refine openFile_eq_ok_iff.mpr ⟨hd.fileAt hfile, ?_⟩
  rwa [openingFault?, hfaults]

lemma read_eq_of_fileAt (h : d.fileAt p = .ok i) : d.read p = .ok (d.content i) := by
  rw [read, h]
  rfl

lemma target_cases (h : d.target p = .ok place) :
    ∃ names name directory, p.parts = names ++ [name] ∧ p.text.utf8ByteSize ≤ pathLimit ∧
      d.walk (start p) names = .ok directory ∧ d.node? directory = some .directory ∧ name ≠ ".." ∧
      name.utf8ByteSize ≤ nameLimit ∧ place = directory ++ [name] ∧
      (d.node? place = none ∨ ∃ i, d.node? place = some (.file i)) := by
  unfold target at h
  split at h
  next => cases h
  next name hname =>
    obtain ⟨names, hparts⟩ := List.getLast?_eq_some_iff.mp hname
    by_cases hp : pathLimit < p.text.utf8ByteSize
    · simp [hp, bind, Except.bind] at h
    rw [hparts, List.dropLast_concat] at h
    cases hw : d.walk (start p) names with
    | error e => simp [hp, hw, bind, Except.bind] at h
    | ok directory =>
      simp only [hp, if_false, hw, bind, Except.bind, pure, Except.pure] at h
      refine ⟨names, name, directory, hparts, Nat.le_of_not_lt hp, hw, ?_⟩
      split at h
      next hdirectory =>
        by_cases hup : name = ".."
        · simp [hup] at h
        by_cases hlong : nameLimit < name.utf8ByteSize
        · simp [hup, hlong] at h
        simp only [hup, hlong, if_false] at h
        refine ⟨hdirectory, hup, Nat.le_of_not_lt hlong, ?_⟩
        split at h
        next => cases h
        next => cases h
        next identity hnode =>
          split at h
          next => cases h
          next =>
            obtain rfl := Except.ok.inj h
            exact ⟨rfl, .inr ⟨identity, hnode⟩⟩
        next hnode =>
          obtain rfl := Except.ok.inj h
          exact ⟨rfl, .inl hnode⟩
      next => cases h

lemma fileAt_of_target (h : d.target p = .ok place) (hd : Grows d d')
    (hnode : d'.node? place = some (.file i)) : d'.fileAt p = .ok i := by
  obtain ⟨names, name, directory, hparts, hp, hwalk, hdirectory, hup, hname, rfl, -⟩ := target_cases h
  have hstep : step directory name = directory ++ [name] := if_neg hup
  refine fileAt_eq_ok_iff.mpr ⟨hp, directory ++ [name], ?_, hnode⟩
  rw [hparts, walk_append (hd.walk hwalk), walk_cons_eq_ok_iff, hstep]
  exact ⟨hd _ _ hdirectory, hname, ⟨_, hnode, fun cause => by simp⟩, rfl⟩

end Walking

section Putting

variable {i : Nat}

lemma putAt_of_none (h : d.node? place = none) (octets : Octets) :
    d.putAt place octets =
      { d with
        nodes := d.nodes ++ [(place, .file d.contents.length)]
        contents := d.contents ++ [octets] } := by
  simp only [putAt, h]

lemma putAt_of_other {node : Node} (h : d.node? place = some node) (hnode : ∀ i, node ≠ .file i)
    (octets : Octets) : d.putAt place octets = d := by
  cases node with
  | file i => exact absurd rfl (hnode i)
  | _ => simp only [putAt, h]

lemma putAt_of_file (h : d.node? place = some (.file i)) (octets : Octets) :
    d.putAt place octets = { d with contents := d.contents.set i octets } := by
  simp only [putAt, h]

lemma lookup_concat (d : Disk) (place p : Place) (node : Node) :
    (d.nodes ++ [(place, node)]).lookup p = (d.node? p).or (if p = place then some node else none) := by
  rw [List.lookup_append, node?]
  by_cases hp : p = place
  · simp [hp]
  · have hne : (p == place) = false := by simpa using hp
    simp [List.lookup_cons, hne, hp]

lemma node?_putAt (d : Disk) (place : Place) (octets : Octets) (p : Place) :
    (d.putAt place octets).node? p =
      (d.node? p).or (if p = place then some (.file d.contents.length) else none) := by
  cases h : d.node? place with
  | none => rw [putAt_of_none h, ← lookup_concat, node?]
  | some there =>
    have hsame : (d.putAt place octets).node? p = d.node? p := by
      cases there with
      | file i => rw [putAt_of_file h, node?, node?]
      | _ => rw [putAt_of_other h (by simp)]
    rw [hsame]
    by_cases hp : p = place
    · simp [hp, h]
    · simp [hp]

lemma grows_putAt (d : Disk) (place : Place) (octets : Octets) : Grows d (d.putAt place octets) := by
  intro p node hp
  rw [node?_putAt, hp, Option.some_or]

lemma sameBut_putAt (d : Disk) (place : Place) (octets : Octets) :
    SameBut place d (d.putAt place octets) where
  node := by
    intro p hp
    rw [node?_putAt, if_neg hp, Option.or_none]
  content := by
    intro i hi hne
    cases h : d.node? place with
    | none => rw [putAt_of_none h, content, content, List.getElem?_append_left hi]
    | some there =>
      cases there with
      | file j =>
        have hij : j ≠ i := by
          rintro rfl
          exact hne h
        rw [putAt_of_file h, content, content, List.getElem?_set_ne hij]
      | _ => rw [putAt_of_other h (by simp)]
  faults := by
    unfold putAt
    split <;> rfl

lemma exists_file_putAt (hd : d.Sound) (h : d.node? place = none ∨ ∃ i, d.node? place = some (.file i))
    (octets : Octets) :
    ∃ i, (d.putAt place octets).node? place = some (.file i) ∧ (d.putAt place octets).content i = octets := by
  rcases h with hnode | ⟨i, hnode⟩
  · refine ⟨d.contents.length, by simp [node?_putAt, hnode], ?_⟩
    simp [putAt_of_none hnode, content]
  · refine ⟨i, grows_putAt d place octets _ _ hnode, ?_⟩
    simp [putAt_of_file hnode, content, List.getElem?_set_self (hd _ _ hnode)]

lemma putAt_putAt (d : Disk) (place : Place) (octets octets' : Octets) :
    (d.putAt place octets).putAt place octets' = d.putAt place octets' := by
  cases hnode : d.node? place with
  | none =>
    have hnew : (d.putAt place octets).node? place = some (.file d.contents.length) := by
      simp [node?_putAt, hnode]
    rw [putAt_of_file hnew, putAt_of_none hnode, putAt_of_none hnode]
    simp
  | some there =>
    cases there with
    | file i =>
      have hold := grows_putAt d place octets _ _ hnode
      rw [putAt_of_file hold, putAt_of_file hnode, putAt_of_file hnode, List.set_set]
    | _ => rw [putAt_of_other hnode (by simp)]

lemma read_putAt {p : Path} (hd : d.Sound) (h : d.target p = .ok place) (octets : Octets) :
    (d.putAt place octets).read p = .ok octets := by
  obtain ⟨-, -, -, -, -, -, -, -, -, -, hnode⟩ := target_cases h
  obtain ⟨i, hi, hcontent⟩ := exists_file_putAt hd hnode octets
  rw [read_eq_of_fileAt (fileAt_of_target h (grows_putAt d place octets) hi), hcontent]

end Putting

section Building

lemma sound_empty : Sound empty := by
  intro place i h
  simp only [node?, empty, List.lookup_cons, List.lookup_nil] at h
  split at h
  next => cases h
  next =>
    split at h <;> cases h

lemma Sound.putAt (hd : d.Sound) (place : Place) (octets : Octets) : (d.putAt place octets).Sound := by
  intro p i hp
  have hlength : d.contents.length ≤ (d.putAt place octets).contents.length := by
    unfold Disk.putAt
    split <;> simp
  rw [node?_putAt] at hp
  cases hnode : d.node? p with
  | some node =>
    rw [hnode, Option.some_or] at hp
    exact Nat.lt_of_lt_of_le (hd p i (hnode.trans hp)) hlength
  | none =>
    rw [hnode, Option.none_or] at hp
    split at hp
    next hplace =>
      subst hplace
      cases hp
      rw [putAt_of_none hnode]
      simp
    next => cases hp

lemma Sound.makeDirectory (hd : d.Sound) (place : Place) : (d.makeDirectory place).Sound := by
  unfold Disk.makeDirectory
  split
  next => exact hd
  next =>
    intro p i hp
    rw [node?, lookup_concat] at hp
    cases hnode : d.node? p with
    | some node =>
      rw [hnode, Option.some_or] at hp
      exact hd p i (hnode.trans hp)
    | none =>
      rw [hnode, Option.none_or] at hp
      split at hp <;> cases hp

lemma Sound.makeDirectories (hd : d.Sound) (here : Place) (names : List String) :
    (d.makeDirectories here names).Sound := by
  induction names generalizing d here with
  | nil => exact hd
  | cons name names ih => exact ih (hd.makeDirectory _) _

lemma Sound.addFile (hd : d.Sound) (p : Path) (octets : Octets) : (d.addFile p octets).Sound :=
  (hd.makeDirectories _ _).putAt _ _

end Building

end CommentDoc.Disk
