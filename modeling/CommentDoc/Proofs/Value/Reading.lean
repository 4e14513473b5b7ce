import CommentDoc.Proofs.Json.Reading
import CommentDoc.Value

namespace CommentDoc.Value

/-- A tree of texts, integers, truth values and nothing, whose maps have texts for keys, each
once. -/
inductive IsTree : Value → Prop
  | null : IsTree .null
  | bool (b : Bool) : IsTree (.bool b)
  | int (n : Int) : IsTree (.int n)
  | text (s : String) : IsTree (.text s)
  | list {items : List Value} : (∀ v ∈ items, IsTree v) → IsTree (.list items)
  | map {fields : List (String × Value)} : (fields.map Prod.fst).Nodup → (∀ f ∈ fields, IsTree f.2) →
      IsTree (.map (fields.map fun f => (.text f.1, f.2)))

mutual

def integers : Value → List Int
  | .int n => [n]
  | .octets bs => bs.map fun b => b.toNat
  | .list items => itemIntegers items
  | .tuple items => itemIntegers items
  | .map entries => entryIntegers entries
  | _ => []

def itemIntegers : List Value → List Int
  | [] => []
  | v :: rest => integers v ++ itemIntegers rest

def entryIntegers : List (Key × Value) → List Int
  | [] => []
  | (.int n, v) :: rest => n :: integers v ++ entryIntegers rest
  | (_, v) :: rest => integers v ++ entryIntegers rest

end

def decode? (s : String) : Option (Value × List Char) :=
  (Json.decode? s).map fun (tree, rest) => (ofJson tree, rest)

@[simp] lemma same_text (s t : String) : (Key.text s).same (.text t) = decide (s = t) := rfl

@[simp] lemma ofJson_text (s : String) : ofJson (.text s) = .text s := by rw [ofJson]

@[simp] lemma ofJson_int (n : Int) : ofJson (.int n) = .int n := by rw [ofJson]

lemma ofJsonItems_eq_map (items : List Json) : ofJsonItems items = items.map ofJson := by
  induction items with
  | nil => rfl
  | cons v items ih => rw [ofJsonItems, ih, List.map_cons]

lemma ofJsonFields_eq_map (fields : List (String × Json)) :
    ofJsonFields fields = fields.map fun f => (.text f.1, ofJson f.2) := by
  induction fields with
  | nil => rfl
  | cons f fields ih => rw [ofJsonFields, ih, List.map_cons]

lemma insert_new {entries : List (Key × Value)} {k : Key} (h : ∀ e ∈ entries, e.1.same k = false)
    (v : Value) :
    insert entries k v = entries ++ [(k, v)] := by
  induction entries with
  | nil => rfl
  | cons e entries ih =>
    have he := h e (by simp)
    rw [insert, he, ih fun e' he' => h e' (by simp [he'])]
    rfl

lemma foldl_insert {fields : List (String × Value)} (h : (fields.map Prod.fst).Nodup)
    (entries : List (Key × Value))
    (hnew : ∀ e ∈ entries, ∀ f ∈ fields, e.1.same (.text f.1) = false) :
    (fields.map fun f => (Key.text f.1, f.2)).foldl (fun entries p => insert entries p.1 p.2) entries =
      entries ++ fields.map fun f => (Key.text f.1, f.2) := by
  induction fields generalizing entries with
  | nil => simp
  | cons f fields ih =>
    obtain ⟨hf, hnodup⟩ := List.nodup_cons.mp h
    rw [List.map_cons, List.foldl_cons, insert_new fun e he => hnew e he f (by simp), ih hnodup]
    · simp
    · intro e he g hg
      rcases List.mem_append.mp he with he | he
      · exact hnew e he g (by simp [hg])
      · rw [List.mem_singleton.mp he, same_text, decide_eq_false_iff_not]
        intro hfg
        exact hf (List.mem_map.mpr ⟨g, hg, hfg.symm⟩)

lemma ofPairs_text {fields : List (String × Value)} (h : (fields.map Prod.fst).Nodup) :
    ofPairs (fields.map fun f => (.text f.1, f.2)) = .map (fields.map fun f => (.text f.1, f.2)) := by
  rw [ofPairs, foldl_insert h [] (by simp), List.nil_append]

lemma ofJson_object {fields : List (String × Json)} (h : (fields.map Prod.fst).Nodup) :
    ofJson (.object fields) = .map (fields.map fun f => (.text f.1, ofJson f.2)) := by
  have hpairs : (fields.map fun f => (Key.text f.1, ofJson f.2)) =
      (fields.map fun f => (f.1, ofJson f.2)).map fun f => (.text f.1, f.2) := by
    simp
  rw [ofJson, ofJsonFields_eq_map, hpairs, ofPairs_text]
  simpa [Function.comp_def] using h

lemma itemIntegers_eq (items : List Value) : itemIntegers items = items.flatMap integers := by
  induction items with
  | nil => rfl
  | cons v items ih => rw [itemIntegers, ih, List.flatMap_cons]

@[simp] lemma integers_list (items : List Value) : (list items).integers = items.flatMap integers := by
  rw [integers, itemIntegers_eq]

@[simp] lemma integers_map (fields : List (String × Value)) :
    (map (fields.map fun f => (.text f.1, f.2))).integers = fields.flatMap fun f => f.2.integers := by
  rw [integers]
  induction fields with
  | nil => rfl
  | cons f fields ih =>
    rw [List.map_cons, entryIntegers, ih, List.flatMap_cons]
    simp

lemma integers_object {fields : List (String × Json)} (h : (fields.map Prod.fst).Nodup) :
    (ofJson (.object fields)).integers = fields.flatMap fun f => (ofJson f.2).integers := by
  have hintegers := integers_map (fields.map fun f => (f.1, ofJson f.2))
  simp only [List.map_map, Function.comp_def, List.flatMap_map] at hintegers
  rw [ofJson_object h, hintegers]

@[simp] lemma integers_array (items : List Json) :
    (ofJson (.array items)).integers = items.flatMap fun v => (ofJson v).integers := by
  rw [ofJson, ofJsonItems_eq_map, integers_list, List.flatMap_map]

@[simp] lemma integers_text (s : String) : (text s).integers = [] := by
  rw [integers] <;> simp

@[simp] lemma integers_int (n : Int) : (int n).integers = [n] := by
  rw [integers]

/-- What becomes of `a` when the given integers have to be written: it is lost if one of them is
beyond the limit. -/
structure Printed {α : Type} (limit : Option DigitLimit) (ns : List Int) (a : α)
    (result : Except EncodeError α) :
    Prop where
  fits : (∀ n ∈ ns, DigitLimit.Allows limit n) → result = .ok a
  exceeds : ∀ n ∈ ns, ¬ DigitLimit.Allows limit n → ∃ l ∈ limit, result = .error (.tooManyDigits l)

lemma printed_ok {α : Type} (limit : Option DigitLimit) (a : α) : Printed limit [] a (.ok a) :=
  ⟨fun _ => rfl, by simp⟩

lemma printed_checkDigits (limit : Option DigitLimit) (n : Int) :
    Printed limit [n] () (checkDigits limit n) := by
  cases limit with
  | none => exact ⟨fun _ => rfl, by simp [DigitLimit.Allows]⟩
  | some l =>
    refine ⟨?_, ?_⟩
    · intro h
      have hle : Json.digitCount n ≤ l.digits := by simpa [DigitLimit.Allows] using h
      rw [checkDigits, if_pos hle]
    · intro m hm h
      obtain rfl := List.mem_singleton.mp hm
      have hlt : ¬ Json.digitCount m ≤ l.digits := by simpa [DigitLimit.Allows] using h
      exact ⟨l, rfl, by rw [checkDigits, if_neg hlt]⟩

lemma Printed.bind {α β : Type} {limit : Option DigitLimit} {ns ms : List Int} {a : α} {b : β}
    {result : Except EncodeError α} {rest : α → Except EncodeError β} (h : Printed limit ns a result)
    (hrest : Printed limit ms b (rest a)) : Printed limit (ns ++ ms) b (result >>= rest) := by
  refine ⟨?_, ?_⟩
  · intro hall
    obtain ⟨hns, hms⟩ := List.forall_mem_append.mp hall
    rw [h.fits hns]
    exact hrest.fits hms
  · intro n hn hexceeds
    by_cases hns : ∀ m ∈ ns, DigitLimit.Allows limit m
    · have hms : n ∈ ms := by
        rcases List.mem_append.mp hn with hn | hn
        · exact absurd (hns n hn) hexceeds
        · exact hn
      rw [h.fits hns]
      exact hrest.exceeds n hms hexceeds
    · obtain ⟨m, hm, hm'⟩ : ∃ m ∈ ns, ¬ DigitLimit.Allows limit m := by simpa using hns
      obtain ⟨l, hl, he⟩ := h.exceeds m hm hm'
      exact ⟨l, hl, by rw [he]; rfl⟩

lemma Printed.map {α β : Type} {limit : Option DigitLimit} {ns : List Int} {a : α}
    {result : Except EncodeError α}
    (h : Printed limit ns a result) (f : α → β) : Printed limit ns (f a) (do return f (← result)) := by
  have hbind : Printed limit (ns ++ []) (f a) (result >>= fun a => pure (f a)) :=
    h.bind (printed_ok limit (f a))
  rwa [List.append_nil] at hbind

end CommentDoc.Value

namespace CommentDoc

def Json.Kept (v : Json) : Prop :=
  ∀ limit, Value.Printed limit (Value.ofJson v).integers v ((Value.ofJson v).toJson limit)

namespace Json

lemma kept_null : Json.null.Kept := fun limit => Value.printed_ok limit _

lemma kept_bool (b : Bool) : (Json.bool b).Kept := fun limit => Value.printed_ok limit _

lemma kept_text (s : String) : (Json.text s).Kept := fun limit => Value.printed_ok limit _

lemma kept_int (n : Int) : (Json.int n).Kept := by
  intro limit
  rw [Value.ofJson_int, Value.toJson]
  exact (Value.printed_checkDigits limit n).map fun _ => Json.int n

lemma kept_array {items : List Json} (h : ∀ v ∈ items, v.Kept) : (Json.array items).Kept := by
  intro limit
  have hitems : Value.Printed limit (items.flatMap fun v => (Value.ofJson v).integers) items
      (Value.listToJson limit (items.map Value.ofJson)) := by
    induction items with
    | nil => exact Value.printed_ok limit []
    | cons v items ih =>
      obtain ⟨hv, hitems⟩ := List.forall_mem_cons.mp h
      exact (hv limit).bind ((ih hitems).map (v :: ·))
  rw [Value.integers_array, Value.ofJson, Value.ofJsonItems_eq_map, Value.toJson]
  exact hitems.map Json.array

lemma kept_array_map {α : Type} {toJson : α → Json} (h : ∀ a, (toJson a).Kept) (as : List α) :
    (Json.array (as.map toJson)).Kept := by
  apply kept_array
  intro v hv
  obtain ⟨a, -, rfl⟩ := List.mem_map.mp hv
  exact h a

lemma kept_object {fields : List (String × Json)} (hnodup : (fields.map Prod.fst).Nodup)
    (h : ∀ f ∈ fields, f.2.Kept) : (Json.object fields).Kept := by
  intro limit
  have hfields : Value.Printed limit (fields.flatMap fun f => (Value.ofJson f.2).integers) fields
      (Value.entriesToJson limit (fields.map fun f => (.text f.1, Value.ofJson f.2))) := by
    clear hnodup
    induction fields with
    | nil => exact Value.printed_ok limit []
    | cons f fields ih =>
      obtain ⟨hf, hfields⟩ := List.forall_mem_cons.mp h
      exact (hf limit).bind ((ih hfields).map ((f.1, f.2) :: ·))
  rw [Value.integers_object hnodup, Value.ofJson_object hnodup, Value.toJson]
  exact hfields.map Json.object

end Json

namespace Value

def HasTree (v : Value) : Prop :=
  ∃ tree : Json, tree.Whole ∧ tree.Kept ∧ ofJson tree = v

lemma exists_trees {items : List Value} (h : ∀ v ∈ items, v.HasTree) :
    ∃ trees : List Json, (∀ tree ∈ trees, tree.Whole) ∧ (∀ tree ∈ trees, tree.Kept) ∧
      trees.map ofJson = items := by
  induction items with
  | nil => exact ⟨[], by simp, by simp, rfl⟩
  | cons v items ih =>
    obtain ⟨tree, hw, hk, hv⟩ := h v (by simp)
    obtain ⟨trees, hws, hks, hvs⟩ := ih fun w hm => h w (by simp [hm])
    exact ⟨tree :: trees, by simpa using ⟨hw, hws⟩, by simpa using ⟨hk, hks⟩, by rw [List.map_cons, hv, hvs]⟩

lemma exists_fields {fields : List (String × Value)} (h : ∀ f ∈ fields, f.2.HasTree) :
    ∃ trees : List (String × Json), (∀ f ∈ trees, f.2.Whole) ∧ (∀ f ∈ trees, f.2.Kept) ∧
      (trees.map fun f => (f.1, ofJson f.2)) = fields := by
  induction fields with
  | nil => exact ⟨[], by simp, by simp, rfl⟩
  | cons f fields ih =>
    obtain ⟨tree, hw, hk, hv⟩ := h f (by simp)
    obtain ⟨trees, hws, hks, hvs⟩ := ih fun g hm => h g (by simp [hm])
    refine ⟨(f.1, tree) :: trees, ?_, ?_, ?_⟩
    · exact List.forall_mem_cons.mpr ⟨hw, hws⟩
    · exact List.forall_mem_cons.mpr ⟨hk, hks⟩
    · rw [List.map_cons, hv, hvs]

lemma hasTree {v : Value} (h : v.IsTree) : v.HasTree := by
  induction h with
  | null => exact ⟨.null, .null, Json.kept_null, rfl⟩
  | bool b => exact ⟨.bool b, .bool b, Json.kept_bool b, rfl⟩
  | int n => exact ⟨.int n, .int n, Json.kept_int n, rfl⟩
  | text s => exact ⟨.text s, .text s, Json.kept_text s, rfl⟩
  | list _ ih =>
    obtain ⟨trees, hw, hk, hv⟩ := exists_trees ih
    refine ⟨.array trees, .array hw, Json.kept_array hk, ?_⟩
    rw [ofJson, ofJsonItems_eq_map, hv]
  | map hnodup _ ih =>
    obtain ⟨trees, hw, hk, rfl⟩ := exists_fields ih
    have hnodup : (trees.map Prod.fst).Nodup := by simpa [Function.comp_def] using hnodup
    refine ⟨.object trees, .object hw, Json.kept_object hnodup hk, ?_⟩
    rw [ofJson_object hnodup, List.map_map]
    rfl

lemma printed_encode {v : Value} (h : v.IsTree) (limit : Option DigitLimit) :
    ∃ s, Printed limit v.integers s (v.encode limit) ∧ decode? s = some (v, []) := by
  obtain ⟨tree, hw, hk, rfl⟩ := hasTree h
  refine ⟨tree.compact, (hk limit).map Json.compact, ?_⟩
  simp only [decode?, Json.decode?_compact hw, Option.map_some]

end Value

end CommentDoc
