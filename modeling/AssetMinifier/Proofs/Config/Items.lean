import AssetMinifier.Proofs.Config.Setting
import AssetMinifier.Proofs.Text.Trim

/-!
# Lists of items

Items may be given as a list, separated by commas in one text, or both.  Taking
such a list apart gives the same items either way: texts that are not empty,
have no comma and are trimmed.  A list of such items is its own result.
-/

namespace AssetMinifier

namespace Config

/-- The byte between two items. -/
def comma : UInt8 := 0x2C

/-- An item is a trimmed text without commas that is not empty. -/
structure IsItem (t : Text) : Prop where
  ne_nil : t ≠ []
  comma_notMem : comma ∉ t
  isTrimmed : t.IsTrimmed

theorem splitList_append
    (xs ys : List Text) :
    splitList (xs ++ ys) = splitList xs ++ splitList ys :=
  List.flatMap_append

theorem splitList_cons
    (x : Text) (xs : List Text) :
    splitList (x :: xs) = splitList [x] ++ splitList xs :=
  splitList_append [x] xs

theorem splitList_singleton
    (x : Text) :
    splitList [x] =
      ((Text.splitOn comma x).map Text.trim).filter fun part => !part.isEmpty :=
  List.flatMap_singleton _ _

theorem isItem_of_mem_splitList
    {xs : List Text} {item : Text} (h : item ∈ splitList xs) :
    IsItem item := by
  obtain ⟨x, -, hitem⟩ := List.mem_flatMap.mp h
  obtain ⟨hparts, hne⟩ := List.mem_filter.mp hitem
  obtain ⟨part, hpart, rfl⟩ := List.mem_map.mp hparts
  refine ⟨by simpa using hne, ?_, Text.isTrimmed_trim part⟩
  intro hmem
  exact Text.notMem_of_mem_splitOn hpart
    ((Text.trim_isInfix part).subset hmem)

/-! ## Commas and lists -/

/-- A comma divides a text as a list is divided. -/
theorem splitList_append_comma
    (s t : Text) :
    splitList [s ++ comma :: t] = splitList [s] ++ splitList [t] := by
  simp only [splitList_singleton, Text.splitOn_append_separator,
    List.map_append, List.filter_append]

theorem splitList_join
    (xs : List Text) :
    splitList [Text.join [comma] xs] = splitList xs := by
  induction xs with
  | nil => rfl
  | cons x xs ih =>
      by_cases hnil : xs = []
      · rw [hnil]
        rfl
      · rw [Text.join_cons _ _ hnil, List.append_assoc, List.singleton_append,
          splitList_append_comma, ih, ← splitList_cons]

/-! ## Lists of items only -/

theorem splitList_of_isItem
    {x : Text} (h : IsItem x) :
    splitList [x] = [x] := by
  rw [splitList_singleton, Text.splitOn_of_notMem h.comma_notMem,
    List.map_singleton, Text.trim_eq_self_iff.mpr h.isTrimmed]
  simp [h.ne_nil]

/-- A list is its own result exactly if it consists of items. -/
theorem splitList_eq_self_iff
    {xs : List Text} :
    splitList xs = xs ↔ ∀ x ∈ xs, IsItem x := by
  constructor
  · intro h x hx
    rw [← h] at hx
    exact isItem_of_mem_splitList hx
  · intro h
    induction xs with
    | nil => rfl
    | cons x xs ih =>
        rw [List.forall_mem_cons] at h
        rw [splitList_cons, splitList_of_isItem h.1, ih h.2,
          List.singleton_append]

theorem splitList_splitList
    (xs : List Text) :
    splitList (splitList xs) = splitList xs :=
  splitList_eq_self_iff.mpr fun _ => isItem_of_mem_splitList

end Config

/-! ## Values for a list of items -/

namespace Decode

theorem texts_text
    (key t : Text) :
    texts key (.text t) = .ok [t] :=
  rfl

theorem elements_map_text
    (key : Text) (i : Nat) (ts : List Text) :
    elements key i (ts.map .text) = .ok ts := by
  induction ts generalizing i with
  | nil => rfl
  | cons t ts ih =>
      rw [List.map_cons, elements, ih]
      rfl

theorem texts_list
    (key : Text) (ts : List Text) :
    texts key (.list (ts.map .text)) = .ok ts :=
  elements_map_text key 0 ts

theorem raw_put_self
    (key : Text) (v : Value) (layer : Layer) :
    raw (Layer.put key v layer) key = v := by
  rw [raw, Layer.lookup_put, if_pos rfl]
  rfl

theorem raw_put_of_ne
    {key k : Text} (h : k ≠ key) (v : Value) (layer : Layer) :
    raw (Layer.put key v layer) k = raw layer k := by
  rw [raw, Layer.lookup_put, if_neg h, raw]

/-- Of the value for the patterns, nothing counts but the items. -/
theorem config_put_exclude_congr
    {v w : Value} {items others : List Text}
    (hv : texts "exclude" v = .ok items) (hw : texts "exclude" w = .ok others)
    (h : Config.splitList items = Config.splitList others)
    (root file : Text) (layer : Layer) :
    config root file (Layer.put "exclude" v layer) =
      config root file (Layer.put "exclude" w layer) := by
  have hitems (rest : Outcome Config) :
      both (fun exclude (c : Config) =>
          { c with exclude := Config.splitList exclude }) (.ok items) rest =
        both (fun exclude (c : Config) =>
          { c with exclude := Config.splitList exclude }) (.ok others) rest := by
    cases rest with
    | error errors => rfl
    | ok c => simp only [both, h]
  rw [config, config, raw_put_self, raw_put_self, hv, hw, hitems]
  simp (disch := decide) only [raw_put_of_ne]

end Decode

namespace Config

/-- Texts that are separated by commas and texts in a list mean the same, and so
they do as patterns of a configuration.  What comes out are items.  The items
of one list and then another are those of the first and then those of the
second, and exactly the lists of items stay as they are. -/
theorem splitList_comma_eq_list
    (xs ys : List Text) :
    splitList [Text.join [comma] xs] = splitList xs ∧
      (∀ root file layer,
        Decode.config root file
            (Layer.put "exclude" (.text (Text.join [comma] xs)) layer) =
          Decode.config root file
            (Layer.put "exclude" (.list (xs.map .text)) layer)) ∧
      (∀ item ∈ splitList xs, IsItem item) ∧
      splitList (xs ++ ys) = splitList xs ++ splitList ys ∧
      splitList (splitList xs) = splitList xs ∧
      (splitList xs = xs ↔ ∀ x ∈ xs, IsItem x) := by
  refine ⟨splitList_join xs, ?_, fun item => isItem_of_mem_splitList,
    splitList_append xs ys, splitList_splitList xs, splitList_eq_self_iff⟩
  exact Decode.config_put_exclude_congr (Decode.texts_text _ _)
    (Decode.texts_list _ xs) (splitList_join xs)

/-- An item between blanks of two bytes, behind empty ones. -/
theorem splitList_comma_eq_list_blank :
    splitList [" a ,, ", ",\u00a0b*\u00a0"] =
        [Text.ofString "a", Text.ofString "b*"] ∧
      IsItem (Text.ofString "b*") ∧
      splitList [Text.join [comma] [" a ,, ", ",\u00a0b*\u00a0"]] =
        [Text.ofString "a", Text.ofString "b*"] := by
  have hitems : splitList [" a ,, ", ",\u00a0b*\u00a0"] =
      [Text.ofString "a", Text.ofString "b*"] := by
    decide +kernel
  obtain ⟨hjoin, -, hitem, -⟩ :=
    splitList_comma_eq_list [" a ,, ", ",\u00a0b*\u00a0"] []
  refine ⟨hitems, hitem _ ?_, hjoin.trans hitems⟩
  rw [hitems]
  decide

end Config

end AssetMinifier
