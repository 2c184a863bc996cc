import DesignTokens.Proofs.Json.RoundTrip
import DesignTokens.Proofs.Mapping.Documents
import DesignTokens.Proofs.Storage.FileTree
import DesignTokens.Storage.Mappings

/-!
Saving mappings and loading them again. A mapping file is an object that others may use too. What is
saved goes under one key, where it was or behind the other keys, and everything else in the object
stays:

    { "theme": …, "customCssProperties": old, "scale": … }
                              │ save
    { "theme": …, "customCssProperties": new, "scale": … }   ── load ──▶ new

The object is written as text and read again, so its doubles have to be such that they are read
back; that is all that is asked of what others keep there.
-/

namespace DesignTokens.MappingFile

/-- The file is not there and holds no fields, or it holds the text of an object with the fields. -/
def Holds (tree : FileTree) (path : Text) (fields : Assoc Text Json) : Prop :=
  (tree.read path = .error .missing ∧ fields = []) ∨
    ∃ text, tree.read path = .ok (.text text) ∧ Json.parse? text = some (.object fields)

/-- Every double in the fields is read back from the text that is written for it. -/
def DoublesReadBack (fields : Assoc Text Json) : Prop :=
  ∀ x, .double x ∈ (Json.object fields).numbers → (JsonNumber.double x).ReadsBack

variable {tree tree' : FileTree} {path : Text} {fields : Assoc Text Json} {registry : Registry}

theorem document_eq_ok_iff : document tree path = .ok fields ↔ Holds tree path fields := by
  unfold document Holds
  cases hread : tree.read path with
  | error fault => cases fault <;> simp [eq_comm]
  | ok content =>
    cases content with
    | binary bytes => simp
    | text text =>
      cases hparse : Json.parse? text with
      | none => simp [hparse]
      | some j => cases j <;> simp [hparse]

/-- A file holds the fields of one object. -/
theorem Holds.unique {others : Assoc Text Json} (h : Holds tree path fields)
    (hothers : Holds tree path others) : others = fields := by
  have hdocument := document_eq_ok_iff.mpr h
  rw [document_eq_ok_iff.mpr hothers] at hdocument
  exact Except.ok.inj hdocument

/-- What is loaded depends on what is read. -/
theorem load_congr (h : tree.read path = tree'.read path) : load tree path = load tree' path := by
  unfold load document
  rw [h]

/-! ### What is written -/

/-- The fields that a save keeps: those of the file if it can be understood. -/
def kept (tree : FileTree) (path : Text) : Assoc Text Json :=
  match document tree path with
  | .ok fields => fields
  | .error _ => []

theorem kept_of_holds (h : Holds tree path fields) : kept tree path = fields := by
  rw [kept, document_eq_ok_iff.mpr h]

/-- A save writes the fields it keeps with the mappings among them. -/
theorem save_eq_ok_iff : save tree path registry = .ok tree' ↔
    tree.write path (Json.object (withMappings (kept tree path) registry)).pretty = .ok tree' := by
  unfold save kept
  cases document tree path with
  | ok fields =>
    simp only
    cases tree.write path (Json.object (withMappings fields registry)).pretty <;> simp
  | error fault =>
    simp only
    cases tree.write path (Json.object (withMappings [] registry)).pretty <;> simp

/-- Mappings can be saved in any file that can be read, whatever it holds. -/
theorem exists_save_of_read {content : FileContent} (h : tree.read path = .ok content)
    (registry : Registry) : ∃ tree', save tree path registry = .ok tree' := by
  obtain ⟨tree', hwrite⟩ := FileTree.exists_write_of_read h
    (Json.object (withMappings (kept tree path) registry)).pretty
  exact ⟨tree', save_eq_ok_iff.mpr hwrite⟩

theorem doublesReadBack_kept (h : ∀ fields, Holds tree path fields → DoublesReadBack fields) :
    DoublesReadBack (kept tree path) := by
  unfold kept
  split
  · next fields hdocument => exact h fields (document_eq_ok_iff.mp hdocument)
  · intro x hx
    cases hx

/-- The list that mappings are saved as. -/
def savedList (mappings : List Mapping) : Json := .array (mappings.map Mapping.toJson)

theorem readable_savedList (mappings : List Mapping) {levels : Nat} (h : 3 ≤ levels) :
    (savedList mappings).Readable levels := by
  refine Json.readable_array.mpr ⟨by omega, fun item hitem => ?_⟩
  obtain ⟨m, -, rfl⟩ := List.mem_map.mp hitem
  exact m.readable_toJson (by omega)

theorem not_mem_numbers_savedList (mappings : List Mapping) (n : JsonNumber) :
    n ∉ (savedList mappings).numbers := by
  intro hn
  obtain ⟨item, hitem, hn⟩ := Json.mem_numbers_array.mp hn
  obtain ⟨m, -, rfl⟩ := List.mem_map.mp hitem
  exact m.not_mem_numbers_toJson n hn

/-- Putting the mappings among readable fields leaves them readable. -/
theorem readable_withMappings (h : (Json.object fields).Readable Draft.mostLevels) :
    (Json.object (withMappings fields registry)).Readable Draft.mostLevels := by
  obtain ⟨hlevels, hkeys, hvalues⟩ := Json.readable_object.mp h
  refine Json.readable_object.mpr ⟨hlevels, Assoc.nodup_keys_insert _ _ hkeys, fun p hp => ?_⟩
  rcases Assoc.mem_insert hp with rfl | hp
  · exact readable_savedList _ (by decide)
  · exact hvalues p hp

theorem doublesReadBack_withMappings (h : DoublesReadBack fields) :
    DoublesReadBack (withMappings fields registry) := by
  intro x hx
  obtain ⟨p, hp, hx⟩ := Json.mem_numbers_object.mp hx
  rcases Assoc.mem_insert hp with rfl | hp
  · exact absurd hx (not_mem_numbers_savedList _ _)
  · exact h x (Json.mem_numbers_object.mpr ⟨p, hp, hx⟩)

/-! ### What is read again -/

theorem readable_kept (tree : FileTree) (path : Text) :
    (Json.object (kept tree path)).Readable Draft.mostLevels := by
  have hempty : (Json.object []).Readable Draft.mostLevels :=
    Json.readable_object.mpr ⟨by decide, List.nodup_nil, fun _ hp => absurd hp List.not_mem_nil⟩
  unfold kept
  split
  · next fields hdocument =>
    rcases document_eq_ok_iff.mp hdocument with ⟨-, rfl⟩ | ⟨text, -, hparse⟩
    · exact hempty
    · exact Json.readable_of_parse? hparse
  · exact hempty

/-- After a save the file holds the text of the fields with the mappings among them. -/
theorem holds_of_save (hdoubles : DoublesReadBack (kept tree path))
    (h : save tree path registry = .ok tree') :
    ∃ text, tree'.read path = .ok (.text text) ∧
      Json.parse? text = some (.object (withMappings (kept tree path) registry)) :=
  ⟨_, FileTree.read_of_write (save_eq_ok_iff.mp h),
    Json.parse?_pretty (readable_withMappings (readable_kept tree path))
    (doublesReadBack_withMappings hdoubles)⟩

/-- The mappings that a file's object has under their key are loaded. -/
theorem load_of_holds {mappings : List Mapping} (h : Holds tree path fields)
    (hfound : Assoc.find? key fields = some (.array (mappings.map Mapping.toJson)))
    (htargets : ∀ m ∈ mappings, m.targets.Nodup) : load tree path = .ok mappings := by
  have hdocument := document_eq_ok_iff.mpr h
  have hread := Mapping.listOfJson?_map_toJson htargets
  rw [load, hdocument]
  simp only [hfound, hread]

/-- What was saved is loaded. -/
theorem load_of_save (hdoubles : DoublesReadBack (kept tree path))
    (htargets : registry.HasTargetSets)
    (h : save tree path registry = .ok tree') : load tree' path = .ok registry.persistable := by
  refine load_of_holds (Or.inr (holds_of_save hdoubles h)) ?_ fun m hm => ?_
  · rw [withMappings, Assoc.find?_insert, if_pos rfl]
  · exact htargets m (List.mem_filter.mp hm).1

/-- Saving keeps the rest of the document and loads back: when mappings are saved in a file that is
not there or holds an object, the file then holds an object with the same keys in the same order,
the key of the mappings behind them if it is new, in which that key has the saved list and every
other key the value it had; and loading gives the saved mappings, each with its name, its targets
in order and its description or none. -/
theorem saving_keeps_the_rest (hbefore : Holds tree path fields)
    (hdoubles : DoublesReadBack fields) (htargets : registry.HasTargetSets)
    (hsave : save tree path registry = .ok tree') :
    ∃ text after, tree'.read path = .ok (.text text) ∧ Json.parse? text = some (.object after) ∧
      Assoc.keys after =
        (if key ∈ Assoc.keys fields then Assoc.keys fields else Assoc.keys fields ++ [key]) ∧
      (∀ other, other ≠ key → Assoc.find? other after = Assoc.find? other fields) ∧
      Assoc.find? key after = some (.array (registry.persistable.map Mapping.toJson)) ∧
      load tree' path = .ok registry.persistable := by
  obtain rfl : kept tree path = fields := kept_of_holds hbefore
  have hload := load_of_save hdoubles htargets hsave
  obtain ⟨text, hread, hparse⟩ := holds_of_save hdoubles hsave
  refine ⟨text, _, hread, hparse, ?_, fun other hother => ?_, ?_, hload⟩
  · rw [withMappings, Assoc.keys_insert]
    congr
  · rw [withMappings, Assoc.find?_insert, if_neg (Ne.symm hother)]
  · rw [withMappings, Assoc.find?_insert, if_pos rfl]

/-- The mappings stand between the values of others, one of which is a double. -/
theorem saving_between_other_keys :
    let fields : Assoc Text Json := [("theme", .string "dark"), (key, .array []),
      ("scale", .array [.number (.double (.finite false 6755399441055744 (-52))),
        .number (.integer (-7))])]
    let tree : FileTree := ⟨[], [(["m.json"], .file (.text (Json.object fields).pretty))]⟩
    let registry := Registry.ofSaved
      [⟨"inset-x", ["left", "right"], some "sides"⟩, ⟨"card-gap", ["gap"], none⟩]
    Holds tree "m.json" fields ∧ DoublesReadBack fields ∧
      registry.HasTargetSets ∧
      ∃ tree', save tree "m.json" registry = .ok tree' ∧
        ∃ text after, tree'.read "m.json" = .ok (.text text) ∧
          Json.parse? text = some (.object after) ∧
          Assoc.keys after =
            (if key ∈ Assoc.keys fields then Assoc.keys fields else Assoc.keys fields ++ [key]) ∧
          (∀ other, other ≠ key → Assoc.find? other after = Assoc.find? other fields) ∧
          Assoc.find? key after = some (.array (registry.persistable.map Mapping.toJson)) ∧
          load tree' "m.json" = .ok registry.persistable := by
  intro fields tree registry
  have hreadable : (Json.object fields).Readable Draft.mostLevels := by
    refine Json.readable_object.mpr ⟨by decide, by decide, ?_⟩
    simp [fields, Json.Readable, Json.ItemsReadable, JsonNumber.InRange,
      JsonNumber.significandBound, Draft.mostLevels]
  have hdoubles : DoublesReadBack fields := by
    intro x hx
    obtain rfl : x = .finite false 6755399441055744 (-52) := by
      simpa [fields, Json.numbers, Json.numbersOfFields, Json.numbersOfItems] using hx
    decide +kernel
  have hread : tree.read "m.json" = .ok (.text (Json.object fields).pretty) := rfl
  have hbefore : Holds tree "m.json" fields :=
    Or.inr ⟨_, hread, Json.parse?_pretty hreadable hdoubles⟩
  have htargets : registry.HasTargetSets := by
    unfold Registry.HasTargetSets
    decide
  obtain ⟨tree', hsave⟩ := exists_save_of_read hread registry
  exact ⟨hbefore, hdoubles, htargets, tree', hsave,
    saving_keeps_the_rest hbefore hdoubles htargets hsave⟩

end DesignTokens.MappingFile
