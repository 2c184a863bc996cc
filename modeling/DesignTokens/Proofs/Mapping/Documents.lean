import DesignTokens.Config.Writer
import DesignTokens.Proofs.Json.Settings
import DesignTokens.Proofs.Mapping.TargetSets

/-!
Mappings as documents. A mapping is written with its name, its targets in order and its description
if there is one, and is read again as it was, as long as its targets are a set: reading counts a
repeated target once, so every mapping that was read has that form.
-/

namespace DesignTokens

namespace Setting

theorem list?_eq_some {α : Type} {read : Setting → Option α} {s : Setting} {values : List α}
    (h : list? read s = some values) :
    ∃ items, s = .list items ∧ items.mapM read = some values := by
  cases s with
  | list items => exact ⟨items, rfl, h⟩
  | _ => cases h

end Setting

/-- Values that are each written and read back are read back as a list. -/
theorem mapM_map_of_forall {α β : Type} {write : α → β} {read : β → Option α} {values : List α}
    (h : ∀ v ∈ values, read (write v) = some v) : (values.map write).mapM read = some values := by
  have hread : values.mapM (read ∘ write) = some (values.map id) := mapM_eq_some_map h
  rw [List.mapM_map, hread, List.map_id]

/-- What holds of every value that can be read holds of all values of a list. -/
theorem forall_of_mapM {α β : Type} {read : β → Option α} {p : α → Prop}
    (h : ∀ s v, read s = some v → p v) {items : List β} :
    ∀ {values : List α}, items.mapM read = some values → ∀ v ∈ values, p v := by
  induction items with
  | nil =>
    intro values hread v hv
    obtain rfl : values = [] := by simpa [eq_comm] using hread
    cases hv
  | cons item items ih =>
    intro values hread
    rw [List.mapM_cons] at hread
    obtain ⟨first, hfirst, hrest⟩ := Option.bind_eq_some_iff.mp hread
    obtain ⟨rest, hitems, hvalues⟩ := Option.bind_eq_some_iff.mp hrest
    obtain rfl := Option.some.inj hvalues
    exact List.forall_mem_cons.mpr ⟨h item first hfirst, ih hitems⟩

namespace Mapping

/-- A mapping that is read names no target twice. -/
theorem nodup_of_ofSetting? {format : SettingFormat} {s : Setting} {m : Mapping}
    (h : ofSetting? format s = some m) : m.targets.Nodup := by
  unfold ofSetting? at h
  obtain ⟨fields, -, h⟩ := Option.bind_eq_some_iff.mp h
  split at h
  · next name targets description =>
    obtain ⟨name, -, h⟩ := Option.bind_eq_some_iff.mp h
    obtain ⟨targets, -, h⟩ := Option.bind_eq_some_iff.mp h
    obtain ⟨description, -, h⟩ := Option.bind_eq_some_iff.mp h
    obtain rfl := Option.some.inj h
    exact nodup_eraseDups targets
  · cases h

/-- A mapping is read from the document that it is written as. -/
theorem ofSetting?_toJson {m : Mapping} (h : m.targets.Nodup) :
    ofSetting? Setting.documentFormat (Setting.ofJson m.toJson) = some m := by
  obtain ⟨name, targets, description⟩ := m
  have htargets : Setting.list? Setting.text? (Setting.ofJson (Json.ofTexts targets)) =
      some targets := by
    show (Setting.ofItems (targets.map .string)).mapM Setting.text? = some targets
    rw [Setting.ofItems_eq, List.map_map]
    exact mapM_map_of_forall fun _ _ => rfl
  have hfields : (Setting.ofJson (toJson ⟨name, targets, description⟩)).fields?
      Setting.documentFormat fieldNames =
      some [some (.text name), some (Setting.ofJson (Json.ofTexts targets)),
        description.map .text] := by
    cases description <;> rfl
  have hdescription : Setting.orElse none (Setting.nullable? Setting.text?)
      (description.map .text) = some description := by
    cases description <;> rfl
  rw [ofSetting?, hfields]
  show ((Setting.list? Setting.text? (Setting.ofJson (Json.ofTexts targets))).bind fun targets =>
    (Setting.orElse none (Setting.nullable? Setting.text?) (description.map .text)).bind
      fun description => some (Mapping.of name targets description)) = _
  rw [htargets, Option.bind_some, hdescription, Option.bind_some, of,
    eraseDups_of_nodup h]

/-- Mappings are read from the list that they are written as. -/
theorem listOfJson?_map_toJson {mappings : List Mapping} (h : ∀ m ∈ mappings, m.targets.Nodup) :
    listOfJson? (.array (mappings.map toJson)) = some mappings := by
  show (Setting.ofItems (mappings.map toJson)).mapM (ofSetting? Setting.documentFormat) = _
  rw [Setting.ofItems_eq, List.map_map]
  exact mapM_map_of_forall fun m hm => ofSetting?_toJson (h m hm)

theorem nodup_of_listOfJson? {j : Json} {mappings : List Mapping}
    (h : listOfJson? j = some mappings) : ∀ m ∈ mappings, m.targets.Nodup := by
  obtain ⟨items, -, hread⟩ := Setting.list?_eq_some h
  exact forall_of_mapM (fun _ _ => nodup_of_ofSetting?) hread

end Mapping

/-! ### Texts in a document -/

theorem Json.not_mem_numbers_ofTexts (ts : List Text) (n : JsonNumber) :
    n ∉ (Json.ofTexts ts).numbers := by
  intro hn
  obtain ⟨item, hitem, hn⟩ := Json.mem_numbers_array.mp hn
  obtain ⟨t, -, rfl⟩ := List.mem_map.mp hitem
  cases hn

theorem Json.readable_ofTexts (ts : List Text) {levels : Nat} (h : levels ≠ 0) :
    (Json.ofTexts ts).Readable levels := by
  refine Json.readable_array.mpr ⟨h, fun item hitem => ?_⟩
  obtain ⟨t, -, rfl⟩ := List.mem_map.mp hitem
  trivial

namespace Mapping

/-- The fields of a written mapping. -/
def writtenFields (m : Mapping) : Assoc Text Json :=
  ("name", .string m.name) :: ("mappedTo", Json.ofTexts m.targets) ::
    (m.description.map fun d => (("description" : Text), Json.string d)).toList

theorem toJson_eq (m : Mapping) : m.toJson = .object m.writtenFields := rfl

theorem nodup_keys_writtenFields (m : Mapping) : (Assoc.keys m.writtenFields).Nodup := by
  obtain ⟨name, targets, description⟩ := m
  cases description with
  | none =>
    show ["name".toList, "mappedTo".toList].Nodup
    decide
  | some d =>
    show ["name".toList, "mappedTo".toList, "description".toList].Nodup
    decide

/-- The values of a written mapping are texts and its list of targets. -/
theorem mem_writtenFields {m : Mapping} {p : Text × Json} (h : p ∈ m.writtenFields) :
    (∃ t, p.2 = .string t) ∨ p.2 = Json.ofTexts m.targets := by
  rcases List.mem_cons.mp h with rfl | h
  · exact Or.inl ⟨m.name, rfl⟩
  · rcases List.mem_cons.mp h with rfl | h
    · exact Or.inr rfl
    · obtain ⟨d, -, rfl⟩ := Option.map_eq_some_iff.mp (Option.mem_toList.mp h)
      exact Or.inl ⟨d, rfl⟩

/-- A written mapping holds no numbers. -/
theorem not_mem_numbers_toJson (m : Mapping) (n : JsonNumber) : n ∉ m.toJson.numbers := by
  rw [toJson_eq, Json.mem_numbers_object]
  rintro ⟨p, hp, hn⟩
  rcases mem_writtenFields hp with ⟨t, ht⟩ | htargets
  · rw [ht] at hn
    cases hn
  · rw [htargets] at hn
    exact Json.not_mem_numbers_ofTexts m.targets n hn

/-- A written mapping nests two levels. -/
theorem readable_toJson (m : Mapping) {levels : Nat} (h : 2 ≤ levels) :
    m.toJson.Readable levels := by
  rw [toJson_eq, Json.readable_object]
  refine ⟨by omega, nodup_keys_writtenFields m, fun p hp => ?_⟩
  rcases mem_writtenFields hp with ⟨t, ht⟩ | htargets
  · rw [ht]
    trivial
  · rw [htargets]
    exact Json.readable_ofTexts m.targets (by omega)

end Mapping

end DesignTokens
