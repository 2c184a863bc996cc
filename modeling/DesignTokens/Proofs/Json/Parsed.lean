import DesignTokens.Json.Draft
import DesignTokens.Proofs.Assoc
import DesignTokens.Proofs.Json.Readable

/-!
What is read from a text is readable: a draft may repeat a key, the document that is made from it
holds each key once, at every level.
-/

namespace DesignTokens

namespace Draft

mutual

theorem readable_of_toJson? {levels : Nat} {j : Json} :
    ∀ {draft : Draft}, draft.toJson? levels = some j → j.Readable levels
  | .null, h | .bool _, h => by
    rw [toJson?, Option.some.injEq] at h
    rw [← h]
    trivial
  | .number _, h => by
    rw [toJson?, Option.map_eq_some_iff] at h
    obtain ⟨n, hn, rfl⟩ := h
    exact JsonNumber.inRange_of_ofText? hn
  | .quoted _, h => by
    rw [toJson?, Option.map_eq_some_iff] at h
    obtain ⟨t, _, rfl⟩ := h
    trivial
  | .array items, h => by
    rw [toJson?] at h
    split at h
    · cases h
    · next hlevels =>
      obtain ⟨js, hjs, rfl⟩ := Option.map_eq_some_iff.mp h
      exact Json.readable_array.mpr ⟨hlevels, readable_of_itemsToJson? hjs⟩
  | .object fields, h => by
    rw [toJson?] at h
    split at h
    · cases h
    · next hlevels =>
      obtain ⟨fs, hfs, rfl⟩ := Option.map_eq_some_iff.mp h
      refine Json.readable_object.mpr ⟨hlevels, Assoc.nodup_keys_ofList fs, fun p hp => ?_⟩
      exact readable_of_fieldsToJson? hfs p (Assoc.mem_of_mem_ofList hp)

theorem readable_of_itemsToJson? {levels : Nat} {js : List Json} :
    ∀ {items : List Draft}, itemsToJson? levels items = some js → ∀ j ∈ js, j.Readable levels
  | [], h => by
    rw [itemsToJson?, Option.some.injEq] at h
    rw [← h]
    exact fun _ hj => absurd hj List.not_mem_nil
  | item :: items, h => by
    simp only [itemsToJson?, Option.bind_eq_bind, Option.bind_eq_some_iff, Option.some.injEq] at h
    obtain ⟨j, hj, js', hjs, rfl⟩ := h
    exact List.forall_mem_cons.mpr ⟨readable_of_toJson? hj, readable_of_itemsToJson? hjs⟩

theorem readable_of_fieldsToJson? {levels : Nat} {fs : List (Text × Json)} :
    ∀ {fields : List (List QuotedPart × Draft)},
      fieldsToJson? levels fields = some fs → ∀ p ∈ fs, p.2.Readable levels
  | [], h => by
    rw [fieldsToJson?, Option.some.injEq] at h
    rw [← h]
    exact fun _ hp => absurd hp List.not_mem_nil
  | (key, value) :: fields, h => by
    simp only [fieldsToJson?, Option.bind_eq_bind, Option.bind_eq_some_iff, Option.some.injEq] at h
    obtain ⟨k, _, j, hj, fs', hfs, rfl⟩ := h
    exact List.forall_mem_cons.mpr ⟨readable_of_toJson? hj, readable_of_fieldsToJson? hfs⟩

end

end Draft

/-- Every document that is read is readable. -/
theorem Json.readable_of_parse? {t : Text} {j : Json} (h : Json.parse? t = some j) :
    j.Readable Draft.mostLevels := by
  obtain ⟨draft, _, hj⟩ := Option.bind_eq_some_iff.mp h
  exact Draft.readable_of_toJson? hj

end DesignTokens
