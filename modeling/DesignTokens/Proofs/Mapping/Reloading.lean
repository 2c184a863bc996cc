import DesignTokens.Proofs.Mapping.Calls

/-!
Registries that are saved and made again. The default mappings are not saved, they are put back in
front of what was saved:

    entries            d₁ …  a  … d₄  b        (defaults maybe edited, removed or moved)
    persistable              a        b
    ofSaved            D₁ D₂ D₃ D₄  a  b       (defaults as they are from the start)

So nothing is lost but edits of the default mappings: a name that is saved is neither the name of a
default nor saved twice, hence registering it again puts it at the end.
-/

namespace DesignTokens

/-- The default mappings have the names of the directional shorthands. -/
theorem Mapping.isDirectionalShorthand_of_mem_defaults {m : Mapping} (h : m ∈ defaults) :
    isDirectionalShorthand m.name := by
  have hall : ∀ m ∈ defaults, isDirectionalShorthand m.name := by decide
  exact hall m h

theorem Mapping.exists_default {name : Text} (h : isDirectionalShorthand name) :
    ∃ m ∈ defaults, m.name.sameName name := by
  obtain ⟨shorthand, hmem, hsame⟩ := List.any_eq_true.mp h
  have hnames : defaults.map Mapping.name = directionalShorthands := by decide
  rw [← hnames] at hmem
  obtain ⟨m, hm, rfl⟩ := List.mem_map.mp hmem
  exact ⟨m, hm, hsame⟩

theorem isDirectionalShorthand_congr {a b : Text} (h : a.sameName b) :
    isDirectionalShorthand a = isDirectionalShorthand b := by
  unfold isDirectionalShorthand
  refine congrArg (directionalShorthands.any ·) (funext fun shorthand => ?_)
  rw [Text.sameName_comm shorthand, Text.sameName_comm shorthand, Text.sameName_congr h]

namespace Registry

theorem find?_defaults {name : Text} (h : isDirectionalShorthand name = false) :
    defaults.find? name = none := by
  refine List.find?_eq_none.mpr fun m hm hsame => ?_
  have hdefault := Mapping.isDirectionalShorthand_of_mem_defaults hm
  rw [isDirectionalShorthand_congr hsame, h] at hdefault
  cases hdefault

/-! ### Registering several mappings -/

/-- The last mapping of a name is found, or what was found before if there is none. -/
theorem find?_foldl_upsert (mappings : List Mapping) (r : Registry) (name : Text) :
    (mappings.foldl upsert r).find? name =
      (mappings.findRev? (·.name.sameName name)).or (r.find? name) := by
  induction mappings generalizing r with
  | nil => rfl
  | cons m mappings ih =>
    rw [List.foldl_cons, ih, List.findRev?, find?_upsert, Text.sameName_comm name]
    cases mappings.findRev? (·.name.sameName name) with
    | some last => rfl
    | none => cases m.name.sameName name <;> rfl

/-- Mappings with new names go to the end. -/
theorem entries_foldl_upsert (mappings : List Mapping) {r : Registry}
    (h : Distinct ⟨r.entries ++ mappings⟩) :
    (mappings.foldl upsert r).entries = r.entries ++ mappings := by
  induction mappings generalizing r with
  | nil => exact (List.append_nil _).symm
  | cons m mappings ih =>
    obtain ⟨hentries, hmappings, hacross⟩ := List.pairwise_append.mp h
    have hnew : r.entries.any (·.name.sameName m.name) = false := by
      rw [List.any_eq_false]
      exact fun entry hentry => hacross entry hentry m (List.mem_cons_self ..)
    have hupsert : (r.upsert m).entries = r.entries ++ [m] := by
      rw [entries_upsert hentries, hnew]
      rfl
    have hcons : r.entries ++ m :: mappings = (r.upsert m).entries ++ mappings := by
      rw [hupsert, List.append_assoc, List.singleton_append]
    rw [List.foldl_cons, hcons]
    exact ih (hcons ▸ h)

/-! ### What is saved -/

theorem mem_persistable {r : Registry} {m : Mapping} :
    m ∈ r.persistable ↔ m ∈ r.entries ∧ isDirectionalShorthand m.name = false := by
  rw [persistable, List.mem_filter, Bool.not_eq_true']

theorem Distinct.persistable {r : Registry} (h : r.Distinct) : Distinct ⟨r.persistable⟩ :=
  List.Pairwise.sublist List.filter_sublist h

/-- Under a name that is not a default's, the saved mappings hold what the registry holds. -/
theorem find?_persistable (r : Registry) {name : Text} (h : isDirectionalShorthand name = false) :
    r.persistable.find? (·.name.sameName name) = r.find? name := by
  rw [persistable, List.find?_filter, find?]
  refine congrArg (r.entries.find? ·) (funext fun entry => ?_)
  cases hsame : entry.name.sameName name with
  | false => simp
  | true => simp [isDirectionalShorthand_congr hsame, h]

/-- A registry that is made from saved mappings holds the defaults and behind them the saved. -/
theorem entries_ofSaved_persistable {r : Registry} (h : r.Distinct) :
    (ofSaved r.persistable).entries = Mapping.defaults ++ r.persistable := by
  refine entries_foldl_upsert r.persistable (r := defaults) ?_
  refine List.pairwise_append.mpr ⟨distinct_defaults, h.persistable, fun d hd m hm hsame => ?_⟩
  have hdefault := Mapping.isDirectionalShorthand_of_mem_defaults hd
  rw [isDirectionalShorthand_congr hsame, (mem_persistable.mp hm).2] at hdefault
  cases hdefault

theorem persistable_ofSaved_persistable {r : Registry} (h : r.Distinct) :
    (ofSaved r.persistable).persistable = r.persistable := by
  have hdefaults : Mapping.defaults.filter (!isDirectionalShorthand ·.name) = [] := by decide
  rw [persistable, entries_ofSaved_persistable h, List.filter_append, hdefaults, List.nil_append,
    persistable, List.filter_filter]
  simp only [Bool.and_self]

/-- Reloading restores a registry up to its default mappings: whatever was saved first, and whatever
was done since, a registry that is made from its saved mappings finds the same under every name that
is not a default's and the default mapping under every name that is; behind the defaults it has the
other entries in their order; and the same mappings would be saved again. -/
theorem reloading_restores (saved : List Mapping) (calls : List Mapper.Call) :
    let r := ((Mapper.ofRegistry (ofSaved saved)).run calls).registry
    let again := ofSaved r.persistable
    (∀ name, isDirectionalShorthand name = false → again.find? name = r.find? name) ∧
      (∀ name, isDirectionalShorthand name →
        ∃ m ∈ Mapping.defaults, m.name.sameName name ∧ again.find? name = some m) ∧
      again.entries = Mapping.defaults ++ r.entries.filter (!isDirectionalShorthand ·.name) ∧
      again.persistable = r.persistable := by
  intro r again
  have hr : r.Distinct := Mapper.distinct_run (distinct_ofSaved saved) calls
  have hentries := entries_ofSaved_persistable hr
  have hpersistable := persistable_ofSaved_persistable hr
  refine ⟨fun name hname => ?_, fun name hname => ?_, hentries, hpersistable⟩
  · rw [← find?_persistable again hname, hpersistable, find?_persistable r hname]
  · obtain ⟨m, hm, hsame⟩ := Mapping.exists_default hname
    have hmem : m ∈ again.entries := by
      rw [hentries]
      exact List.mem_append_left _ hm
    exact ⟨m, hm, hsame, (distinct_ofSaved _).find?_of_mem hmem hsame⟩

end Registry

end DesignTokens
