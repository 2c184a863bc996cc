import DesignTokens.Proofs.CommandLine.Edits

/-!
Mapping files that cannot be understood. A file may be no object, or have a list in which one entry
is no mapping; either way the context is made from the defaults, as if nothing were there. Only a
save tells the two apart, by what else it keeps; neither keeps the mappings:

    file            load     registry     after a save
    no object       error    defaults     nothing but the additions
    a bad entry     error    defaults     the object, with the additions in the place of its list

So such a file outlives a run only if the run has no edits.
-/

namespace DesignTokens.Arguments

variable {a : Arguments} {tree tree' : FileTree} {path : Text} {content : FileContent}
  {fault : StoreError}

/-- Without edits no file changes. -/
theorem loadContext_of_no_edits (tree : FileTree) (hmap : a.map = []) (hunmap : a.unmap = []) :
    a.loadContext tree =
      .ok (Context.load tree (a.keywordCandidates tree) a.mappingFile, tree) := by
  unfold loadContext
  rw [hmap, hunmap]
  rfl

/-- When nothing can be loaded, what is saved is what the edits make of the defaults. -/
theorem edited_of_error (h : MappingFile.load tree path = .error fault) :
    a.edited tree path = (a.edit (Mapper.ofRegistry Registry.defaults)).registry := by
  rw [edited, MappingFile.loaded, h]
  rfl

/-- When nothing can be loaded, only additions are saved. -/
theorem mem_additions_of_error (h : MappingFile.load tree path = .error fault) {m : Mapping}
    (hm : m ∈ (a.edited tree path).persistable) : m ∈ a.additions := by
  obtain ⟨hentry, hname⟩ := Registry.mem_persistable.mp hm
  have hfound : (a.edited tree path).find? m.name = some m :=
    (a.distinct_edited tree path).find?_of_mem hentry (Text.sameName_refl m.name)
  have hloaded : MappingFile.loaded tree path = [] := by
    rw [MappingFile.loaded, h]
  rw [find?_edited, hloaded, Registry.find?_defaults hname, List.findRev?, Option.or_none,
    Option.or_none] at hfound
  split at hfound
  · cases hfound
  · rw [List.findRev?_eq_find?_reverse] at hfound
    exact List.mem_reverse.mp (List.mem_of_find?_eq_some hfound)

/-- A mapping file that is there but cannot be loaded outlives a run, which never fails on it, just
if the run has no edits. With edits the file then has what they make of the defaults, which is some
of the additions and nothing that was in the file; and of its other keys it has those of an object,
and none if it was no object. -/
theorem misread_file_survives_iff (hfile : a.mappingFile = some path)
    (hread : tree.read path = .ok content) (hload : MappingFile.load tree path = .error fault)
    (hdoubles : ∀ fields, MappingFile.Holds tree path fields →
      MappingFile.DoublesReadBack fields) :
    ∃ context tree', a.loadContext tree = .ok (context, tree') ∧
      (tree'.read path = .ok content ↔ a.map = [] ∧ a.unmap = []) ∧
      (a.map ≠ [] ∨ a.unmap ≠ [] →
        (∃ text after, tree'.read path = .ok (.text text) ∧
          Json.parse? text = some (.object after) ∧
          ∀ other, other ≠ MappingFile.key →
            Assoc.find? other after = Assoc.find? other (MappingFile.kept tree path)) ∧
        ∃ later, MappingFile.load tree' path = .ok later ∧
          later = (a.edit (Mapper.ofRegistry Registry.defaults)).registry.persistable ∧
          ∀ m ∈ later, ∃ s ∈ a.map, m = ⟨s.name, s.targets.eraseDups, .none⟩) := by
  by_cases hsome : a.map = [] ∧ a.unmap = []
  · obtain ⟨hmap, hunmap⟩ := hsome
    refine ⟨_, tree, loadContext_of_no_edits tree hmap hunmap, ?_, fun hedits => ?_⟩
    · exact iff_of_true hread ⟨hmap, hunmap⟩
    · exact absurd ⟨hmap, hunmap⟩ (not_and_or.mpr hedits)
  · obtain ⟨tree', hsave⟩ := MappingFile.exists_save_of_read hread (a.edited tree path)
    have hkept := MappingFile.doublesReadBack_kept hdoubles
    have hlater := MappingFile.load_of_save hkept (a.hasTargetSets_edited tree path) hsave
    obtain ⟨text, htext, hparse⟩ := MappingFile.holds_of_save hkept hsave
    refine ⟨_, tree', (loadContext_eq_ok_iff hfile hsome).mpr ⟨rfl, hsave⟩, ?_, fun _ => ⟨?_, ?_⟩⟩
    · -- the file can be loaded now, so it is another one
      refine iff_of_false (fun hsame => ?_) hsome
      rw [MappingFile.load_congr (hsame.trans hread.symm), hload] at hlater
      cases hlater
    · refine ⟨text, _, htext, hparse, fun other hother => ?_⟩
      rw [MappingFile.withMappings, Assoc.find?_insert, if_neg (Ne.symm hother)]
    · refine ⟨_, hlater, congrArg Registry.persistable (edited_of_error hload), fun m hm => ?_⟩
      obtain ⟨s, hs, rfl⟩ := List.mem_map.mp (mem_additions_of_error hload hm)
      exact ⟨s, hs, rfl⟩

/-- One entry of the list has no name. -/
theorem misread_file_of_bad_entry :
    let fields : Assoc Text Json := [("theme", .string "dark"), (MappingFile.key, .array
      [Mapping.toJson ⟨"inset-x", ["left", "right"], .none⟩, .object [("mappedTo", .array [])]])]
    let content : FileContent := .text (Json.object fields).pretty
    let tree : FileTree := ⟨[], [(["m.json"], .file content)]⟩
    let a : Arguments := { Arguments.none with
      mappingFile := some "m.json"
      map := [⟨"card-gap", ["gap"]⟩] }
    tree.read "m.json" = .ok content ∧
      MappingFile.load tree "m.json" = .error (.malformed "m.json") ∧
      (∀ fields, MappingFile.Holds tree "m.json" fields → MappingFile.DoublesReadBack fields) ∧
      ∃ context tree', a.loadContext tree = .ok (context, tree') ∧
        (tree'.read "m.json" = .ok content ↔ a.map = [] ∧ a.unmap = []) ∧
        (a.map ≠ [] ∨ a.unmap ≠ [] →
          (∃ text after, tree'.read "m.json" = .ok (.text text) ∧
            Json.parse? text = some (.object after) ∧
            ∀ other, other ≠ MappingFile.key →
              Assoc.find? other after = Assoc.find? other (MappingFile.kept tree "m.json")) ∧
          ∃ later, MappingFile.load tree' "m.json" = .ok later ∧
            later = (a.edit (Mapper.ofRegistry Registry.defaults)).registry.persistable ∧
            ∀ m ∈ later, ∃ s ∈ a.map, m = ⟨s.name, s.targets.eraseDups, .none⟩) := by
  intro fields content tree a
  have hreadable : (Json.object fields).Readable Draft.mostLevels := by
    refine Json.readable_object.mpr ⟨by decide, by decide, ?_⟩
    simp [fields, Mapping.readable_toJson, Json.Readable, Json.ItemsReadable, Json.FieldsReadable,
      Assoc.keys, Draft.mostLevels]
  have hnumbers : ∀ n, n ∉ (Json.object fields).numbers := by
    simp [fields, Mapping.not_mem_numbers_toJson, Json.numbers, Json.numbersOfFields,
      Json.numbersOfItems]
  have hdoubles : MappingFile.DoublesReadBack fields := fun x hx => absurd hx (hnumbers _)
  have hread : tree.read "m.json" = .ok content := rfl
  have hbefore : MappingFile.Holds tree "m.json" fields :=
    Or.inr ⟨_, hread, Json.parse?_pretty hreadable hdoubles⟩
  have hload : MappingFile.load tree "m.json" = .error (.malformed "m.json") := by
    have hdocument := MappingFile.document_eq_ok_iff.mpr hbefore
    have hfound : Assoc.find? MappingFile.key fields = some (.array
        [Mapping.toJson ⟨"inset-x", ["left", "right"], .none⟩,
          .object [("mappedTo", .array [])]]) := rfl
    rw [MappingFile.load, hdocument]
    simp only [hfound]
    decide
  have honly : ∀ fields, MappingFile.Holds tree "m.json" fields →
      MappingFile.DoublesReadBack fields := by
    intro others hothers
    rw [hbefore.unique hothers]
    exact hdoubles
  exact ⟨hread, hload, honly, misread_file_survives_iff rfl hread hload honly⟩

/-- A comma too many, and both the other key and the mapping are lost. -/
theorem misread_file_of_trailing_comma :
    let text : Text := "\x7b\"theme\": \"dark\", \"customCssProperties\": " ++
      "[\x7b\"name\": \"inset-x\", \"mappedTo\": [\"left\", \"right\"]\x7d],\x7d"
    let tree : FileTree := ⟨[], [(["m.json"], .file (.text text))]⟩
    let a : Arguments := { Arguments.none with
      mappingFile := some "m.json"
      map := [⟨"card-gap", ["gap"]⟩] }
    a.mappingFile = some "m.json" ∧
      tree.read "m.json" = .ok (.text text) ∧
      MappingFile.load tree "m.json" = .error (.malformed "m.json") ∧
      ∃ context tree' after, a.loadContext tree = .ok (context, tree') ∧
        tree'.read "m.json" = .ok (.text after) ∧ after ≠ text ∧
        after = "\x7b\n  \"customCssProperties\": [\n    \x7b\n      \"name\": \"card-gap\",\n" ++
          "      \"mappedTo\": [\n        \"gap\"\n      ]\n    \x7d\n  ]\n\x7d" := by
  intro text tree a
  have hread : tree.read "m.json" = .ok (.text text) := rfl
  have hload : MappingFile.load tree "m.json" = .error (.malformed "m.json") := by decide
  obtain ⟨tree', hsave⟩ := MappingFile.exists_save_of_read hread (a.edited tree "m.json")
  have hwritten := FileTree.read_of_write (MappingFile.save_eq_ok_iff.mp hsave)
  exact ⟨rfl, hread, hload, _, tree', _, (loadContext_eq_ok_iff rfl (by decide)).mpr ⟨rfl, hsave⟩,
    hwritten, by decide, by decide⟩

end DesignTokens.Arguments
