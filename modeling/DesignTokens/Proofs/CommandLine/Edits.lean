import DesignTokens.CommandLine.Load
import DesignTokens.Proofs.Mapping.Reloading
import DesignTokens.Proofs.Storage.Saving
import Mathlib.Logic.Basic

/-!
Edits of mappings from the command line. The mappings of the file are registered over the defaults,
then the additions one after the other, then the removals, and what comes of it is saved:

    file ── load ──▶ saved ── ofSaved ──▶ registry ── map … unmap … ──▶ edited ── save ──▶ file

Told by what is found under a name, each stage only looks at the last mapping of that name, so the
file holds the last addition if there is one and no removal, and else what it held before.
-/

namespace DesignTokens

namespace Registry

/-- After removals nothing is found under their names, and under others what was found before. -/
theorem find?_foldl_remove (names : List Text) {r : Registry} (h : r.Distinct) (name : Text) :
    (names.foldl (fun r gone => (r.remove gone).2) r).find? name =
      if names.any (·.sameName name) then none else r.find? name := by
  induction names generalizing r with
  | nil => rfl
  | cons gone names ih =>
    rw [List.foldl_cons, ih (h.remove gone), find?_remove h, List.any_cons,
      Text.sameName_comm name gone]
    cases gone.sameName name <;> simp

end Registry

namespace MappingFile

/-- The mappings that can be loaded from a file; none if it cannot be understood. -/
def loaded (tree : FileTree) (path : Text) : List Mapping :=
  match load tree path with
  | .ok mappings => mappings
  | .error _ => []

variable {tree : FileTree} {path : Text}

/-- Every loaded mapping names its targets once. -/
theorem nodup_of_mem_loaded {m : Mapping} (h : m ∈ loaded tree path) : m.targets.Nodup := by
  unfold loaded at h
  split at h
  · next mappings hload =>
    unfold load at hload
    split at hload
    · cases hload
    · split at hload
      · obtain rfl := Except.ok.inj hload
        cases h
      · split at hload
        · next read hread =>
          obtain rfl := Except.ok.inj hload
          exact Mapping.nodup_of_listOfJson? hread m h
        · cases hload
  · cases h

end MappingFile

namespace Arguments

variable {a : Arguments} {tree tree' : FileTree} {path : Text}

/-- The mapping that an addition asks for. -/
def additions (a : Arguments) : List Mapping := a.map.map fun s => Mapping.of s.name s.targets .none

/-- The calls that the edits are. -/
def calls (a : Arguments) : List Mapper.Call :=
  (a.map.map fun s => .update s.name s.targets .none) ++ a.unmap.map .remove

/-- The last addition of a name. -/
theorem findRev?_additions (a : Arguments) (name : Text) :
    a.additions.findRev? (·.name.sameName name) =
      (a.map.findRev? (·.name.sameName name)).map fun s =>
        ⟨s.name, s.targets.eraseDups, .none⟩ := by
  unfold additions
  induction a.map with
  | nil => rfl
  | cons s settings ih =>
    rw [List.map_cons, List.findRev?, List.findRev?, ih]
    cases settings.findRev? (·.name.sameName name) with
    | some last => rfl
    | none => cases hsame : s.name.sameName name <;> simp [Mapping.of, hsame]

theorem edit_eq_run (a : Arguments) (m : Mapper) : a.edit m = m.run a.calls := by
  rw [edit, Mapper.run, calls, List.foldl_append, List.foldl_map, List.foldl_map]
  rfl

theorem registry_edit (a : Arguments) (m : Mapper) :
    (a.edit m).registry = a.unmap.foldl (fun r gone => (r.remove gone).2)
      (a.additions.foldl Registry.upsert m.registry) := by
  have hadded : ∀ (settings : List MappingSetting) (m : Mapper),
      (settings.foldl (fun m s => m.update s.name s.targets .none) m).registry =
        (settings.map fun s => Mapping.of s.name s.targets .none).foldl Registry.upsert
          m.registry := by
    intro settings
    induction settings with
    | nil => exact fun _ => rfl
    | cons s settings ih => exact fun m => ih (m.update s.name s.targets .none)
  have hremoved : ∀ (names : List Text) (m : Mapper),
      (names.foldl (fun m gone => (m.remove gone).2) m).registry =
        names.foldl (fun r gone => (r.remove gone).2) m.registry := by
    intro names
    induction names with
    | nil => exact fun _ => rfl
    | cons gone names ih => exact fun m => ih (m.remove gone).2
  rw [edit, hremoved, hadded]
  rfl

/-- The registry that a command line saves in a file. -/
def edited (a : Arguments) (tree : FileTree) (path : Text) : Registry :=
  (a.edit (Mapper.ofRegistry (Registry.ofSaved (MappingFile.loaded tree path)))).registry

theorem distinct_edited (a : Arguments) (tree : FileTree) (path : Text) :
    (a.edited tree path).Distinct := by
  rw [edited, edit_eq_run]
  exact Mapper.distinct_run (Registry.distinct_ofSaved _) a.calls

theorem hasTargetSets_edited (a : Arguments) (tree : FileTree) (path : Text) :
    (a.edited tree path).HasTargetSets := by
  rw [edited, edit_eq_run]
  refine Mapper.hasTargetSets_run (Registry.hasTargetSets_ofSaved ?_) a.calls
  exact fun m hm => MappingFile.nodup_of_mem_loaded hm

/-- What edits leave under a name: nothing if it is removed, else the last addition, else the last
mapping that was loaded, else the default. -/
theorem find?_edited (a : Arguments) (tree : FileTree) (path name : Text) :
    (a.edited tree path).find? name =
      if a.unmap.any (·.sameName name) then .none
      else (a.additions.findRev? (·.name.sameName name)).or
        (((MappingFile.loaded tree path).findRev? (·.name.sameName name)).or
          (Registry.defaults.find? name)) := by
  have hadded : (a.additions.foldl Registry.upsert
      (Registry.ofSaved (MappingFile.loaded tree path))).Distinct :=
    List.foldlRecOn a.additions Registry.upsert (Registry.distinct_ofSaved _)
      fun _ h m _ => h.upsert m
  have hsaved : (Registry.ofSaved (MappingFile.loaded tree path)).find? name =
      ((MappingFile.loaded tree path).findRev? (·.name.sameName name)).or
        (Registry.defaults.find? name) := Registry.find?_foldl_upsert _ _ name
  rw [edited, registry_edit, Mapper.ofRegistry, Registry.find?_foldl_remove _ hadded,
    Registry.find?_foldl_upsert, hsaved]

/-! ### Saving the edits -/

/-- A context is made from the mappings that can be loaded. -/
theorem load_eq (tree : FileTree) (keywordFiles : List Text) (path : Text) :
    Context.load tree keywordFiles (some path) =
      Context.of (KeywordSet.loadOrCommon tree keywordFiles)
        (Registry.ofSaved (MappingFile.loaded tree path)) := by
  rw [Context.load, MappingFile.loaded, Option.map_some]
  cases MappingFile.load tree path <;> rfl

/-- When there are edits and a mapping file, what is saved is the edited registry. -/
theorem loadContext_eq_ok_iff (hfile : a.mappingFile = some path)
    (hedits : ¬(a.map = [] ∧ a.unmap = [])) {context : Context} :
    a.loadContext tree = .ok (context, tree') ↔
      context = ⟨KeywordSet.loadOrCommon tree (a.keywordCandidates tree),
        a.edit (Mapper.ofRegistry (Registry.ofSaved (MappingFile.loaded tree path)))⟩ ∧
      MappingFile.save tree path (a.edited tree path) = .ok tree' := by
  have hsome : (a.map.isEmpty && a.unmap.isEmpty) = false := by
    simpa using hedits
  unfold loadContext
  simp only [hsome, hfile, load_eq, Context.of, Bool.false_eq_true, if_false, edited]
  cases MappingFile.save tree path (a.edit _).registry with
  | error cause => simp
  | ok saved => simp [eq_comm]

/-- Edits are exact on disk: after a run with edits on a mapping file that could be loaded, the file
is loaded as a list in which no two names are equal without regard to case and none is a default's;
and under any other name it has nothing if the name is removed, else the last addition of the name
with its targets once each and no description, else the last mapping of the name that was there. -/
theorem edits_are_exact_on_disk {saved : List Mapping} {context : Context}
    (hfile : a.mappingFile = some path) (hload : MappingFile.load tree path = .ok saved)
    (hdoubles : ∀ fields, MappingFile.Holds tree path fields → MappingFile.DoublesReadBack fields)
    (hedits : a.map ≠ [] ∨ a.unmap ≠ []) (hrun : a.loadContext tree = .ok (context, tree')) :
    ∃ later, MappingFile.load tree' path = .ok later ∧
      (later.Pairwise fun m n => ¬m.name.sameName n.name) ∧
      (∀ m ∈ later, isDirectionalShorthand m.name = false) ∧
      ∀ name, isDirectionalShorthand name = false →
        later.find? (·.name.sameName name) =
          if a.unmap.any (·.sameName name) then .none
          else match a.map.findRev? (·.name.sameName name) with
            | some s => some ⟨s.name, s.targets.eraseDups, .none⟩
            | .none => saved.findRev? (·.name.sameName name) := by
  have hsome : ¬(a.map = [] ∧ a.unmap = []) := by
    rw [not_and_or]
    exact hedits
  obtain ⟨-, hsave⟩ := (loadContext_eq_ok_iff hfile hsome).mp hrun
  have hloaded : MappingFile.loaded tree path = saved := by
    rw [MappingFile.loaded, hload]
  have hlater := MappingFile.load_of_save (MappingFile.doublesReadBack_kept hdoubles)
    (a.hasTargetSets_edited tree path) hsave
  have hdistinct := (a.distinct_edited tree path).persistable
  refine ⟨_, hlater, hdistinct, fun m hm => ?_, fun name hname => ?_⟩
  · exact (Registry.mem_persistable.mp hm).2
  · rw [Registry.find?_persistable _ hname, find?_edited, findRev?_additions, hloaded,
      Registry.find?_defaults hname, Option.or_none]
    cases a.map.findRev? (·.name.sameName name) <;> rfl

/-- A name is saved twice, added twice and removed, each time in another case. -/
theorem edits_in_other_case :
    let saved : List Mapping := [⟨"Card-Gap", ["gap"], some "between cards"⟩,
      ⟨"pad-x", ["padding-left", "padding-right"], some "sides"⟩, ⟨"PAD-X", ["left"], .none⟩,
      ⟨"Edge", ["top"], .none⟩]
    let fields : Assoc Text Json := [("theme", .string "dark"),
      (MappingFile.key, MappingFile.savedList saved),
      ("scale", .number (.double (.finite false 6755399441055744 (-52))))]
    let tree : FileTree := ⟨[], [(["m.json"], .file (.text (Json.object fields).pretty))]⟩
    let a : Arguments := { Arguments.none with
      mappingFile := some "m.json"
      map := [⟨"card-gap", ["row-gap"]⟩, ⟨"M", ["margin"]⟩, ⟨"CARD-GAP", ["gap", "gap", "row-gap"]⟩]
      unmap := ["edge"] }
    MappingFile.load tree "m.json" = .ok saved ∧
      (∀ fields, MappingFile.Holds tree "m.json" fields → MappingFile.DoublesReadBack fields) ∧
      ∃ context tree' later, a.loadContext tree = .ok (context, tree') ∧
        MappingFile.load tree' "m.json" = .ok later ∧
        (later.Pairwise fun m n => ¬m.name.sameName n.name) ∧
        (∀ m ∈ later, isDirectionalShorthand m.name = false) ∧
        (∀ name, isDirectionalShorthand name = false →
          later.find? (·.name.sameName name) =
            if a.unmap.any (·.sameName name) then .none
            else match a.map.findRev? (·.name.sameName name) with
              | some s => some ⟨s.name, s.targets.eraseDups, .none⟩
              | .none => saved.findRev? (·.name.sameName name)) ∧
        later.find? (·.name.sameName "card-gap") =
          some ⟨"CARD-GAP", ["gap", "row-gap"], .none⟩ ∧
        later.find? (·.name.sameName "pad-x") = some ⟨"PAD-X", ["left"], .none⟩ ∧
        later.find? (·.name.sameName "Edge") = .none := by
  intro saved fields tree a
  have hreadable : (Json.object fields).Readable Draft.mostLevels := by
    refine Json.readable_object.mpr ⟨by decide, by decide, ?_⟩
    simp [fields, MappingFile.readable_savedList, Json.Readable, JsonNumber.InRange,
      Draft.mostLevels]
  have hdoubles : MappingFile.DoublesReadBack fields := by
    intro x hx
    obtain rfl : x = .finite false 6755399441055744 (-52) := by
      simpa [fields, MappingFile.not_mem_numbers_savedList, Json.numbers,
        Json.numbersOfFields] using hx
    decide +kernel
  have hread : tree.read "m.json" = .ok (.text (Json.object fields).pretty) := rfl
  have hbefore : MappingFile.Holds tree "m.json" fields :=
    Or.inr ⟨_, hread, Json.parse?_pretty hreadable hdoubles⟩
  have hload : MappingFile.load tree "m.json" = .ok saved :=
    MappingFile.load_of_holds hbefore rfl (by decide)
  have honly : ∀ fields, MappingFile.Holds tree "m.json" fields →
      MappingFile.DoublesReadBack fields := by
    intro others hothers
    rw [hbefore.unique hothers]
    exact hdoubles
  obtain ⟨tree', hsave⟩ := MappingFile.exists_save_of_read hread (a.edited tree "m.json")
  have hedits : a.map ≠ [] ∨ a.unmap ≠ [] := by decide
  have hrun : a.loadContext tree = .ok (_, tree') :=
    (loadContext_eq_ok_iff rfl (by decide)).mpr ⟨rfl, hsave⟩
  obtain ⟨later, hlater, hdistinct, hothers, hfound⟩ :=
    edits_are_exact_on_disk rfl hload honly hedits hrun
  exact ⟨hload, honly, _, tree', later, hrun, hlater, hdistinct, hothers, hfound,
    hfound "card-gap" (by decide), hfound "pad-x" (by decide), hfound "Edge" (by decide)⟩

end Arguments

end DesignTokens
