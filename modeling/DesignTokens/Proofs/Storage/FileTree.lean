import DesignTokens.Storage.FileTree

/-!
Reading what was written. A text is written to the place that the path leads to, over what lies
there unless it is a directory; so every directory stays one, and the path leads to the same place
afterwards:

    path ── locate ──▶ place        no directory, so not on the way to any place

Hence the text is found under its path, and nothing changes anywhere else.
-/

namespace DesignTokens.FileTree

/-- The tree with a node in the place of what lies there. -/
def put (tree : FileTree) (place : List Text) (node : FileNode) : FileTree :=
  { tree with nodes := Assoc.insert place node tree.nodes }

theorem node?_put_self {tree : FileTree} {place : List Text} (h : place ≠ []) (node : FileNode) :
    (tree.put place node).node? place = some node := by
  rw [node?, List.isEmpty_eq_false_iff.mpr h, if_neg Bool.false_ne_true, put, Assoc.find?_insert,
    if_pos rfl]

theorem node?_put_of_ne {tree : FileTree} {place other : List Text} (h : other ≠ place)
    (node : FileNode) : (tree.put place node).node? other = tree.node? other := by
  rw [node?, node?, put, Assoc.find?_insert, if_neg (Ne.symm h)]

/-- A walk leads to the same place in any tree that has the same directories. -/
theorem walk_of_directories {tree tree' : FileTree}
    (hkept : ∀ place, tree.node? place = some .directory → tree'.node? place = some .directory)
    {place : List Text} : ∀ {steps here : List Text},
    tree.walk here steps = .ok place → tree'.walk here steps = .ok place
  | [], _, h => h
  | step :: steps, here, h => by
    unfold walk at h ⊢
    cases hnode : tree.node? here with
    | none => rw [hnode] at h; cases h
    | some node =>
      rw [hnode] at h
      cases node with
      | file content => cases h
      | directory =>
        rw [hkept here hnode]
        exact walk_of_directories hkept h

theorem locate_of_directories {tree tree' : FileTree} (hhome : tree'.home = tree.home)
    (hkept : ∀ place, tree.node? place = some .directory → tree'.node? place = some .directory)
    {path : Text} {place : List Text} (h : tree.locate path = .ok place) :
    tree'.locate path = .ok place := by
  unfold locate at h ⊢
  split at h
  · cases h
  · next hpath =>
    rw [if_neg hpath, hhome]
    exact walk_of_directories hkept h

/-- A file is written to the place that its path leads to, which is no directory. -/
theorem target_eq_ok_iff {tree : FileTree} {path : Text} {place : List Text} :
    tree.target path = .ok place ↔
      tree.locate path = .ok place ∧ tree.node? place ≠ some .directory := by
  unfold target
  cases hlocate : tree.locate path with
  | ok found =>
    simp only
    split
    · next hdirectory =>
      simp only [reduceCtorEq, false_iff, not_and, Except.ok.injEq]
      rintro rfl hother
      exact hother hdirectory
    · next hother =>
      simp only [Except.ok.injEq, iff_self_and]
      rintro rfl
      exact hother
  | error fault =>
    simp only [reduceCtorEq, false_and, iff_false]
    intro h
    split at h
    · split at h
      · split at h <;> cases h
      · cases h
    · cases h

theorem write_eq_ok {tree tree' : FileTree} {path text : Text}
    (h : tree.write path text = .ok tree') :
    ∃ place, tree.target path = .ok place ∧ tree' = tree.put place (.file (.text text)) := by
  unfold write at h
  cases htarget : tree.target path with
  | ok place =>
    rw [htarget] at h
    exact ⟨place, rfl, (Except.ok.inj h).symm⟩
  | error fault =>
    rw [htarget] at h
    cases h

/-- A path that can be read leads to the place of a file. -/
theorem read_eq_ok_iff {tree : FileTree} {path : Text} {content : FileContent} :
    tree.read path = .ok content ↔
      ∃ place, tree.locate path = .ok place ∧ tree.node? place = some (.file content) := by
  unfold read
  cases hlocate : tree.locate path with
  | error fault =>
    constructor
    · intro h
      cases h
    · rintro ⟨place, hplace, -⟩
      cases hplace
  | ok place =>
    constructor
    · intro h
      refine ⟨place, rfl, ?_⟩
      cases hnode : tree.node? place with
      | none =>
        simp only [bind, Except.bind, hnode] at h
        cases h
      | some node =>
        simp only [bind, Except.bind, hnode] at h
        cases node with
        | file found => rw [Except.ok.inj h]
        | directory => cases h
    · rintro ⟨found, hfound, hnode⟩
      obtain rfl := Except.ok.inj hfound
      simp only [bind, Except.bind, hnode]

/-- A text that was written is read. -/
theorem read_of_write {tree tree' : FileTree} {path text : Text}
    (h : tree.write path text = .ok tree') : tree'.read path = .ok (.text text) := by
  obtain ⟨place, htarget, rfl⟩ := write_eq_ok h
  obtain ⟨hlocate, hother⟩ := target_eq_ok_iff.mp htarget
  have hkept : ∀ p, tree.node? p = some .directory →
      (tree.put place (.file (.text text))).node? p = some .directory := by
    intro p hp
    have hne : p ≠ place := fun heq => hother (heq ▸ hp)
    rw [node?_put_of_ne hne, hp]
  have hplace : place ≠ [] := by
    rintro rfl
    exact hother rfl
  have hhome : (tree.put place (.file (.text text))).home = tree.home := rfl
  exact read_eq_ok_iff.mpr
    ⟨place, locate_of_directories hhome hkept hlocate, node?_put_self hplace _⟩

/-- A file that can be read can be written. -/
theorem exists_write_of_read {tree : FileTree} {path : Text} {content : FileContent}
    (h : tree.read path = .ok content) (text : Text) :
    ∃ tree', tree.write path text = .ok tree' := by
  obtain ⟨place, hlocate, hnode⟩ := read_eq_ok_iff.mp h
  have hother : tree.node? place ≠ some .directory := by
    rw [hnode]
    intro heq
    cases heq
  have htarget : tree.target path = .ok place := target_eq_ok_iff.mpr ⟨hlocate, hother⟩
  exact ⟨tree.put place (.file (.text text)), by rw [write, htarget]; rfl⟩

end DesignTokens.FileTree
