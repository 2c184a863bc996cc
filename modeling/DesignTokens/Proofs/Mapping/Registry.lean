import DesignTokens.Mapping.Registry
import Mathlib.Data.List.Induction
import Mathlib.Data.List.Nodup

/-!
The registry is a finite map. Names count without regard to the case of the letters `a` to `z`, so a
registry is a map as long as no two of its entries share a name (`Distinct`). It is then told by two
views: `find?`, the mapping of a name, and the names in order. Registering and removing change what
is found under one name and nothing else; the entries that stay keep their order, and a mapping that
is replaced hands its place on:

    a  b  c   ── upsert B ──▶   a  B  c
    a  b  c   ── upsert d ──▶   a  b  c  d
    a  b  c   ── remove b ──▶   a  c
-/

namespace DesignTokens

/-! ### Targets -/

theorem eraseDups_concat (targets : List Text) (t : Text) :
    (targets ++ [t]).eraseDups =
      if t ∈ targets then targets.eraseDups else targets.eraseDups ++ [t] := by
  rw [List.eraseDups_append]
  split
  · next h => simp [List.removeAll, h]
  · next h => simp [List.removeAll, h, List.eraseDups_cons]

/-- Repeated targets count where they first occur. -/
theorem pairwise_idxOf_eraseDups (targets : List Text) :
    targets.eraseDups.Pairwise fun a b => targets.idxOf a < targets.idxOf b := by
  -- from the end: a target that is appended counts only if it is new, and then stands last
  induction targets using List.reverseRecOn with
  | nil => exact List.Pairwise.nil
  | append_singleton targets t ih =>
    have hold : (targets.eraseDups).Pairwise fun a b =>
        (targets ++ [t]).idxOf a < (targets ++ [t]).idxOf b := by
      refine ih.imp_of_mem fun {a b} ha hb hlt => ?_
      rw [List.idxOf_append_of_mem (List.mem_eraseDups.mp ha),
        List.idxOf_append_of_mem (List.mem_eraseDups.mp hb)]
      exact hlt
    rw [eraseDups_concat]
    split
    · exact hold
    · next hnew =>
      refine List.pairwise_append.mpr ⟨hold, List.pairwise_singleton _ _, fun a ha b hb => ?_⟩
      rw [List.mem_singleton.mp hb, List.idxOf_append_of_mem (List.mem_eraseDups.mp ha),
        List.idxOf_append_of_notMem hnew]
      have hlt := List.idxOf_lt_length_of_mem (List.mem_eraseDups.mp ha)
      omega

namespace Registry

/-- No two entries have names that are equal without regard to case. -/
def Distinct (r : Registry) : Prop := r.entries.Pairwise fun a b => ¬a.name.sameName b.name

/-- The names of entries in order, in the form in which they are compared. -/
def namesOf (entries : List Mapping) : List Text := entries.map (·.name.foldCase)

theorem distinct_iff (r : Registry) : r.Distinct ↔ (namesOf r.entries).Nodup := by
  rw [Distinct, namesOf, List.Nodup, List.pairwise_map]
  simp only [Text.sameName_iff]

theorem Distinct.of_cons {entry : Mapping} {rest : List Mapping}
    (h : Distinct ⟨entry :: rest⟩) : Distinct ⟨rest⟩ := (List.pairwise_cons.mp h).2

/-- Behind an entry of a name there is no other. -/
theorem Distinct.tail_differs {entry : Mapping} {rest : List Mapping}
    (h : Distinct ⟨entry :: rest⟩) {name : Text} (hname : entry.name.sameName name) :
    ∀ e ∈ rest, e.name.sameName name = false := by
  intro e he
  rw [Bool.eq_false_iff]
  intro hsame
  refine (List.pairwise_cons.mp h).1 e he ?_
  rw [Text.sameName_congr hname, Text.sameName_comm]
  exact hsame

/-- In a registry without repeated names, every entry is found under its name. -/
theorem Distinct.find?_of_mem {r : Registry} (h : r.Distinct) {entry : Mapping}
    (hentry : entry ∈ r.entries) {name : Text} (hname : entry.name.sameName name) :
    r.find? name = some entry := by
  obtain ⟨entries⟩ := r
  show entries.find? _ = _
  induction entries with
  | nil => exact absurd hentry List.not_mem_nil
  | cons first rest ih =>
    rw [List.find?_cons]
    rcases List.mem_cons.mp hentry with rfl | hrest
    · rw [hname]
    · cases hfirst : first.name.sameName name with
      | false => exact ih h.of_cons hrest
      | true =>
        have hdiffers := h.tail_differs hfirst entry hrest
        rw [hname] at hdiffers
        cases hdiffers

/-! ### Registering -/

theorem namesOf_upsertInto (m : Mapping) (entries : List Mapping) :
    namesOf (upsertInto m entries) =
      if m.name.foldCase ∈ namesOf entries then namesOf entries
      else namesOf entries ++ [m.name.foldCase] := by
  induction entries with
  | nil => rfl
  | cons entry rest ih =>
    have hcons : ∀ e es, namesOf (e :: es) = e.name.foldCase :: namesOf es := fun _ _ => rfl
    unfold upsertInto
    split
    · next h => simp [hcons, (Text.sameName_iff _ _).mp h]
    · next h =>
      have hne : m.name.foldCase ≠ entry.name.foldCase :=
        fun heq => h ((Text.sameName_iff _ _).mpr heq.symm)
      rw [hcons, hcons, ih]
      by_cases hm : m.name.foldCase ∈ namesOf rest
      · simp [hm]
      · simp [hm, hne]

theorem Distinct.upsert {r : Registry} (h : r.Distinct) (m : Mapping) : (r.upsert m).Distinct := by
  rw [distinct_iff] at h ⊢
  rw [Registry.upsert, namesOf_upsertInto]
  split
  · exact h
  · next hnew =>
    refine List.nodup_append.mpr ⟨h, by simp, fun a ha b hb heq => hnew ?_⟩
    rw [← List.mem_singleton.mp hb, ← heq]
    exact ha

/-- What is found after a mapping was registered: the mapping under its name, and what was found
before under any other. -/
theorem find?_upsert (r : Registry) (m : Mapping) (name : Text) :
    (r.upsert m).find? name = if name.sameName m.name then some m else r.find? name := by
  unfold find? upsert
  induction r.entries with
  | nil =>
    rw [upsertInto, List.find?_singleton, Text.sameName_comm, List.find?_nil]
  | cons entry rest ih =>
    unfold upsertInto
    split
    · next h =>
      rw [List.find?_cons, List.find?_cons, Text.sameName_comm name,
        Text.sameName_congr h name]
      cases m.name.sameName name <;> rfl
    · next h =>
      rw [List.find?_cons, List.find?_cons, ih]
      cases hentry : entry.name.sameName name with
      | false => rfl
      | true =>
        have hother : name.sameName m.name = false := by
          rw [← Text.sameName_congr hentry]
          exact Bool.eq_false_iff.mpr h
        simp [hother]

/-- In a registry without repeated names, a mapping takes the place of the one of its name; a new
one goes to the end. -/
theorem entries_upsert {r : Registry} (h : r.Distinct) (m : Mapping) :
    (r.upsert m).entries =
      if r.entries.any (·.name.sameName m.name) then
        r.entries.map fun entry => if entry.name.sameName m.name then m else entry
      else r.entries ++ [m] := by
  obtain ⟨entries⟩ := r
  show upsertInto m entries = _
  induction entries with
  | nil => rfl
  | cons entry rest ih =>
    rw [upsertInto, List.any_cons, List.map_cons]
    cases hentry : entry.name.sameName m.name with
    | true =>
      -- behind the entry that is replaced no other has its name
      have hkept : ∀ e ∈ rest, (if e.name.sameName m.name then m else e) = e := fun e he =>
        if_neg (Bool.eq_false_iff.mp (h.tail_differs hentry e he))
      simp only [if_true, Bool.true_or, List.map_congr_left hkept, List.map_id']
    | false =>
      simp only [ih h.of_cons, Bool.false_or, Bool.false_eq_true, if_false]
      split <;> rfl

/-! ### Removing -/

theorem find?_remove_fst (r : Registry) (name : Text) : (r.remove name).1 = r.find? name := by
  unfold remove find?
  induction r.entries with
  | nil => rfl
  | cons entry rest ih =>
    rw [takeFrom, List.find?_cons]
    cases entry.name.sameName name with
    | true => rfl
    | false => exact ih

theorem takeFrom_sublist (name : Text) (entries : List Mapping) :
    (takeFrom name entries).2.Sublist entries := by
  induction entries with
  | nil => exact List.Sublist.refl []
  | cons entry rest ih =>
    unfold takeFrom
    split
    · exact List.sublist_cons_self entry rest
    · exact ih.cons_cons entry

theorem Distinct.remove {r : Registry} (h : r.Distinct) (name : Text) :
    (r.remove name).2.Distinct :=
  List.Pairwise.sublist (takeFrom_sublist name r.entries) h

/-- In a registry without repeated names, removing a name leaves the entries of all others. -/
theorem entries_remove {r : Registry} (h : r.Distinct) (name : Text) :
    (r.remove name).2.entries = r.entries.filter (!·.name.sameName name) := by
  obtain ⟨entries⟩ := r
  show (takeFrom name entries).2 = _
  induction entries with
  | nil => rfl
  | cons entry rest ih =>
    rw [takeFrom]
    cases hentry : entry.name.sameName name with
    | true =>
      -- only the first entry is taken, but behind it no other has its name
      have hkept : ∀ e ∈ rest, (!e.name.sameName name) = true := fun e he => by
        rw [h.tail_differs hentry e he]
        rfl
      rw [List.filter_cons_of_neg (by simp [hentry]), List.filter_eq_self.mpr hkept]
      rfl
    | false =>
      rw [List.filter_cons_of_pos (by simp [hentry]), ← ih h.of_cons]
      rfl

theorem find?_remove {r : Registry} (h : r.Distinct) (name other : Text) :
    (r.remove name).2.find? other = if other.sameName name then none else r.find? other := by
  rw [find?, entries_remove h, List.find?_filter]
  split
  · next hsame =>
    refine List.find?_eq_none.mpr fun entry _ => ?_
    rw [Text.sameName_comm _ name, Text.sameName_comm _ other, Text.sameName_congr hsame,
      Text.sameName_comm]
    simp
  · next hother =>
    refine congrArg (r.entries.find? ·) (funext fun entry => ?_)
    cases hentry : entry.name.sameName other with
    | false => simp
    | true => simp [Text.sameName_congr hentry, hother]

/-! ### Registries from scratch -/

theorem distinct_empty : empty.Distinct := List.Pairwise.nil

theorem distinct_defaults : defaults.Distinct := by
  unfold Distinct
  decide

theorem distinct_ofSaved (saved : List Mapping) : (ofSaved saved).Distinct :=
  List.foldlRecOn saved upsert distinct_defaults fun _ h m _ => h.upsert m

end Registry

end DesignTokens
