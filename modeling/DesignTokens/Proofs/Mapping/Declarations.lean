import DesignTokens.Proofs.Mapping.TargetSets

/-!
Declarations with names replaced by their targets. The names are replaced one after the other, and
the value of a name is written under each of its targets. As long as no target is itself replaced,
what comes out is told without the order of these steps:

    color     red                                   color      red
    card-gap  4px    card-gap ↦ row-gap, gap        gap        4px
    gap       1px   ────────────────────────▶       row-gap    4px

A name that is replaced goes, and all other names stay where they are (`keys_applyMappings`). A
target has the value of the last declared name that it stands for, and every other name keeps its
value (`find?_applyMappings`). There is nothing left to replace after that.
-/

namespace DesignTokens

/-! ### One value under several names -/

section

variable {value : Text} {m : Declarations} {names outputs : List Text}

theorem find?_foldl_insert (name : Text) :
    Assoc.find? name (outputs.foldl (fun m output => Assoc.insert output value m) m) =
      if name ∈ outputs then some value else Assoc.find? name m := by
  induction outputs generalizing m with
  | nil => rfl
  | cons output outputs ih =>
    rw [List.foldl_cons, ih, Assoc.find?_insert]
    by_cases hrest : name ∈ outputs
    · rw [if_pos hrest, if_pos (List.mem_cons_of_mem _ hrest)]
    · by_cases hname : output = name
      · rw [if_neg hrest, if_pos hname, if_pos (hname ▸ List.mem_cons_self)]
      · rw [if_neg hrest, if_neg hname,
          if_neg (List.not_mem_cons_of_ne_of_not_mem (Ne.symm hname) hrest)]

/-- Keys are in the order in which they first occur, and stay so when further ones are written. -/
theorem keys_foldl_insert (hm : Assoc.keys m = names.eraseDups) :
    Assoc.keys (outputs.foldl (fun m output => Assoc.insert output value m) m) =
      (names ++ outputs).eraseDups := by
  induction outputs generalizing m names with
  | nil => rw [List.append_nil]; exact hm
  | cons output outputs ih =>
    have hinsert : Assoc.keys (Assoc.insert output value m) = (names ++ [output]).eraseDups := by
      rw [Assoc.keys_insert, eraseDups_concat, hm]
      simp only [List.mem_eraseDups]
    rw [List.foldl_cons, ih hinsert, List.append_assoc, List.singleton_append]

end

/-- Leaving names out and leaving repetitions out can be done in either order. -/
theorem filter_eraseDups (keep : Text → Bool) (names : List Text) :
    names.eraseDups.filter keep = (names.filter keep).eraseDups := by
  induction names using List.reverseRecOn with
  | nil => rfl
  | append_singleton names name ih =>
    rw [eraseDups_concat, List.filter_append]
    cases hkeep : keep name with
    | false => split <;> simp [hkeep, ih]
    | true =>
      have hmem : name ∈ names.filter keep ↔ name ∈ names := by simp [hkeep]
      rw [List.filter_cons_of_pos hkeep, List.filter_nil, eraseDups_concat]
      simp only [hmem]
      split
      · exact ih
      · rw [List.filter_append, ih, List.filter_cons_of_pos hkeep, List.filter_nil]

/-! ### One name replaced -/

section Replacing

variable {m : Declarations} {name k value : Text} {names targets : List Text}

/-- A name without targets and a name that is not declared are not replaced. -/
theorem replaceDeclaration_of_idle (h : targets = [] ∨ name ∉ Assoc.keys m) :
    replaceDeclaration m name targets = m := by
  unfold replaceDeclaration
  rcases h with rfl | hname
  · rfl
  · rw [(Assoc.find?_eq_none_iff name m).mpr hname]
    split <;> rfl

theorem replaceDeclaration_of_declared (htargets : targets ≠ [])
    (h : Assoc.find? name m = some value) : replaceDeclaration m name targets =
      targets.foldl (fun m target => Assoc.insert target value m) (Assoc.erase name m) := by
  unfold replaceDeclaration
  rw [if_neg (mt List.isEmpty_iff.mp htargets), h]

/-- A declared name hands its value to its targets, and a name with targets is gone after that. -/
theorem find?_replaceDeclaration (m : Declarations) (name : Text) (targets : List Text) (k : Text) :
    Assoc.find? k (replaceDeclaration m name targets) =
      if name ∈ Assoc.keys m ∧ k ∈ targets then Assoc.find? name m
      else if k = name ∧ targets ≠ [] then none else Assoc.find? k m := by
  by_cases htargets : targets = []
  · rw [replaceDeclaration_of_idle (.inl htargets)]
    simp [htargets]
  · cases hvalue : Assoc.find? name m with
    | none =>
      have hname := (Assoc.find?_eq_none_iff name m).mp hvalue
      rw [replaceDeclaration_of_idle (.inr hname), if_neg fun h => hname h.1]
      split
      · next h => rw [h.1, hvalue]
      · rfl
    | some value =>
      have hname : name ∈ Assoc.keys m := by
        by_contra hname
        rw [(Assoc.find?_eq_none_iff name m).mpr hname] at hvalue
        cases hvalue
      rw [replaceDeclaration_of_declared htargets hvalue, find?_foldl_insert, Assoc.find?_erase]
      simp only [hname, htargets, true_and, ne_eq, not_false_eq_true, and_true]

/-- Targets come behind the names that stay. -/
theorem keys_replaceDeclaration (htargets : targets ≠ []) (hname : name ∈ Assoc.keys m)
    (hm : Assoc.keys m = names.eraseDups) : Assoc.keys (replaceDeclaration m name targets) =
      (names.filter (· ≠ name) ++ targets).eraseDups := by
  cases hvalue : Assoc.find? name m with
  | none => exact absurd hname ((Assoc.find?_eq_none_iff name m).mp hvalue)
  | some value =>
    rw [replaceDeclaration_of_declared htargets hvalue]
    refine keys_foldl_insert ?_
    rw [Assoc.keys_erase, hm, filter_eraseDups]

end Replacing

/-! ### All names replaced -/

/-- The name is one that is replaced wherever it is declared. -/
def isReplaced (invalid : Assoc Text (List Text)) (name : Text) : Bool :=
  invalid.any fun p => p.1 = name && !p.2.isEmpty

/-- The entries whose name is declared and has the property among its targets. -/
def sourcesOf (declarations : Declarations) (invalid : Assoc Text (List Text)) (property : Text) :
    Assoc Text (List Text) :=
  invalid.filter fun p => (Assoc.keys declarations).contains p.1 && p.2.contains property

/-- The targets of the names that are declared, in the order in which they are written. -/
def writtenTargets (declarations : Declarations) (invalid : Assoc Text (List Text)) : List Text :=
  (invalid.filter fun p => (Assoc.keys declarations).contains p.1).flatMap (·.2)

/-- The declared names that are not replaced. -/
def survivors (declarations : Declarations) (invalid : Assoc Text (List Text)) : List Text :=
  (Assoc.keys declarations).filter (!isReplaced invalid ·)

/-- Each name occurs once, and no target is replaced in its turn. -/
structure Unchained (invalid : Assoc Text (List Text)) : Prop where
  nodup : (Assoc.keys invalid).Nodup
  stays : ∀ p ∈ invalid, ∀ target ∈ p.2, isReplaced invalid target = false

section Applying

variable {declarations : Declarations} {invalid : Assoc Text (List Text)} {p : Text × List Text}

theorem isReplaced_iff {name : Text} :
    isReplaced invalid name ↔ ∃ p ∈ invalid, p.1 = name ∧ p.2 ≠ [] := by
  simp [isReplaced]

theorem isReplaced_concat (invalid : Assoc Text (List Text)) (p : Text × List Text)
    (name : Text) : isReplaced (invalid ++ [p]) name =
      (isReplaced invalid name || (p.1 = name && !p.2.isEmpty)) := by
  simp [isReplaced]

theorem applyMappings_concat (declarations : Declarations) (invalid : Assoc Text (List Text))
    (p : Text × List Text) : applyMappings declarations (invalid ++ [p]) =
      replaceDeclaration (applyMappings declarations invalid) p.1 p.2 := by
  rw [applyMappings, List.foldl_append]
  rfl

/-- A name that is neither replaced nor a target keeps its value. -/
theorem find?_applyMappings_of_apart {name : Text}
    (h : ∀ q ∈ invalid, q.1 ≠ name ∧ name ∉ q.2) :
    Assoc.find? name (applyMappings declarations invalid) = Assoc.find? name declarations := by
  induction invalid using List.reverseRecOn with
  | nil => rfl
  | append_singleton invalid p ih =>
    obtain ⟨hname, htarget⟩ := h p (by simp)
    rw [applyMappings_concat, find?_replaceDeclaration, if_neg fun hsource => htarget hsource.2,
      if_neg fun hown => hname hown.1.symm, ih fun q hq => h q (List.mem_append_left _ hq)]

/-- A name that is replaced is no target. -/
theorem Unchained.not_mem_targets (h : Unchained invalid) {name : Text}
    (hname : isReplaced invalid name) : ∀ q ∈ invalid, name ∉ q.2 := by
  intro q hq hmem
  rw [h.stays q hq name hmem] at hname
  cases hname

theorem Unchained.of_concat (h : Unchained (invalid ++ [p])) : Unchained invalid := by
  have hnodup := h.nodup
  rw [Assoc.keys, List.map_append] at hnodup
  refine ⟨(List.nodup_append.mp hnodup).1, fun q hq target htarget => ?_⟩
  have hstays := h.stays q (List.mem_append_left _ hq) target htarget
  rw [isReplaced_concat] at hstays
  exact (Bool.or_eq_false_iff.mp hstays).1

/-- When the turn of a name comes it still has the value it had. -/
theorem Unchained.find?_last (h : Unchained (invalid ++ [p])) (htargets : p.2 ≠ []) :
    Assoc.find? p.1 (applyMappings declarations invalid) = Assoc.find? p.1 declarations := by
  have hreplaced : isReplaced (invalid ++ [p]) p.1 :=
    isReplaced_iff.mpr ⟨p, by simp, rfl, htargets⟩
  have hnodup := h.nodup
  rw [Assoc.keys, List.map_append] at hnodup
  refine find?_applyMappings_of_apart fun q hq => ⟨?_, ?_⟩
  · exact (List.nodup_append.mp hnodup).2.2 q.1 (List.mem_map_of_mem hq) p.1 (by simp)
  · exact h.not_mem_targets hreplaced q (List.mem_append_left _ hq)

theorem Unchained.mem_keys_last (h : Unchained (invalid ++ [p])) (htargets : p.2 ≠ []) :
    p.1 ∈ Assoc.keys (applyMappings declarations invalid) ↔ p.1 ∈ Assoc.keys declarations := by
  rw [← not_iff_not, ← Assoc.find?_eq_none_iff, ← Assoc.find?_eq_none_iff, h.find?_last htargets]

/-! ### What is declared under a name -/

/-- An entry is a source of its targets if its name is declared. -/
theorem sourcesOf_concat (declarations : Declarations) (invalid : Assoc Text (List Text))
    (p : Text × List Text) (property : Text) : sourcesOf declarations (invalid ++ [p]) property =
      if p.1 ∈ Assoc.keys declarations ∧ property ∈ p.2 then
        sourcesOf declarations invalid property ++ [p]
      else sourcesOf declarations invalid property := by
  rw [sourcesOf, List.filter_append]
  split
  · next h => rw [List.filter_cons_of_pos (by simpa using h)]; rfl
  · next h => rw [List.filter_cons_of_neg (by simpa using h), List.filter_nil, List.append_nil]; rfl

theorem sourcesOf_eq_nil_iff {property : Text} : sourcesOf declarations invalid property = [] ↔
    ∀ p ∈ invalid, p.1 ∈ Assoc.keys declarations → property ∉ p.2 := by
  simp [sourcesOf]

/-- A target has the value of the last declared name that it stands for, a name that is replaced has
none, and any other name keeps the one it had. -/
theorem find?_applyMappings (h : Unchained invalid) (property : Text) :
    Assoc.find? property (applyMappings declarations invalid) =
      (sourcesOf declarations invalid property).getLast?.elim
        (if isReplaced invalid property then none else Assoc.find? property declarations)
        fun p => Assoc.find? p.1 declarations := by
  induction invalid using List.reverseRecOn with
  | nil => rfl
  | append_singleton invalid p ih =>
    have ih := ih h.of_concat
    rw [applyMappings_concat, sourcesOf_concat, find?_replaceDeclaration]
    by_cases hsource : p.1 ∈ Assoc.keys declarations ∧ property ∈ p.2
    · have htargets : p.2 ≠ [] := List.ne_nil_of_mem hsource.2
      rw [if_pos hsource, if_pos ⟨(h.mem_keys_last htargets).mpr hsource.1, hsource.2⟩,
        List.getLast?_concat, h.find?_last htargets]
      rfl
    · rw [if_neg hsource, if_neg fun ⟨hname, htarget⟩ =>
        hsource ⟨(h.mem_keys_last (List.ne_nil_of_mem htarget)).mp hname, htarget⟩]
      by_cases hown : property = p.1 ∧ p.2 ≠ []
      · -- the name goes, and it is nobody's target
        obtain ⟨rfl, htargets⟩ := hown
        have hreplaced : isReplaced (invalid ++ [p]) p.1 :=
          isReplaced_iff.mpr ⟨p, by simp, rfl, htargets⟩
        have hnone : sourcesOf declarations invalid p.1 = [] := sourcesOf_eq_nil_iff.mpr
          fun q hq _ => h.not_mem_targets hreplaced q (List.mem_append_left _ hq)
        rw [if_pos ⟨rfl, htargets⟩, hnone, hreplaced]
        rfl
      · have hother : (p.1 = property && !p.2.isEmpty) = false := by
          refine Bool.eq_false_iff.mpr fun hboth => hown ?_
          obtain ⟨hname, htargets⟩ := Bool.and_eq_true_iff.mp hboth
          exact ⟨(of_decide_eq_true hname).symm, by simpa using htargets⟩
        rw [if_neg hown, ih, isReplaced_concat, hother, Bool.or_false]

/-! ### The order of the names -/

theorem survivors_concat (htargets : p.2 ≠ []) : survivors declarations (invalid ++ [p]) =
    (survivors declarations invalid).filter (· ≠ p.1) := by
  have hsome : p.2.isEmpty = false := by simpa using htargets
  simp only [survivors, List.filter_filter]
  refine List.filter_congr fun name _ => ?_
  rw [isReplaced_concat, Bool.not_or, Bool.and_comm]
  simp [hsome, eq_comm]

theorem writtenTargets_concat (hname : p.1 ∈ Assoc.keys declarations) :
    writtenTargets declarations (invalid ++ [p]) =
      writtenTargets declarations invalid ++ p.2 := by
  simp [writtenTargets, List.filter_append, hname]

/-- An entry that is not used makes no difference. -/
theorem survivors_concat_of_idle (hidle : p.2 = [] ∨ p.1 ∉ Assoc.keys declarations) :
    survivors declarations (invalid ++ [p]) = survivors declarations invalid := by
  refine List.filter_congr fun name hname => ?_
  rw [isReplaced_concat]
  rcases hidle with htargets | hundeclared
  · simp [htargets]
  · have hne : p.1 ≠ name := fun heq => hundeclared (heq ▸ hname)
    simp [hne]

theorem writtenTargets_concat_of_idle (hidle : p.2 = [] ∨ p.1 ∉ Assoc.keys declarations) :
    writtenTargets declarations (invalid ++ [p]) = writtenTargets declarations invalid := by
  rcases hidle with htargets | hundeclared
  · simp [writtenTargets, List.filter_append, List.filter_cons, htargets, apply_ite]
  · simp [writtenTargets, List.filter_append, hundeclared]

theorem mem_survivors {name : Text} : name ∈ survivors declarations invalid ↔
    name ∈ Assoc.keys declarations ∧ isReplaced invalid name = false := by
  simp [survivors]

theorem mem_writtenTargets {target : Text} : target ∈ writtenTargets declarations invalid ↔
    ∃ p ∈ invalid, p.1 ∈ Assoc.keys declarations ∧ target ∈ p.2 := by
  simp [writtenTargets, and_assoc]

/-- What is declared in the end are the names that are not replaced, and then the targets that are
written, each where it first occurs. -/
theorem keys_applyMappings (hd : (Assoc.keys declarations).Nodup) (h : Unchained invalid) :
    Assoc.keys (applyMappings declarations invalid) =
      (survivors declarations invalid ++ writtenTargets declarations invalid).eraseDups := by
  induction invalid using List.reverseRecOn with
  | nil => simp [applyMappings, survivors, isReplaced, writtenTargets, eraseDups_of_nodup hd]
  | append_singleton invalid p ih =>
    have ih := ih h.of_concat
    rw [applyMappings_concat]
    by_cases hidle : p.2 = [] ∨ p.1 ∉ Assoc.keys declarations
    · have hstill : p.2 = [] ∨ p.1 ∉ Assoc.keys (applyMappings declarations invalid) := by
        by_cases htargets : p.2 = []
        · exact .inl htargets
        · exact .inr (mt (h.mem_keys_last htargets).mp (hidle.resolve_left htargets))
      rw [replaceDeclaration_of_idle hstill, survivors_concat_of_idle hidle,
        writtenTargets_concat_of_idle hidle, ih]
    · obtain ⟨htargets, hname⟩ := not_or.mp hidle
      have hname := not_not.mp hname
      have hreplaced : isReplaced (invalid ++ [p]) p.1 :=
        isReplaced_iff.mpr ⟨p, by simp, rfl, htargets⟩
      -- the name is no target, so leaving it out concerns the names that stay only
      have hkept : (writtenTargets declarations invalid).filter (· ≠ p.1) =
          writtenTargets declarations invalid := by
        refine List.filter_eq_self.mpr fun target htarget => decide_eq_true fun heq => ?_
        obtain ⟨q, hq, -, hmem⟩ := mem_writtenTargets.mp htarget
        exact h.not_mem_targets hreplaced q (List.mem_append_left _ hq) (heq ▸ hmem)
      rw [keys_replaceDeclaration htargets ((h.mem_keys_last htargets).mpr hname) ih,
        List.filter_append, hkept, survivors_concat htargets, writtenTargets_concat hname,
        List.append_assoc]

/-! ### Applying once is enough -/

/-- Where no name is declared that is replaced, nothing changes. -/
theorem applyMappings_eq_self
    (h : ∀ p ∈ invalid, p.2 = [] ∨ p.1 ∉ Assoc.keys declarations) :
    applyMappings declarations invalid = declarations := by
  induction invalid with
  | nil => rfl
  | cons p invalid ih =>
    obtain ⟨hp, hinvalid⟩ := List.forall_mem_cons.mp h
    show applyMappings (replaceDeclaration declarations p.1 p.2) invalid = declarations
    rw [replaceDeclaration_of_idle hp, ih hinvalid]

theorem mem_keys_applyMappings (hd : (Assoc.keys declarations).Nodup) (h : Unchained invalid)
    {property : Text} : property ∈ Assoc.keys (applyMappings declarations invalid) ↔
      (∃ p ∈ invalid, p.1 ∈ Assoc.keys declarations ∧ property ∈ p.2) ∨
        property ∈ Assoc.keys declarations ∧ isReplaced invalid property = false := by
  rw [keys_applyMappings hd h, List.mem_eraseDups, List.mem_append, mem_survivors,
    mem_writtenTargets, or_comm]

/-- No name is left that is replaced. -/
theorem not_mem_keys_applyMappings (hd : (Assoc.keys declarations).Nodup) (h : Unchained invalid)
    {name : Text} (hname : isReplaced invalid name) :
    name ∉ Assoc.keys (applyMappings declarations invalid) := by
  rw [mem_keys_applyMappings hd h]
  rintro (⟨q, hq, -, hmem⟩ | ⟨-, hstays⟩)
  · exact h.not_mem_targets hname q hq hmem
  · rw [hname] at hstays
    cases hstays

/-- The targets that were declared before are among the names that stay. -/
theorem keys_applyMappings_eq_append (hd : (Assoc.keys declarations).Nodup)
    (h : Unchained invalid) : Assoc.keys (applyMappings declarations invalid) =
      survivors declarations invalid ++
        ((writtenTargets declarations invalid).filter (· ∉ Assoc.keys declarations)).eraseDups := by
  have hnew : (writtenTargets declarations invalid).removeAll (survivors declarations invalid) =
      (writtenTargets declarations invalid).filter (· ∉ Assoc.keys declarations) := by
    refine List.filter_congr fun target htarget => ?_
    obtain ⟨q, hq, -, hmem⟩ := mem_writtenTargets.mp htarget
    have hstays := h.stays q hq target hmem
    simp [mem_survivors, hstays]
  have hnodup : (survivors declarations invalid).Nodup := hd.filter _
  rw [keys_applyMappings hd h, List.eraseDups_append, hnew, eraseDups_of_nodup hnodup]

end Applying

/-- Applying mappings none of whose targets is replaced in its turn. What is declared in the end are
the targets of declared names, and the names that are not replaced; a target has the value of the
last declared name that it stands for, and any other name the one it had; the names that stay are in
their order and before the targets that are new; and applying the mappings again changes nothing. -/
theorem applying_replaces_at_once {declarations : Declarations} {invalid : Assoc Text (List Text)}
    (hd : (Assoc.keys declarations).Nodup) (h : Unchained invalid) :
    let result := applyMappings declarations invalid
    (∀ k, k ∈ Assoc.keys result ↔
      (∃ p ∈ invalid, p.1 ∈ Assoc.keys declarations ∧ k ∈ p.2) ∨
        k ∈ Assoc.keys declarations ∧ isReplaced invalid k = false) ∧
    (∀ before p after, invalid = before ++ p :: after → p.1 ∈ Assoc.keys declarations →
      ∀ k ∈ p.2, (∀ q ∈ after, q.1 ∈ Assoc.keys declarations → k ∉ q.2) →
        Assoc.find? k result = Assoc.find? p.1 declarations) ∧
    (∀ k, (∀ p ∈ invalid, p.1 ∈ Assoc.keys declarations → k ∉ p.2) →
      isReplaced invalid k = false → Assoc.find? k result = Assoc.find? k declarations) ∧
    Assoc.keys result = (Assoc.keys declarations).filter (!isReplaced invalid ·) ++
      ((writtenTargets declarations invalid).filter (· ∉ Assoc.keys declarations)).eraseDups ∧
    applyMappings result invalid = result := by
  intro result
  refine ⟨fun k => mem_keys_applyMappings hd h, ?_, ?_, keys_applyMappings_eq_append hd h, ?_⟩
  · rintro before p after rfl hname k hk hlast
    have hafter : sourcesOf declarations after k = [] := sourcesOf_eq_nil_iff.mpr hlast
    have hsources : (sourcesOf declarations (before ++ p :: after) k).getLast? = some p := by
      rw [sourcesOf, List.filter_append, List.filter_cons_of_pos (by simpa using ⟨hname, hk⟩)]
      rw [sourcesOf] at hafter
      rw [hafter, List.getLast?_concat]
    rw [find?_applyMappings h, hsources]
    rfl
  · intro k hnone hstays
    rw [find?_applyMappings h, sourcesOf_eq_nil_iff.mpr hnone, hstays]
    rfl
  · refine applyMappings_eq_self fun p hp => ?_
    by_cases htargets : p.2 = []
    · exact .inl htargets
    · exact .inr (not_mem_keys_applyMappings hd h (isReplaced_iff.mpr ⟨p, hp, rfl, htargets⟩))

/-- Two names share a target, which is declared itself: it stays in its place with the value of the
later one. -/
theorem applying_shared_target :
    let declarations : Declarations := [("color", "red"), ("card-gap", "4px"), ("gap", "1px"),
      ("inset", "0"), ("mystery", "1")]
    let invalid : Assoc Text (List Text) := [("card-gap", ["row-gap", "gap"]), ("mystery", []),
      ("inset", ["gap", "left"]), ("outset", ["color"])]
    let result := applyMappings declarations invalid
    result = ([("color", "red"), ("gap", "0"), ("mystery", "1"), ("row-gap", "4px"),
      ("left", "0")] : List (Text × Text)) ∧
    Assoc.find? ("gap" : Text) result = Assoc.find? ("inset" : Text) declarations ∧
    applyMappings result invalid = result := by
  intro declarations invalid result
  have h : Unchained invalid := ⟨by decide, by decide⟩
  obtain ⟨-, hlast, -, -, hagain⟩ :=
    applying_replaces_at_once (show (Assoc.keys declarations).Nodup by decide) h
  refine ⟨by decide, ?_, hagain⟩
  exact hlast [("card-gap", ["row-gap", "gap"]), ("mystery", [])] ("inset", ["gap", "left"])
    [("outset", ["color"])] rfl (by decide) "gap" (by decide) (by decide)

end DesignTokens
