import DesignTokens.Proofs.Mapping.Calls
import DesignTokens.Proofs.Mapping.Verdicts
import DesignTokens.Proofs.Render.Pass

/-!
One round of confirming is enough. A pass leaves each of its names with a verdict or pending; once
every pending name is registered with targets, nothing is pending and each of those names has a
verdict, so that the next pass has nothing to guess:

    pass          name has a verdict   or   name is pending
                          │                     │ registered, in any order
                          ▼                     ▼
    next pass     name has a verdict        name has a verdict

Registering one name cannot take the verdict of another: names that differ are left alone, and
spellings of one name that share an entry all find targets there.
-/

namespace DesignTokens

theorem Mapping.isMapped_of {targets : List Text} (h : targets ≠ []) (name : Text)
    (description : Option Text) : (Mapping.of name targets description).isMapped := by
  obtain ⟨t, ht⟩ := List.exists_mem_of_ne_nil targets h
  have hmem : t ∈ (Mapping.of name targets description).targets := List.mem_eraseDups.mpr ht
  simpa [Mapping.isMapped] using List.ne_nil_of_mem hmem

namespace Mapper

/-- The mapper with mappings registered, one after the other. -/
def updateAll (m : Mapper) (mappings : List Mapping) : Mapper :=
  mappings.foldl (fun m mapping => m.update mapping.name mapping.targets mapping.description) m

/-- What stays pending is what has none of the registered names. -/
theorem mem_pending_updateAll {p : Text × List Text} (mappings : List Mapping) (m : Mapper) :
    p ∈ (m.updateAll mappings).pending ↔
      p ∈ m.pending ∧ ∀ mapping ∈ mappings, ¬p.1.sameName mapping.name := by
  induction mappings generalizing m with
  | nil => simp [updateAll]
  | cons first rest ih =>
    have hfirst : p ∈ (m.update first.name first.targets first.description).pending ↔
        p ∈ m.pending ∧ ¬p.1.sameName first.name := mem_forget
    rw [updateAll, List.foldl_cons, ← updateAll, ih, hfirst, List.forall_mem_cons, and_assoc]

variable {keywords : KeywordSet} {name : Text}

/-- Registering targets gives a verdict on their name and takes none away. -/
theorem isSome_verdict?_update {m : Mapper} {mapping : Mapping} (ht : mapping.targets ≠ [])
    (h : (m.registry.verdict? keywords name).isSome ∨ name.sameName mapping.name) :
    ((m.update mapping.name mapping.targets mapping.description).registry.verdict?
      keywords name).isSome := by
  by_cases hsame : name.sameName mapping.name
  · refine Registry.isSome_verdict?_of_isMapped ?_ (Mapping.isMapped_of ht mapping.name
      mapping.description)
    rw [update, Registry.find?_upsert]
    exact if_pos hsame
  · have hkept : (m.update mapping.name mapping.targets mapping.description).registry.verdict?
        keywords name = m.registry.verdict? keywords name := Registry.verdict?_upsert _ hsame
    rw [hkept]
    exact h.resolve_right hsame

theorem isSome_verdict?_updateAll {mappings : List Mapping}
    (ht : ∀ mapping ∈ mappings, mapping.targets ≠ []) {m : Mapper}
    (h : (m.registry.verdict? keywords name).isSome ∨
      ∃ mapping ∈ mappings, name.sameName mapping.name) :
    ((m.updateAll mappings).registry.verdict? keywords name).isSome := by
  induction mappings generalizing m with
  | nil => exact h.resolve_right (by simp)
  | cons first rest ih =>
    obtain ⟨hfirst, hrest⟩ := List.forall_mem_cons.mp ht
    refine ih hrest ?_
    rcases h with h | ⟨mapping, hmem, hsame⟩
    · exact Or.inl (isSome_verdict?_update hfirst (Or.inl h))
    · rcases List.mem_cons.mp hmem with rfl | hmem
      · exact Or.inl (isSome_verdict?_update hfirst (Or.inr hsame))
      · exact Or.inr ⟨mapping, hmem, hsame⟩

end Mapper

namespace Context

/-- The context with mappings registered, one after the other. -/
def updateAll (x : Context) (mappings : List Mapping) : Context :=
  { x with mapper := x.mapper.updateAll mappings }

/-- Mappings that register every pending name with targets, each once. -/
structure Confirms (x : Context) (mappings : List Mapping) : Prop where
  names : (mappings.map Mapping.name).Perm (Assoc.keys x.mapper.pending)
  targets : ∀ mapping ∈ mappings, mapping.targets ≠ []

namespace Confirms

variable {x : Context} {mappings : List Mapping}

/-- Every pending name is registered. -/
theorem exists_sameName (h : x.Confirms mappings) {name : Text}
    (hname : name ∈ Assoc.keys x.mapper.pending) :
    ∃ mapping ∈ mappings, name.sameName mapping.name := by
  obtain ⟨mapping, hmem, rfl⟩ := List.mem_map.mp (h.names.mem_iff.mpr hname)
  exact ⟨mapping, hmem, Text.sameName_refl _⟩

theorem pending_eq_nil (h : x.Confirms mappings) : (x.updateAll mappings).mapper.pending = [] := by
  refine List.eq_nil_iff_forall_not_mem.mpr fun p hp => ?_
  obtain ⟨hold, hnone⟩ := (Mapper.mem_pending_updateAll mappings x.mapper).mp hp
  obtain ⟨mapping, hmem, hsame⟩ := h.exists_sameName (List.mem_map_of_mem hold)
  exact hnone mapping hmem hsame

/-- What was settled, by a verdict or by a guess, has a verdict after the confirmation. -/
theorem settled (h : x.Confirms mappings) {name : Text} (hs : x.Settled name) :
    (x.updateAll mappings).Settled name := by
  refine settled_iff.mpr (Or.inl (Mapper.isSome_verdict?_updateAll h.targets ?_))
  refine (settled_iff.mp hs).imp_right fun hpending => h.exists_sameName ?_
  by_contra hnot
  rw [(Assoc.find?_eq_none_iff name _).mpr hnot] at hpending
  cases hpending

end Confirms

end Context

/-- After a confirmation of what a pass left pending, a further pass leaves the context alone. -/
theorem context_render_of_confirms {c : Config} {x : Context} {sources : List Source}
    {mappings : List Mapping} (h : (render c x sources).2.Confirms mappings) :
    (render c ((render c x sources).2.updateAll mappings) sources).2 =
      (render c x sources).2.updateAll mappings := by
  cases hfirst : tryRender c x sources with
  | error e =>
    -- whether a pass fails does not depend on the context
    simp only [render, hfirst, tryRender_error hfirst]
  | ok result =>
    obtain ⟨text, y⟩ := result
    have hy : (render c x sources).2 = y := by simp only [render, hfirst]
    rw [hy] at h ⊢
    cases hnext : tryRender c (y.updateAll mappings) sources with
    | error e => simp only [render, hnext]
    | ok result =>
      obtain ⟨text', z⟩ := result
      simp only [render, hnext]
      have hlooked := context_of_tryRender hfirst
      have hkeywords : (y.updateAll mappings).keywords = x.keywords := by
        show y.keywords = x.keywords
        rw [hlooked, Context.keywords_lookAll]
      rw [context_of_tryRender hnext, hkeywords]
      -- the names that are looked up are those of the first pass, and they are settled
      refine Context.lookAll_of_settled fun name hname => h.settled ?_
      rw [hlooked]
      exact Context.settled_lookAll hname

/-- Confirming converges in one round: when every name that a pass left pending is registered once,
in any order and with any targets, nothing is pending, and another pass over the same inputs leaves
nothing pending and nothing to confirm. -/
theorem confirming_converges (c : Config) (x : Context) (sources : List Source)
    {mappings : List Mapping} (h : (render c x sources).2.Confirms mappings) :
    let y := (render c x sources).2.updateAll mappings
    y.mapper.pending = [] ∧ (render c y sources).2.mapper.pending = [] ∧
      (render c y sources).2.mapper.needsConfirmation = false := by
  intro y
  have hy : y.mapper.pending = [] := h.pending_eq_nil
  have hagain : (render c y sources).2 = y := context_render_of_confirms h
  rw [hagain]
  refine ⟨hy, hy, ?_⟩
  rw [Mapper.needsConfirmation, hy]
  rfl

/-- Two spellings of one name wait at once, and one round settles both. -/
theorem confirming_two_spellings :
    let c : Config := { Config.default with naming := { Naming.default with lowercase := false } }
    let token := Json.object [("$type", .string "dimension"), ("$value", .string "4px")]
    let sources : List Source := [⟨"a.json", some (.object
      [("Card Gap", token), ("card gap", token), ("Glow", token)])⟩]
    let x := Context.of ⟨["color"]⟩ .defaults
    let mappings : List Mapping := [⟨"card-gap", ["gap"], none⟩, ⟨"Glow", ["box-shadow"], none⟩,
      ⟨"Card-Gap", ["row-gap", "column-gap"], none⟩]
    Assoc.keys (render c x sources).2.mapper.pending =
        (["Card-Gap", "card-gap", "Glow"] : List Text) ∧
      let y := (render c x sources).2.updateAll mappings
      y.mapper.pending = [] ∧ (render c y sources).2.mapper.pending = [] ∧
        (render c y sources).2.mapper.needsConfirmation = false := by
  intro c token sources x mappings
  have hpending : Assoc.keys (render c x sources).2.mapper.pending =
      (["Card-Gap", "card-gap", "Glow"] : List Text) := by decide +kernel
  have hnames : (mappings.map Mapping.name).Perm
      (Assoc.keys (render c x sources).2.mapper.pending) := by
    rw [hpending]
    decide +kernel
  have htargets : ∀ mapping ∈ mappings, mapping.targets ≠ [] := by decide +kernel
  exact ⟨hpending, confirming_converges c x sources ⟨hnames, htargets⟩⟩

end DesignTokens
