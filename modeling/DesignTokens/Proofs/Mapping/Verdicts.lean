import DesignTokens.Proofs.Mapping.Registry
import DesignTokens.Proofs.Mapping.Resolution

/-!
Where verdicts come from. Besides the keywords, a verdict on a name depends on what the registry
finds under that name and on nothing else (`verdict?_congr`), so an edit under one name moves the
verdict on no other. A name has no verdict when it is not standard, is no directional shorthand and
is not registered; a name with a vendor's mark may be registered all the same, as long as it stands
for nothing (`verdict?_eq_none`). Under a name that was registered with targets there is always a
verdict.
-/

namespace DesignTokens

/-! ### Vendors' marks -/

/-- Whether a name carries a vendor's mark does not depend on its case. -/
theorem stripVendor?_eq_none_of_sameName {a b : Text} (h : a.sameName b)
    (hb : stripVendor? b = none) : stripVendor? a = none := by
  unfold stripVendor? at hb ⊢
  rw [List.findSome?_eq_none_iff] at hb ⊢
  intro vendor hvendor
  have hmark := hb vendor hvendor
  have hstart : Text.sameName (a.take vendor.length) (b.take vendor.length) := by
    rw [Text.sameName_iff, Text.foldCase, Text.foldCase, List.map_take, List.map_take]
    exact congrArg (List.take vendor.length) ((Text.sameName_iff a b).mp h)
  rw [Text.sameName_congr hstart]
  split at hmark
  · cases hmark
  · next hnot => exact if_neg hnot

/-- The directional shorthands carry no vendor's mark. -/
theorem stripVendor?_of_isDirectionalShorthand {name : Text} (h : isDirectionalShorthand name) :
    stripVendor? name = none := by
  have hall : ∀ shorthand ∈ directionalShorthands, stripVendor? shorthand = none := by decide
  obtain ⟨shorthand, hmem, hsame⟩ := List.any_eq_true.mp h
  exact stripVendor?_eq_none_of_sameName (Text.sameName_symm hsame) (hall shorthand hmem)

/-! ### Valid names -/

/-- A name is valid as a keyword, as a keyword behind a vendor's mark, or, without a mark, because
it is registered or a shorthand. -/
theorem isValid_iff {keywords : KeywordSet} {registered : List Mapping} {name : Text} :
    isValid keywords registered name ↔ keywords.contains name ∨
      (∃ rest, stripVendor? name = some rest ∧ keywords.contains rest) ∨
      stripVendor? name = none ∧
        (registered.any (·.name.sameName name) ∨ isDirectionalShorthand name) := by
  unfold isValid
  split
  · next hkeyword => simp [hkeyword]
  · next hkeyword =>
    cases hmark : stripVendor? name with
    | some rest => simp [hkeyword]
    | none => simp [hkeyword]

namespace Registry

variable {keywords : KeywordSet}

theorem any_entries (r : Registry) (name : Text) :
    r.entries.any (·.name.sameName name) = (r.find? name).isSome :=
  List.isSome_find?.symm

/-- The verdict on a name depends on what is registered under that name only. -/
theorem verdict?_congr {r s : Registry} {name : Text} (h : r.find? name = s.find? name) :
    r.verdict? keywords name = s.verdict? keywords name := by
  unfold verdict? isValid
  rw [any_entries, any_entries, h]

theorem verdict?_upsert (r : Registry) {m : Mapping} {name : Text} (h : ¬name.sameName m.name) :
    (r.upsert m).verdict? keywords name = r.verdict? keywords name :=
  verdict?_congr (by rw [find?_upsert, if_neg h])

theorem verdict?_remove {r : Registry} (hr : r.Distinct) {removed name : Text}
    (h : ¬name.sameName removed) :
    (r.remove removed).2.verdict? keywords name = r.verdict? keywords name :=
  verdict?_congr (by rw [find?_remove hr, if_neg h])

/-- A name that stands for something has a verdict. -/
theorem isSome_verdict?_of_isMapped {r : Registry} {name : Text} {m : Mapping}
    (h : r.find? name = some m) (hm : m.isMapped) : (r.verdict? keywords name).isSome := by
  unfold verdict?
  split
  · rfl
  · rw [h, Option.filter_some, if_pos hm]
    rfl

/-- A name that is not valid carries a vendor's mark, or is neither registered nor a shorthand. -/
theorem isValid_eq_false {registered : List Mapping} {name : Text}
    (h : isValid keywords registered name = false) :
    (stripVendor? name).isSome ∨
      registered.any (·.name.sameName name) = false ∧ isDirectionalShorthand name = false := by
  have hground := mt isValid_iff.mpr (Bool.eq_false_iff.mp h)
  cases hmark : stripVendor? name with
  | some rest => exact .inl rfl
  | none =>
    simp only [hmark, true_and, not_or, Bool.not_eq_true] at hground
    exact .inr hground.2.2

/-- A name has no verdict when none of the three answers applies. -/
theorem verdict?_eq_none_iff {r : Registry} {name : Text} :
    r.verdict? keywords name = none ↔
      isStandard keywords name = false ∧ (∀ m, r.find? name = some m → m.isMapped = false) ∧
        isValid keywords r.entries name = false := by
  unfold verdict?
  cases isStandard keywords name with
  | true => simp
  | false =>
    cases hmapped : (r.find? name).filter Mapping.isMapped with
    | some m =>
      obtain ⟨hfind, hm⟩ := Option.filter_eq_some_iff.mp hmapped
      refine iff_of_false (by simp) ?_
      rintro ⟨-, hunmapped, -⟩
      rw [hunmapped m hfind] at hm
      cases hm
    | none =>
      have hunmapped : ∀ m, r.find? name = some m → m.isMapped = false := by
        simpa [Option.filter_eq_none_iff] using hmapped
      simpa using fun _ => hunmapped

/-- Without a verdict, a name is neither standard nor a shorthand, and what is registered under it
is a name with a vendor's mark that stands for nothing. -/
theorem verdict?_eq_none {r : Registry} {name : Text} (h : r.verdict? keywords name = none) :
    isStandard keywords name = false ∧ isDirectionalShorthand name = false ∧
      ∀ m, r.find? name = some m → (stripVendor? name).isSome ∧ m.targets = [] := by
  obtain ⟨hstandard, hunmapped, hinvalid⟩ := verdict?_eq_none_iff.mp h
  have hplain := isValid_eq_false hinvalid
  refine ⟨hstandard, Bool.eq_false_iff.mpr fun hshorthand => ?_, fun m hm => ⟨?_, ?_⟩⟩
  · rcases hplain with hmark | ⟨-, hnot⟩
    · rw [stripVendor?_of_isDirectionalShorthand hshorthand] at hmark
      cases hmark
    · rw [hshorthand] at hnot
      cases hnot
  · refine hplain.resolve_right fun ⟨hunregistered, _⟩ => ?_
    rw [any_entries, hm] at hunregistered
    cases hunregistered
  · simpa [Mapping.isMapped] using hunmapped m hm

end Registry

end DesignTokens
