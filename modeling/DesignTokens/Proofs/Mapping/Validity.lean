import DesignTokens.Proofs.Mapping.Verdicts

/-!
The grounds on which a name may be valid: it is a keyword, it is a keyword behind a vendor's mark, a
mapping is registered for it, or it is a directional shorthand. A valid name has one of them. But a
vendor's mark settles the question, so the third ground does not count for a name that carries one:

                          keyword   marked keyword   registered   shorthand
    without a mark           ✓                            ✓           ✓
    with a mark              ✓            ✓

A mark can be read off a name in one way only, and no shorthand carries one. So what keeps a ground
from making a name valid is always a registration behind a mark (`Barred`); and among the registered
names these are the ones that can still be reported as detected.
-/

namespace DesignTokens

/-- The text is a vendor's mark, in any case. -/
def IsVendorMark (t : Text) : Prop := ∃ vendor ∈ vendorMarks, t.sameName vendor

/-- The grounds on which a name may be valid. -/
inductive Ground (keywords : KeywordSet) (registered : List Mapping) (name : Text) : Prop
  | keyword (h : keywords.contains name)
  | marked {mark rest : Text} (hmark : IsVendorMark mark) (hname : name = mark ++ rest)
      (hrest : keywords.contains rest)
  | registered {m : Mapping} (hm : m ∈ registered) (hsame : m.name.sameName name)
  | shorthand {s : Text} (hs : s ∈ directionalShorthands) (hsame : s.sameName name)

/-- The name is registered, but carries a vendor's mark in front of a name that is no keyword. -/
structure Barred (keywords : KeywordSet) (registered : List Mapping) (name : Text) : Prop where
  no_keyword : keywords.contains name = false
  marked : ∃ mark rest, IsVendorMark mark ∧ name = mark ++ rest ∧ keywords.contains rest = false
  registered : ∃ m ∈ registered, m.name.sameName name

/-! ### Names with a vendor's mark -/

section Marks

variable {mark mark' rest rest' name : Text}

/-- A mark in small letters is one of the four. -/
theorem IsVendorMark.foldCase_mem (h : IsVendorMark mark) : mark.foldCase ∈ vendorMarks := by
  obtain ⟨vendor, hvendor, hsame⟩ := h
  have hsmall : ∀ vendor ∈ vendorMarks, Text.foldCase vendor = vendor := by decide
  rwa [(Text.sameName_iff _ _).mp hsame, hsmall vendor hvendor]

/-- No mark begins another one, so a name carries one mark at most. -/
theorem IsVendorMark.eq_of_append (h : IsVendorMark mark) (h' : IsVendorMark mark')
    (heq : mark ++ rest = mark' ++ rest') : mark = mark' ∧ rest = rest' := by
  have hapart : ∀ a ∈ vendorMarks, ∀ b ∈ vendorMarks, a.isPrefixOf b → a = b := by decide
  have hstart : mark.foldCase <+: (mark ++ rest).foldCase := by
    rw [Text.foldCase, Text.foldCase, List.map_append]
    exact List.prefix_append _ _
  have hstart' : mark'.foldCase <+: (mark ++ rest).foldCase := by
    rw [heq, Text.foldCase, Text.foldCase, List.map_append]
    exact List.prefix_append _ _
  have hsame : mark.foldCase = mark'.foldCase := by
    rcases List.prefix_or_prefix_of_prefix hstart hstart' with hpre | hpre
    · exact hapart _ h.foldCase_mem _ h'.foldCase_mem (List.isPrefixOf_iff_prefix.mpr hpre)
    · exact (hapart _ h'.foldCase_mem _ h.foldCase_mem (List.isPrefixOf_iff_prefix.mpr hpre)).symm
  have hlength : mark.length = mark'.length := by
    simpa [Text.foldCase] using congrArg List.length hsame
  exact List.append_inj heq hlength

/-- What is left of a name without its mark. -/
theorem stripVendor?_eq_some_iff :
    stripVendor? name = some rest ↔ ∃ mark, IsVendorMark mark ∧ name = mark ++ rest := by
  have hsound : ∀ {rest}, stripVendor? name = some rest →
      ∃ mark, IsVendorMark mark ∧ name = mark ++ rest := by
    intro rest h
    obtain ⟨vendor, hvendor, hfound⟩ := List.exists_of_findSome?_eq_some h
    split at hfound
    · next hsame =>
      obtain rfl := Option.some.inj hfound
      exact ⟨_, ⟨vendor, hvendor, hsame⟩, (List.take_append_drop _ name).symm⟩
    · cases hfound
  refine ⟨hsound, ?_⟩
  rintro ⟨mark, hmark, rfl⟩
  cases hfound : stripVendor? (mark ++ rest) with
  | some rest' =>
    obtain ⟨mark', hmark', heq⟩ := hsound hfound
    rw [(hmark.eq_of_append hmark' heq).2]
  | none =>
    obtain ⟨vendor, hvendor, hsame⟩ := hmark
    have hlength : mark.length = vendor.length := by
      simpa [Text.foldCase] using congrArg List.length ((Text.sameName_iff _ _).mp hsame)
    have hmissed := List.findSome?_eq_none_iff.mp hfound vendor hvendor
    rw [← hlength, List.take_left, if_pos hsame] at hmissed
    cases hmissed

end Marks

/-! ### Grounds that count -/

section Grounds

variable {keywords : KeywordSet} {registered : List Mapping} {name : Text}

/-- A registration behind a mark does not make a name valid. -/
theorem Barred.isValid_eq_false (h : Barred keywords registered name) :
    isValid keywords registered name = false := by
  obtain ⟨mark, rest, hmark, hname, hrest⟩ := h.marked
  have hstrip : stripVendor? name = some rest := stripVendor?_eq_some_iff.mpr ⟨mark, hmark, hname⟩
  refine Bool.eq_false_iff.mpr fun hvalid => ?_
  rcases isValid_iff.mp hvalid with hkeyword | ⟨rest', hstrip', hrest'⟩ | ⟨hunmarked, -⟩
  · rw [h.no_keyword] at hkeyword
    cases hkeyword
  · rw [hstrip] at hstrip'
    cases hstrip'
    rw [hrest] at hrest'
    cases hrest'
  · rw [hstrip] at hunmarked
    cases hunmarked

/-- A valid name has a ground. -/
theorem ground_of_isValid (h : isValid keywords registered name) :
    Ground keywords registered name := by
  rcases isValid_iff.mp h with hkeyword | ⟨rest, hstrip, hrest⟩ | ⟨-, hregistered | hshorthand⟩
  · exact .keyword hkeyword
  · obtain ⟨mark, hmark, hname⟩ := stripVendor?_eq_some_iff.mp hstrip
    exact .marked hmark hname hrest
  · obtain ⟨m, hm, hsame⟩ := List.any_eq_true.mp hregistered
    exact .registered hm hsame
  · obtain ⟨shorthand, hs, hsame⟩ := List.any_eq_true.mp hshorthand
    exact .shorthand hs hsame

/-- Registering a name makes it valid, unless it is barred. -/
theorem isValid_of_registered {m : Mapping} (hm : m ∈ registered) (hsame : m.name.sameName name)
    (h : ¬Barred keywords registered name) : isValid keywords registered name := by
  rw [isValid_iff]
  cases hkeyword : keywords.contains name with
  | true => exact .inl rfl
  | false =>
    cases hstrip : stripVendor? name with
    | none => exact .inr (.inr ⟨rfl, .inl (List.any_eq_true.mpr ⟨m, hm, hsame⟩)⟩)
    | some rest =>
      cases hrest : keywords.contains rest with
      | true => exact .inr (.inl ⟨rest, rfl, hrest⟩)
      | false =>
        obtain ⟨mark, hmark, hname⟩ := stripVendor?_eq_some_iff.mp hstrip
        exact absurd ⟨hkeyword, ⟨mark, rest, hmark, hname, hrest⟩, m, hm, hsame⟩ h

theorem isValid_of_ground (hground : Ground keywords registered name)
    (h : ¬Barred keywords registered name) : isValid keywords registered name := by
  cases hground with
  | keyword hkeyword => exact isValid_iff.mpr (.inl hkeyword)
  | marked hmark hname hrest =>
    exact isValid_iff.mpr (.inr (.inl ⟨_, stripVendor?_eq_some_iff.mpr ⟨_, hmark, hname⟩, hrest⟩))
  | registered hm hsame => exact isValid_of_registered hm hsame h
  | shorthand hs hsame =>
    have hshorthand : isDirectionalShorthand name := List.any_eq_true.mpr ⟨_, hs, hsame⟩
    exact isValid_iff.mpr
      (.inr (.inr ⟨stripVendor?_of_isDirectionalShorthand hshorthand, .inr hshorthand⟩))

end Grounds

/-! ### Registered names that are reported -/

/-- A mapper reports the names that the registry has no verdict on. -/
theorem Mapper.resolve_eq_detected_iff (m : Mapper) (keywords : KeywordSet) (name : Text) :
    (∃ targets, (m.resolve keywords name).1 = .detected targets) ↔
      m.registry.verdict? keywords name = none := by
  rw [resolve_eq]
  cases hverdict : m.registry.verdict? keywords name with
  | none => exact iff_of_true ⟨_, rfl⟩ rfl
  | some answer =>
    refine iff_of_false ?_ nofun
    rintro ⟨targets, rfl⟩
    unfold Registry.verdict? at hverdict
    split at hverdict
    · cases hverdict
    · split at hverdict
      · cases hverdict
      · split at hverdict <;> cases hverdict

/-- A barred name is not standard. -/
theorem Barred.isStandard_eq_false {keywords : KeywordSet} {registered : List Mapping} {name : Text}
    (h : Barred keywords registered name) : isStandard keywords name = false := by
  obtain ⟨mark, rest, hmark, hname, hrest⟩ := h.marked
  rw [isStandard, h.no_keyword, stripVendor?_eq_some_iff.mpr ⟨mark, hmark, hname⟩]
  exact hrest

/-- A registered name is reported just if it is barred and stands for nothing. -/
theorem Mapper.resolve_registered_iff (m : Mapper) (keywords : KeywordSet) (name : Text) :
    ((∃ entry ∈ m.registry.entries, entry.name.sameName name) ∧
        ∃ targets, (m.resolve keywords name).1 = .detected targets) ↔
      Barred keywords m.registry.entries name ∧
        ∀ entry, m.registry.find? name = some entry → entry.targets = [] := by
  rw [resolve_eq_detected_iff, Registry.verdict?_eq_none_iff]
  constructor
  · rintro ⟨⟨entry, hentry, hsame⟩, -, hunmapped, hinvalid⟩
    refine ⟨?_, fun entry hfind => by simpa [Mapping.isMapped] using hunmapped entry hfind⟩
    by_contra hbarred
    rw [isValid_of_registered hentry hsame hbarred] at hinvalid
    cases hinvalid
  · rintro ⟨hbarred, hunmapped⟩
    refine ⟨hbarred.registered, hbarred.isStandard_eq_false, fun entry hfind => ?_,
      hbarred.isValid_eq_false⟩
    simpa [Mapping.isMapped] using hunmapped entry hfind

/-- A name is valid just if it has a ground and is not barred, so the grounds decide on all names
but the barred ones; and a registered name is reported as detected just if it is barred and no
targets are registered for it. -/
theorem grounds_decide_iff (keywords : KeywordSet) (registered : List Mapping) (name : Text) :
    (isValid keywords registered name ↔
      Ground keywords registered name ∧ ¬Barred keywords registered name) ∧
    ((isValid keywords registered name ↔ Ground keywords registered name) ↔
      ¬Barred keywords registered name) ∧
    ∀ m : Mapper, ((∃ entry ∈ m.registry.entries, entry.name.sameName name) ∧
        ∃ targets, (m.resolve keywords name).1 = .detected targets) ↔
      Barred keywords m.registry.entries name ∧
        ∀ entry, m.registry.find? name = some entry → entry.targets = [] := by
  have hvalid : isValid keywords registered name ↔
      Ground keywords registered name ∧ ¬Barred keywords registered name := by
    refine ⟨fun h => ⟨ground_of_isValid h, fun hbarred => ?_⟩, fun ⟨hground, h⟩ =>
      isValid_of_ground hground h⟩
    rw [hbarred.isValid_eq_false] at h
    cases h
  refine ⟨hvalid, ⟨fun hagree hbarred => ?_, fun h => ?_⟩,
    fun m => m.resolve_registered_iff keywords name⟩
  · -- a barred name has a ground, the registration
    obtain ⟨m, hm, hsame⟩ := hbarred.registered
    exact (hvalid.mp (hagree.mpr (.registered hm hsame))).2 hbarred
  · rw [hvalid, and_iff_left h]

/-- A name with a vendor's mark is not valid although it is registered, and it is reported as
detected when it is registered without targets. -/
theorem registered_mark_is_invalid :
    let keywords := KeywordSet.ofNames ["color"]
    let registered := [Mapping.of "-webkit-glow" ["box-shadow"] none]
    isValid keywords registered "-webkit-glow" = false ∧
      (((Mapper.ofRegistry .defaults).update "-webkit-glow" [] none).resolve keywords
        "-webkit-glow").1 = .detected [] ∧
      ¬∀ (keywords : KeywordSet) (registered : List Mapping) (name : Text),
        isValid keywords registered name ↔ Ground keywords registered name := by
  intro keywords registered
  have hinvalid : isValid keywords registered "-webkit-glow" = false := by decide
  refine ⟨hinvalid, by decide, fun hagree => ?_⟩
  have hground : Ground keywords registered "-webkit-glow" :=
    .registered (List.mem_singleton_self _) (Text.sameName_refl _)
  rw [(hagree keywords registered _).mpr hground] at hinvalid
  cases hinvalid

end DesignTokens
