import DesignTokens.Proofs.Css.Scanning
import DesignTokens.Proofs.Mapping.Verdicts

/-!
Where detection and validity part. Both take a name to be known if it is a keyword in any case or if
a mapping has it as its name; but validity also looks behind a vendor's mark, finds a mapping in any
case, and accepts the directional shorthands.

                   keyword   behind a mark   mapping as spelled   mapping in any case   shorthand
    detection         ✓                              ✓
    validity          ✓            ✓                 ✓                     ✓                ✓

So a name that detection reports can be valid all the same (`Overlooked`), and since every name can
be declared, the two agree on all sheets only if there is no such name at all.
-/

namespace DesignTokens

/-- The three ways for a name to be valid that detection does not look at. -/
inductive Overlooked (keywords : KeywordSet) (mappings : List Mapping) (name : Text) : Prop
  | marked {rest : Text} (hmark : stripVendor? name = some rest) (hrest : keywords.contains rest)
  | registered {m : Mapping} (hmark : stripVendor? name = none) (hm : m ∈ mappings)
      (hsame : m.name.sameName name)
  | shorthand (h : isDirectionalShorthand name)

variable {keywords : KeywordSet} {mappings : List Mapping} {name : Text}

/-- A name that detection knows nothing of is valid in one of these ways or not at all. -/
theorem isValid_iff_overlooked (h : Unlisted keywords mappings name) :
    isValid keywords mappings name ↔ Overlooked keywords mappings name := by
  rw [isValid_iff, h.no_keyword]
  constructor
  · rintro (hkeyword | ⟨rest, hmark, hrest⟩ | ⟨hmark, hregistered | hshorthand⟩)
    · cases hkeyword
    · exact .marked hmark hrest
    · obtain ⟨m, hm, hsame⟩ := List.any_eq_true.mp hregistered
      exact .registered hmark hm hsame
    · exact .shorthand hshorthand
  · rintro (⟨hmark, hrest⟩ | ⟨hmark, hm, hsame⟩ | hshorthand)
    · exact .inr (.inl ⟨_, hmark, hrest⟩)
    · exact .inr (.inr ⟨hmark, .inl (List.any_eq_true.mpr ⟨_, hm, hsame⟩)⟩)
    · exact .inr (.inr ⟨stripVendor?_of_isDirectionalShorthand hshorthand, .inr hshorthand⟩)

/-- A sheet that declares a name. -/
def declaring (name : Text) : Text := "a" ++ '{' :: (name ++ ":x;" ++ ['}'])

theorem declaredNames_declaring (hname : IsPropertyName name) :
    (ruleBodies (declaring name)).flatMap declaredNames = [name] := by
  have hselector : Text.Braceless "a" := by decide
  have hbody : Text.Braceless (name ++ ":x;") :=
    Text.braceless_append.mpr
      ⟨fun c hc => isBrace_of_isNameChar (hname.nameChars c hc), by decide⟩
  have hdeclared : declaredNames (name ++ ":x;") = [name] :=
    declaredNames_declaration hname (List.forall_mem_nil _) (List.cons_ne_nil 'x' [])
      (by decide) []
  rw [ruleBodies, declaring, bodiesFrom_rule (by decide) hselector hbody, bodiesFrom,
    List.flatMap_cons, declaredNames_trimStart, hdeclared]
  rfl

/-- Every name that nothing is known of is reported of some sheet. -/
theorem mem_detectCustom_declaring (hname : IsPropertyName name)
    (h : Unlisted keywords mappings name) :
    name ∈ detectCustom keywords mappings (declaring name) := by
  rw [mem_detectCustom, declaredNames_declaring hname]
  exact ⟨List.mem_singleton_self name, h⟩

/-- Whatever is reported is a name that detection knows nothing of, so it is no keyword in any case
and no mapping has it as its name; it is valid just if it was overlooked. Detection never reports a
valid name, on no sheet, just if no name can be overlooked. -/
theorem scanner_agrees_iff (keywords : KeywordSet) (mappings : List Mapping) :
    (∀ css, ∀ name ∈ detectCustom keywords mappings css,
      IsPropertyName name ∧ Unlisted keywords mappings name ∧
        (isValid keywords mappings name ↔ Overlooked keywords mappings name)) ∧
      ((∀ css, ∀ name ∈ detectCustom keywords mappings css,
          isValid keywords mappings name = false) ↔
        ∀ name, IsPropertyName name → Unlisted keywords mappings name →
          ¬Overlooked keywords mappings name) := by
  have hreported : ∀ css, ∀ name ∈ detectCustom keywords mappings css,
      IsPropertyName name ∧ Unlisted keywords mappings name ∧
        (isValid keywords mappings name ↔ Overlooked keywords mappings name) := by
    intro css name hname
    obtain ⟨hdeclared, hunlisted⟩ := mem_detectCustom.mp hname
    obtain ⟨body, -, hbody⟩ := List.mem_flatMap.mp hdeclared
    exact ⟨isPropertyName_of_mem_declaredNamesFrom hbody, hunlisted,
      isValid_iff_overlooked hunlisted⟩
  refine ⟨hreported, fun hagree name hname hunlisted hover => ?_, fun hnone css name hname => ?_⟩
  · have hinvalid := hagree _ name (mem_detectCustom_declaring hname hunlisted)
    rw [(isValid_iff_overlooked hunlisted).mpr hover] at hinvalid
    cases hinvalid
  · obtain ⟨hproperty, hunlisted, hvalid⟩ := hreported css name hname
    exact Bool.eq_false_iff.mpr fun h => hnone name hproperty hunlisted (hvalid.mp h)

/-- A standard name behind a vendor's mark and a registered name in capitals are reported. -/
theorem scanner_reports_valid_names :
    let keywords := KeywordSet.ofNames ["transform"]
    let mappings := [Mapping.of "inset-x" ["left", "right"] none]
    let css : Text := ".card \x7b -webkit-transform: none; Inset-X: 4px; \x7d"
    detectCustom keywords mappings css = [("-webkit-transform" : Text), "Inset-X"] ∧
      isValid keywords mappings "-webkit-transform" ∧ isValid keywords mappings "Inset-X" ∧
      ¬∀ (keywords : KeywordSet) (mappings : List Mapping) (css : Text),
        ∀ name ∈ detectCustom keywords mappings css, isValid keywords mappings name = false := by
  intro keywords mappings css
  have hreported : detectCustom keywords mappings css =
      [("-webkit-transform" : Text), "Inset-X"] := by decide +kernel
  have hvalid : isValid keywords mappings "-webkit-transform" := by decide
  refine ⟨hreported, hvalid, by decide, fun hagree => ?_⟩
  have hinvalid := hagree keywords mappings css "-webkit-transform" (by simp [hreported])
  rw [hvalid] at hinvalid
  cases hinvalid

end DesignTokens
