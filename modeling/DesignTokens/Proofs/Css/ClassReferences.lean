import DesignTokens.Proofs.Css.References
import DesignTokens.Proofs.Text.Blanks
import DesignTokens.Proofs.Text.WordEnds

/-!
References in class rules. A class rule spells a reference with small letters and dashes, whatever
the settings are, and leaves the blanks of its keys as they stand. The custom property of the same
path has its blanks replaced first:

    Font.Line Height ── in a class rule ──▶ var(--font-line height)
                     ── as a property   ──▶     --font-line-height

So under the default settings for whole paths a reference names the property that is declared for
its path exactly when no key holds a blank. Nothing else can keep the two apart: a dash ends a word,
so it does not matter whether keys are made small before they are joined or after.
-/

namespace DesignTokens

namespace Naming

/-- The default settings, with names that take in the whole path. -/
def wholePath : Naming := { default with depth := .all }

/-- The custom property of a token at a path. -/
def declaredName (n : Naming) (path : List Text) : Text := n.identifier (path.map n.segment)

theorem declaredName_wholePath (path : List Text) :
    wholePath.declaredName path = "--" ++ Text.join ['-']
      ((path.map (Text.replaceBlanks ['-'] false)).map Text.lower) := by
  have hdash : Text.lower ['-'] = ['-'] := by decide
  have hmark : wholePath.mark = "--" := by decide
  have hsegments : path.map wholePath.segment =
      (path.map (Text.replaceBlanks ['-'] false)).map (Text.lowerIf true) := by
    rw [List.map_map]
    rfl
  rw [declaredName, identifier, hsegments, hmark]
  exact congrArg (_ ++ ·) (Text.lowerIf_join (fun _ => hdash) _)

end Naming

/-- The block of custom properties declares the names of the paths of its tokens. -/
theorem customProperties_extract (c : Config) (keywords : KeywordSet) (d : Json) :
    let tokens := Token.extract c.naming keywords d
    customProperties c tokens =
      rootBlock (tokens.map fun t =>
        (c.naming.declaredName t.path, t.formatted c.useCodeSyntax c.decimals.toNat)) := by
  intro tokens
  refine congrArg rootBlock (List.map_congr_left fun t ht => ?_)
  obtain ⟨fields, -, -, -, heq⟩ := Token.of_mem_extract c.naming keywords ht
  have hsegments : t.segments = t.path.map c.naming.segment := congrArg Token.segments heq
  rw [hsegments]
  rfl

namespace Expression

theorem ofText_braced {path : List Text} (hne : path ≠ [])
    (hkeys : ∀ key ∈ path, IsReferenceKey key) :
    ofText ("\x7b" ++ Text.join ['.'] path ++ "\x7d") = .reference path := by
  have hsplit : Text.splitOn '.' (Text.join ['.'] path) = path :=
    Text.splitOn_join hne fun key hkey => (hkeys key hkey).no_point
  rw [ofText, reference?, referenceBody?_braced hne hkeys, Option.map_some, hsplit]

theorem css_reference (places : Nat) (path : List Text) :
    (reference path).css places = "var(--" ++ Text.lower (Text.join ['-'] path) ++ ")" := rfl

/-- A reference in a class rule has its keys made small and joined by dashes. -/
theorem css_braced {path : List Text} (hne : path ≠ []) (hkeys : ∀ key ∈ path, IsReferenceKey key)
    (places : Nat) :
    (ofText ("\x7b" ++ Text.join ['.'] path ++ "\x7d")).css places =
      "var(" ++ ("--" ++ Text.join ['-'] (path.map Text.lower)) ++ ")" := by
  have hdash : smallForm '-' = ['-'] := by decide
  rw [ofText_braced hne hkeys, css_reference, Text.lower_join endsWord_dash, hdash]
  rfl

end Expression

/-- Keys that are made small with their blanks or with dashes in their place agree exactly when they
hold no blanks. -/
theorem join_lower_eq_iff (path : List Text) :
    Text.join ['-'] (path.map Text.lower) =
        Text.join ['-'] ((path.map (Text.replaceBlanks ['-'] false)).map Text.lower) ↔
      ∀ key ∈ path, key.Unbroken := by
  have hdash : Text.Unbroken ['-'] := List.forall_mem_singleton.mpr (by decide)
  constructor
  · intro h
    have hdeclared : Text.Unbroken (Text.join ['-'] (path.map Text.lower)) := by
      rw [h, Text.unbroken_join hdash]
      simp only [List.forall_mem_map, Text.unbroken_lower_iff]
      exact fun key _ => Text.unbroken_replaceBlanks hdash key false
    rw [Text.unbroken_join hdash] at hdeclared
    simpa only [List.forall_mem_map, Text.unbroken_lower_iff] using hdeclared
  · intro h
    have hkept : path.map (Text.replaceBlanks ['-'] false) = path.map id :=
      List.map_congr_left fun key hkey => Text.replaceBlanks_of_unbroken ['-'] (h key hkey) false
    rw [hkept, List.map_id]

/-- The custom properties of a document are those that the paths of its tokens have. In a class
rule, the value that is such a path in braces uses the property of the path exactly when none of the
keys holds a blank. -/
theorem class_reference_declared_iff (places : Nat) {path : List Text} (hne : path ≠ [])
    (hkeys : ∀ key ∈ path, IsReferenceKey key) :
    (∀ c keywords d, c.naming = Naming.wholePath →
      customProperties c (Token.extract c.naming keywords d) =
        rootBlock ((Token.extract c.naming keywords d).map fun t =>
          (Naming.wholePath.declaredName t.path,
            t.formatted c.useCodeSyntax c.decimals.toNat))) ∧
      ((Expression.ofText ("\x7b" ++ Text.join ['.'] path ++ "\x7d")).css places =
          "var(" ++ Naming.wholePath.declaredName path ++ ")" ↔
        ∀ key ∈ path, key.Unbroken) := by
  refine ⟨fun c keywords d hc => ?_, ?_⟩
  · rw [← hc]
    exact customProperties_extract c keywords d
  · rw [Expression.css_braced hne hkeys, Naming.declaredName_wholePath, ← join_lower_eq_iff]
    simp

/-- Capitals, the sigma at the end of a word among them, do no harm. -/
theorem class_reference_of_capitals :
    let path : List Text := ["Stadt", "ΟΔΟΣ"]
    path ≠ [] ∧ (∀ key ∈ path, IsReferenceKey key) ∧
      (Expression.ofText ("\x7b" ++ Text.join ['.'] path ++ "\x7d")).css 4 =
        "var(" ++ Naming.wholePath.declaredName path ++ ")" := by
  intro path
  have hne : path ≠ [] := by decide
  have hkeys : ∀ key ∈ path, IsReferenceKey key := by decide
  have hunbroken : ∀ key ∈ path, key.Unbroken := by decide
  exact ⟨hne, hkeys, (class_reference_declared_iff 4 hne hkeys).2.mpr hunbroken⟩

/-- A reference to a key with a blank names no property that is declared: not every path that can be
written in braces is spelled as its property. -/
theorem class_reference_keeps_blank :
    let path : List Text := ["Typography", "Display 1", "Font Size"]
    (Expression.ofText ("\x7b" ++ Text.join ['.'] path ++ "\x7d")).css 4 =
        "var(--typography-display 1-font size)" ∧
      Naming.wholePath.declaredName path = "--typography-display-1-font-size" ∧
      ¬∀ (places : Nat) (path : List Text), path ≠ [] → (∀ key ∈ path, IsReferenceKey key) →
        (Expression.ofText ("\x7b" ++ Text.join ['.'] path ++ "\x7d")).css places =
          "var(" ++ Naming.wholePath.declaredName path ++ ")" := by
  intro path
  refine ⟨by decide +kernel, by decide +kernel, fun h => ?_⟩
  have hpath := h 4 path (by decide) (by decide)
  exact absurd hpath (by decide +kernel)

end DesignTokens
