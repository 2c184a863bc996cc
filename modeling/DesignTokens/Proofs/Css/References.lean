import DesignTokens.Css.Variables
import DesignTokens.Proofs.Text.Lowering
import DesignTokens.Proofs.Text.Splitting
import DesignTokens.Proofs.Token.Extraction

/-!
References among custom properties do not dangle. A token's name comes from the segments of its
path, lowered key by key and once more when they are joined; a reference comes from a text that is
split at its points again:

    path ── segment ──▶ segments ── join, lower ──▶ name
      │                                              ║
      └── join by points ──▶ { … } ── split, segment, join ──▶ var(name)

Settings under which both come out alike are called matched. The second lowering changes nothing,
since small letters stay small, and splitting gives the keys back, since they hold no points.
-/

namespace DesignTokens

/-- Settings that make names and references alike: names take in the whole path and have their
blanks replaced, both carry the same brand with the same separator behind it, and the path separator
stays as it is in small letters. -/
structure Config.Matched (c : Config) : Prop where
  depth : c.naming.depth = .all
  blanks : c.naming.replaceBlanks = true
  brand : c.naming.brand = c.sourceBrand
  useBrand : c.naming.useBrand = c.useSourceBrand
  separator : c.naming.useBrand = false ∨ c.naming.separator = c.pathSeparator
  small : c.naming.lowercase → Text.lower c.pathSeparator = c.pathSeparator

/-! ### Names -/

theorem brandMark_of_not_used (brand : Option Text) (separator : Text) :
    brandMark brand false separator = marker := by
  cases brand <;> rfl

theorem ReferenceStyle.spell_of_splitOn (style : ReferenceStyle) {path : Text} {keys : List Text}
    (h : Text.splitOn '.' path = keys) :
    style.spell path = "var(" ++ brandMark style.brand style.useBrand style.separator ++
      Text.join style.pathSeparator
        (keys.map (segment style.blankReplacement style.lowercase)) ++ ")" := by
  rw [← h]
  rfl

namespace Config

/-- The name of a token among custom properties that refer to others. -/
def targetName (c : Config) (t : Token) : Text := c.targetNaming.identifier t.segments

theorem mark_targetNaming {c : Config} (h : c.Matched) : c.targetNaming.mark =
    brandMark c.referenceStyle.brand c.referenceStyle.useBrand c.referenceStyle.separator := by
  unfold Naming.mark targetNaming referenceStyle
  simp only [← h.brand, ← h.useBrand]
  rcases h.separator with hunused | hsame
  · rw [hunused, brandMark_of_not_used, brandMark_of_not_used]
  · rw [hsame]

/-- The segments of a path are lowered already when their name is made. -/
theorem identifier_targetNaming {c : Config} (h : c.Matched) (path : List Text) :
    c.targetNaming.identifier (path.map c.naming.segment) =
      c.targetNaming.mark ++ Text.join c.pathSeparator
        (path.map (segment c.naming.blankReplacement c.naming.lowercase)) := by
  have hslice : c.targetNaming.depth.slice (path.map c.naming.segment) =
      (path.map (Text.replaceBlanks c.naming.blankReplacement false)).map
        (Text.lowerIf c.naming.lowercase) := by
    have hdepth : c.targetNaming.depth = .all := h.depth
    rw [hdepth, List.map_map]
    refine List.map_congr_left fun key _ => ?_
    rw [Naming.segment, if_pos h.blanks]
    rfl
  rw [Naming.identifier, hslice]
  refine congrArg (c.targetNaming.mark ++ ·) ((Text.lowerIf_join h.small _).trans ?_)
  rw [List.map_map]
  rfl

/-- A path, joined by points, is spelled as the use of the name that its segments give. -/
theorem spell_join {c : Config} (h : c.Matched) {path : List Text} (hne : path ≠ [])
    (hpoints : ∀ key ∈ path, '.' ∉ key) :
    c.referenceStyle.spell (Text.join ['.'] path) =
      "var(" ++ c.targetNaming.identifier (path.map c.naming.segment) ++ ")" := by
  have hspell := c.referenceStyle.spell_of_splitOn (Text.splitOn_join hne hpoints)
  rw [hspell, identifier_targetNaming h, mark_targetNaming h, ← List.append_assoc]
  rfl

end Config

/-! ### References -/

/-- A key that a reference can name. -/
structure IsReferenceKey (key : Text) : Prop where
  ne_nil : key ≠ []
  no_point : '.' ∉ key
  no_brace : '\x7d' ∉ key

instance : DecidablePred IsReferenceKey := fun key =>
  decidable_of_iff (key ≠ [] ∧ '.' ∉ key ∧ '\x7d' ∉ key)
    ⟨fun ⟨hne, hpoint, hbrace⟩ => ⟨hne, hpoint, hbrace⟩,
      fun h => ⟨h.ne_nil, h.no_point, h.no_brace⟩⟩

theorem referenceBody?_braced {path : List Text} (hne : path ≠ [])
    (hkeys : ∀ key ∈ path, IsReferenceKey key) :
    referenceBody? ("\x7b" ++ Text.join ['.'] path ++ "\x7d") = some (Text.join ['.'] path) := by
  have hpoints : ∀ key ∈ path, '.' ∉ key := fun key hkey => (hkeys key hkey).no_point
  have hbrace : '\x7d' ∉ Text.join ['.'] path :=
    Text.not_mem_join (by decide) fun key hkey => (hkeys key hkey).no_brace
  have hcut : Text.cut? '\x7d' (Text.join ['.'] path ++ ['\x7d']) =
      some (Text.join ['.'] path, []) := Text.cut?_append [] hbrace
  have hfull : path.all (!·.isEmpty) = true := by
    refine List.all_eq_true.mpr fun key hkey => ?_
    rw [Bool.not_eq_true', List.isEmpty_eq_false_iff]
    exact (hkeys key hkey).ne_nil
  show referenceBody? ('\x7b' :: (Text.join ['.'] path ++ ['\x7d'])) = _
  rw [referenceBody?, hcut]
  simp only [Text.splitOn_join hne hpoints, hfull, if_true]

/-- The line of a token among custom properties that refer to others. -/
def referringLine (c : Config) (t : Token) : Text := rootLine (c.targetName t, referringValue c t)

theorem referringProperties_eq (c : Config) (tokens : List Token) :
    referringProperties c tokens =
      ":root \x7b\n" ++ tokens.flatMap (referringLine c) ++ "\x7d\n" := by
  have hlines : (tokens.map fun t => (c.targetName t, referringValue c t)).flatMap rootLine =
      tokens.flatMap (referringLine c) := by
    rw [List.flatMap_map]
    rfl
  rw [← hlines]
  rfl

theorem referringLine_of_reference {c : Config} (h : c.Matched) {keywords : KeywordSet} {d : Json}
    {a b : Token} (ha : a ∈ Token.extract c.naming keywords d)
    (hkeys : ∀ key ∈ a.path, IsReferenceKey key)
    (hvalue : b.value = .string ("\x7b" ++ a.fullPath ++ "\x7d")) :
    referringLine c b = "  " ++ c.targetName b ++ ": var(" ++ c.targetName a ++ ");\n" := by
  obtain ⟨fields, -, -, hne, heq⟩ := Token.of_mem_extract c.naming keywords ha
  have hsegments : a.segments = a.path.map c.naming.segment := congrArg Token.segments heq
  have hbody : b.value.referenceBody? = some a.fullPath := by
    rw [hvalue]
    exact referenceBody?_braced hne hkeys
  have hspell : c.referenceStyle.spell a.fullPath = "var(" ++ c.targetName a ++ ")" := by
    rw [Config.targetName, hsegments]
    exact Config.spell_join h hne fun key hkey => (hkeys key hkey).no_point
  rw [referringLine, referringValue, hbody]
  simp [hspell, rootLine]

/-- Under matched settings the output is a block of one line for each token, and where the value of
a token is the path of another one in braces, its line uses the very name that the line of the other
one declares. -/
theorem references_use_declared_names {c : Config} (h : c.Matched) (keywords : KeywordSet)
    (d : Json) :
    let tokens := Token.extract c.naming keywords d
    referringProperties c tokens =
        ":root \x7b\n" ++ tokens.flatMap (referringLine c) ++ "\x7d\n" ∧
      ∀ a ∈ tokens, ∀ b ∈ tokens, (∀ key ∈ a.path, IsReferenceKey key) →
        b.value = .string ("\x7b" ++ a.fullPath ++ "\x7d") →
        referringLine c a = "  " ++ c.targetName a ++ ": " ++ referringValue c a ++ ";\n" ∧
          referringLine c b = "  " ++ c.targetName b ++ ": var(" ++ c.targetName a ++ ");\n" := by
  refine ⟨referringProperties_eq c _, fun a ha b _ hkeys hvalue => ⟨rfl, ?_⟩⟩
  exact referringLine_of_reference h ha hkeys hvalue

/-- A capital sigma at the end of a key: the name that is declared and the one that is used both
have the form that stands at the end of a word. -/
theorem reference_uses_final_sigma :
    let c : Config := { Config.default with naming := { Naming.default with depth := .all } }
    let red := Json.object [("$type", .string "color"), ("$value", .string "red")]
    let use := Json.object
      [("$type", .string "color"), ("$value", .string "\x7bStadt.ΟΔΟΣ\x7d")]
    let d := Json.object [("Stadt", .object [("ΟΔΟΣ", red)]), ("Knopf", use)]
    ∃ a ∈ Token.extract c.naming ⟨[]⟩ d, ∃ b ∈ Token.extract c.naming ⟨[]⟩ d,
      c.targetName a = "--stadt-οδος" ∧
        referringLine c a = "  " ++ c.targetName a ++ ": " ++ referringValue c a ++ ";\n" ∧
        referringLine c b = "  " ++ c.targetName b ++ ": var(" ++ c.targetName a ++ ");\n" := by
  intro c red use d
  have hc : c.Matched :=
    ⟨rfl, rfl, rfl, rfl, Or.inl rfl, fun _ => by decide +kernel⟩
  let keys : List Text := ["Stadt", "ΟΔΟΣ"]
  let a := Token.ofFields ⟨[]⟩ keys (keys.map c.naming.segment) red.fields
  let b := Token.ofFields ⟨[]⟩ ["Knopf"] [c.naming.segment "Knopf"] use.fields
  have htokens : Token.extract c.naming ⟨[]⟩ d = [a, b] := rfl
  have ha : a ∈ Token.extract c.naming ⟨[]⟩ d := by
    rw [htokens]
    exact List.mem_cons_self ..
  have hb : b ∈ Token.extract c.naming ⟨[]⟩ d := by
    rw [htokens]
    exact List.mem_cons_of_mem a (List.mem_singleton_self b)
  have hkeys : ∀ key ∈ a.path, IsReferenceKey key := by
    have hall : ∀ key ∈ keys, key ≠ [] ∧ '.' ∉ key ∧ '\x7d' ∉ key := by decide
    intro key hkey
    obtain ⟨hne, hpoint, hbrace⟩ := hall key hkey
    exact ⟨hne, hpoint, hbrace⟩
  refine ⟨a, ha, b, hb, by decide +kernel, ?_⟩
  exact (references_use_declared_names hc ⟨[]⟩ d).2 a ha b hb hkeys rfl

end DesignTokens
