import DesignTokens.Css.ClassBlock
import DesignTokens.Proofs.Css.ClassReferences
import DesignTokens.Proofs.Text.Segments

/-!
Classes and custom properties name a token alike. A class rule joins the keys of a path by blanks
and makes one segment of them; a custom property joins the segments of the keys:

    Typography / Display 1 / Font Size
        class rule          typography-display-1        font-size
        custom property   --typography-display-1-font-size          (for whole paths)
                          --font-size                               (for the last key)

Where the separator is what stands in for blanks, and no key has a blank at its ends, both ways lead
to the same text, whatever the depth (`segment_join`).
-/

namespace DesignTokens

namespace Depth

variable {α β : Type}

theorem slice_map (d : Depth) (f : α → β) (path : List α) :
    d.slice (path.map f) = (d.slice path).map f := by
  rw [slice, slice]
  cases d.normalized with
  | all => rfl
  | last count => rw [List.length_map, List.map_drop]

theorem mem_of_mem_slice {d : Depth} {path : List α} {a : α} (h : a ∈ d.slice path) : a ∈ path := by
  rw [slice] at h
  cases hd : d.normalized with
  | all => rwa [hd] at h
  | last count =>
    rw [hd] at h
    exact List.mem_of_mem_drop h

end Depth

section Names

variable {c : Config} {path : List Text}

/-- The segment of a joined path is made of the segments of its keys. -/
theorem segment_join_path (hblanks : c.naming.replaceBlanks = true)
    (hseparator : c.naming.separator = c.naming.blankReplacement)
    (hsigma : 'Σ' ∉ c.naming.separator) (hkeys : ∀ key ∈ path, key.Tight ∧ 'Σ' ∉ key) :
    segment c.naming.blankReplacement c.naming.lowercase (Text.join [' '] path) =
      Text.lowerIf c.naming.lowercase
        (Text.join c.naming.separator (path.map c.naming.segment)) := by
  have hsegment : c.naming.segment = segment c.naming.separator c.naming.lowercase := by
    funext key
    rw [Naming.segment, if_pos hblanks, hseparator]
  rw [← hseparator, segment_join hsigma hkeys, hsegment]

/-- Without a brand, a custom property is the marker and what a class rule calls the property. -/
theorem declaredName_eq (hblanks : c.naming.replaceBlanks = true)
    (hbrand : c.naming.useBrand = false)
    (hseparator : c.naming.separator = c.naming.blankReplacement)
    (hsigma : 'Σ' ∉ c.naming.separator) (hkeys : ∀ key ∈ path, key.Tight ∧ 'Σ' ∉ key) :
    c.naming.declaredName path = marker ++ propertyName c path := by
  have hmark : c.naming.mark = marker := by
    rw [Naming.mark, hbrand, brandMark_of_not_used]
  have hslice : ∀ key ∈ c.naming.depth.slice path, key.Tight ∧ 'Σ' ∉ key :=
    fun key hkey => hkeys key (Depth.mem_of_mem_slice hkey)
  rw [Naming.declaredName, Naming.identifier, hmark, Depth.slice_map, propertyName,
    segment_join_path hblanks hseparator hsigma hslice]

/-- A path of one key has nothing to name its class for. -/
theorem className_singleton (c : Config) (key : Text) : className c [key] = fallbackClass := by
  have hempty : segment c.naming.blankReplacement c.naming.lowercase [] = [] := by
    cases c.naming.lowercase <;> rfl
  rw [className]
  exact if_pos (List.isEmpty_iff.mpr hempty)

/-- The class of a longer path is named for the keys above the last one. -/
theorem className_cons_cons {p : Text} (hp : p.Tight) (q : Text) (rest : List Text) :
    className c (p :: q :: rest) = segment c.naming.blankReplacement c.naming.lowercase
      (Text.join [' '] (p :: q :: rest).dropLast) := by
  rw [className]
  refine if_neg (Bool.eq_false_iff.mp (List.isEmpty_eq_false_iff.mpr ?_))
  exact segment_join_ne_nil hp (q :: rest).dropLast

end Names

/-- Under settings that replace blanks by the separator and use no brand, the custom property of a
path is the marker and the property that a class rule gives it, for every depth; and its class is
named by the segments of all keys but the last, joined by the separator, unless the path has one key
only. -/
theorem classes_and_variables_named_alike {c : Config} {path : List Text}
    (hblanks : c.naming.replaceBlanks = true) (hbrand : c.naming.useBrand = false)
    (hseparator : c.naming.separator = c.naming.blankReplacement)
    (hsigma : 'Σ' ∉ c.naming.separator) (hne : path ≠ [])
    (hkeys : ∀ key ∈ path, key.Tight ∧ 'Σ' ∉ key) :
    c.naming.identifier (path.map c.naming.segment) = marker ++ propertyName c path ∧
      className c path =
        if path.length = 1 then fallbackClass
        else Text.lowerIf c.naming.lowercase
          (Text.join c.naming.separator (path.dropLast.map c.naming.segment)) := by
  refine ⟨declaredName_eq hblanks hbrand hseparator hsigma hkeys, ?_⟩
  match path, hne with
  | [key], _ => exact className_singleton c key
  | p :: q :: rest, _ =>
    have hp : p.Tight := (hkeys p List.mem_cons_self).1
    have hgroup : ∀ key ∈ (p :: q :: rest).dropLast, key.Tight ∧ 'Σ' ∉ key :=
      fun key hkey => hkeys key ((List.dropLast_sublist _).subset hkey)
    rw [className_cons_cons hp, segment_join_path hblanks hseparator hsigma hgroup,
      if_neg (by simp)]

/-- A heading three keys deep whose property takes in two of them; there is a run of two blanks
within a key, and the separator has a capital letter. -/
theorem heading_named_alike :
    let c : Config := { Config.default with
      naming := { Naming.default with separator := "_X", blankReplacement := "_X", depth := .last 2 } }
    let path : List Text := ["Typography", "Display  1", "Font Size"]
    c.naming.identifier (path.map c.naming.segment) = "--display_x1_xfont_xsize" ∧
      className c path = "typography_xdisplay_x1" ∧
      c.naming.identifier (path.map c.naming.segment) = marker ++ propertyName c path ∧
      className c path =
        if path.length = 1 then fallbackClass
        else Text.lowerIf c.naming.lowercase
          (Text.join c.naming.separator (path.dropLast.map c.naming.segment)) := by
  intro c path
  have hkeys : ∀ key ∈ path, key.Tight ∧ 'Σ' ∉ key := by decide
  exact ⟨by decide +kernel, by decide +kernel,
    classes_and_variables_named_alike rfl rfl rfl (by decide) (by decide) hkeys⟩

end DesignTokens
