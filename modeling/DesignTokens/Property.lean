import DesignTokens.Mapping.Basic

/-!
Which property names are valid. A name is standard when the keywords hold it, or hold what is left
of it without a vendor's mark; it is valid when it is standard, registered or a directional
shorthand. A vendor's mark settles the question: a marked name is valid only if the rest of it is
standard.
-/

namespace DesignTokens

/-- What vendors put in front of their own properties. -/
def vendorMarks : List Text := ["-webkit-", "-moz-", "-ms-", "-o-"]

/-- The name without the vendor's mark it starts with, in any case. -/
def stripVendor? (name : Text) : Option Text :=
  vendorMarks.findSome? fun vendor =>
    if Text.sameName (name.take vendor.length) vendor then some (name.drop vendor.length) else none

/-- Whether the keywords hold the name, with or without a vendor's mark. -/
def isStandard (keywords : KeywordSet) (name : Text) : Bool :=
  keywords.contains name || (stripVendor? name).any keywords.contains

/-- Whether the name may be used as it is, given the registered mappings. -/
def isValid (keywords : KeywordSet) (registered : List Mapping) (name : Text) : Bool :=
  if keywords.contains name then true
  else match stripVendor? name with
    | some rest => keywords.contains rest
    | none => registered.any (·.name.sameName name) || isDirectionalShorthand name

end DesignTokens
