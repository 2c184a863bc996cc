import DesignTokens.Mapping.Mapper

/-!
What a generation pass consults besides its input and its settings: the standard keywords, which it
never changes, and the mapper, in which it leaves the names it had to guess.
-/

namespace DesignTokens

/-- The keywords and the mapper of a pass. -/
structure Context where
  keywords : KeywordSet
  mapper : Mapper
  deriving DecidableEq

/-- The context of keywords and a registry, with nothing pending. -/
def Context.of (keywords : KeywordSet) (registry : Registry) : Context :=
  ⟨keywords, Mapper.ofRegistry registry⟩

end DesignTokens
