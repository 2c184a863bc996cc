import DesignTokens.Text.Case
import DesignTokens.Text.Cluster

/-!
Kebab case: the words of a text in small letters with a dash between neighbours. A text is read
cluster by cluster. A space, `_` or `-` ends a word and is dropped; a word also ends where a small
letter meets a capital, where a letter meets a digit or a digit a letter, and before the last
capital of a run that a small letter follows, so `HTMLParser2` has the words `HTML`, `Parser` and
`2`.
-/

namespace DesignTokens

/-- What a cluster counts as when words are told apart. -/
inductive ClusterKind where
  | gap | digit | capital | small | other
  deriving DecidableEq

/-- A capital is left as it is by capitals and changed by small letters, a small letter the other
way round; only the digits `0` to `9` are digits. -/
def ClusterKind.of (cluster : Text) : ClusterKind :=
  if cluster = ['-'] || cluster = ['_'] || cluster = [' '] then .gap
  else if cluster.all isDigit then .digit
  else if !cluster.any changesWhenRaised && cluster.any changesWhenLowered then .capital
  else if !cluster.any changesWhenLowered && cluster.any changesWhenRaised then .small
  else .other

/-- Whether a word ends between two neighbours. -/
def ClusterKind.parts : ClusterKind → ClusterKind → Bool
  | .small, .capital | .capital, .digit | .digit, .capital | .digit, .small | .small, .digit => true
  | _, _ => false

/-- Whether a word begins at the second of three neighbours: there is a break before it, or it is
the last capital of a run that a small letter follows. -/
def ClusterKind.begins (before here : ClusterKind) (after : Option ClusterKind) : Bool :=
  before.parts here || (before == .capital && here == .capital && after == some .small)

namespace Text

/-- The words of the clusters that follow the word at hand, of which the last cluster's kind was
`before`. -/
def wordsAfter (word : Text) (before : ClusterKind) : List Text → List Text
  | [] => [word]
  | cluster :: rest =>
    let here := ClusterKind.of cluster
    if here = .gap then word :: wordsAfter [] .gap rest
    else if before.begins here (rest.head?.map ClusterKind.of) then
      word :: wordsAfter cluster here rest
    else wordsAfter (word ++ cluster) here rest

/-- The words of a text, none of them empty. -/
def words (t : Text) : List Text :=
  (wordsAfter [] .gap (clusters t)).filter (!·.isEmpty)

/-- The words in small letters, joined by dashes. -/
def kebab (t : Text) : Text := join ['-'] ((words t).map lower)

end Text

end DesignTokens
