import DesignTokens.Text.Joining

/-!
Clusters: what a reader takes for one character. A cluster goes on with the next character if the
two neighbours stay together by themselves, or if the whole cluster waits for such a character: a
picture and a joiner wait for a picture, a flag letter without a partner for another one, and a
consonant with a conjunct sign for a consonant.
-/

namespace DesignTokens

/-- Whether the cluster, last character first, ends in a picture, its marks and a joiner. -/
def awaitsPicture : Text → Bool
  | [] => false
  | last :: earlier =>
    Joining.of last == .joiner &&
      (earlier.dropWhile (Joining.of · == .mark)).head?.any (Joining.of · == .picture)

/-- Whether the cluster, last character first, ends in a flag letter without a partner. -/
def awaitsFlagLetter (cluster : Text) : Bool :=
  (cluster.takeWhile (Joining.of · == .flagLetter)).length % 2 == 1

/-- Whether the character can stand between the consonants of a conjunct: a mark or a joiner, but
not the mark that keeps its neighbours apart. -/
def staysInConjunct (c : Char) : Bool :=
  c != '\u200C' && (Joining.of c == .mark || Joining.of c == .joiner)

/-- Whether the cluster, last character first, ends in a consonant and marks, one of them a conjunct
sign. -/
def awaitsConsonant (cluster : Text) : Bool :=
  (cluster.takeWhile staysInConjunct).any conjunctSigns.has &&
    (cluster.dropWhile staysInConjunct).head?.any (Joining.of · == .consonant)

/-- Whether the cluster, last character first, goes on with the character. -/
def goesOn (cluster : Text) (c : Char) : Bool :=
  match cluster with
  | [] => true
  | last :: _ =>
    (Joining.of last).keeps (Joining.of c) ||
      match Joining.of c with
      | .picture => awaitsPicture cluster
      | .flagLetter => awaitsFlagLetter cluster
      | .consonant => awaitsConsonant cluster
      | _ => false

namespace Text

/-- The clusters of what follows `cluster`, the one at hand, last character first. -/
def clustersFrom (cluster : Text) : Text → List Text
  | [] => if cluster.isEmpty then [] else [cluster.reverse]
  | c :: rest =>
    if goesOn cluster c then clustersFrom (c :: cluster) rest
    else cluster.reverse :: clustersFrom [c] rest

/-- The text cut into clusters. -/
def clusters (t : Text) : List Text := clustersFrom [] t

end Text

end DesignTokens
