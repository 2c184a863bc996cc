import DesignTokens.Config.Reader
import DesignTokens.Storage.FileTree

/-!
Keyword files: documents that list names. Of several candidates the first that can be loaded counts;
when none can, or none is given, the properties in common use take their place.
-/

namespace DesignTokens

/-- Why keywords cannot be loaded. -/
inductive KeywordError where
  | unreadable (path : Text)
  | malformed (path : Text)
  | noCandidates
  deriving DecidableEq

/-- The wording of the error, as far as it does not depend on the system. -/
def KeywordError.message : KeywordError → Text
  | .unreadable path => "failed to read keyword file " ++ path
  | .malformed path => "keyword file " ++ path ++ " is not a JSON array of strings"
  | .noCandidates => "no keyword file could be loaded"

namespace KeywordSet

/-- The keyword files that are looked for when none is named. -/
def standardFiles : List Text := ["css-keywords.json", "css-keyword.json"]

/-- The keywords of a file. -/
def load (tree : FileTree) (path : Text) : Except KeywordError KeywordSet :=
  match tree.text? path with
  | none => .error (.unreadable path)
  | some text =>
    match Setting.textsOfText? text with
    | none => .error (.malformed path)
    | some names => .ok (ofNames names)

/-- The keywords of the first file that can be loaded, or the error of the last file. -/
def loadFirstAfter (tree : FileTree) (error : KeywordError) :
    List Text → Except KeywordError KeywordSet
  | [] => .error error
  | path :: paths =>
    match load tree path with
    | .ok set => .ok set
    | .error e => loadFirstAfter tree e paths

/-- The keywords of the first file that can be loaded. -/
def loadFirst (tree : FileTree) (paths : List Text) : Except KeywordError KeywordSet :=
  loadFirstAfter tree .noCandidates paths

/-- The keywords of the first file that can be loaded, else those in common use. -/
def loadOrCommon (tree : FileTree) (paths : List Text) : KeywordSet :=
  match loadFirst tree paths with
  | .ok set => set
  | .error _ => common

end KeywordSet

end DesignTokens
