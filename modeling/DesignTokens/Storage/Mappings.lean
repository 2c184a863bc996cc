import DesignTokens.Config.Writer
import DesignTokens.Context
import DesignTokens.Json.Printer
import DesignTokens.Storage.Keywords

/-!
Mapping files: objects that hold the list of saved mappings under one key. Other keys belong to
others and are kept. A file that is not there holds no mappings; a file that cannot be understood is
an error when mappings are loaded, and is started afresh when they are saved.
-/

namespace DesignTokens

/-- Why a mapping file cannot be used. -/
inductive StoreError where
  | inaccessible (path : Text)
  | malformed (path : Text)
  deriving DecidableEq

/-- The wording of the error, as far as it does not depend on the system. -/
def StoreError.message : StoreError → Text
  | .inaccessible path => "failed to access mapping store " ++ path
  | .malformed path => "mapping store " ++ path ++ " holds malformed data"

namespace MappingFile

/-- The key of the saved mappings. -/
def key : Text := "customCssProperties"

/-- The fields of the file's object; none if there is no file. -/
def document (tree : FileTree) (path : Text) : Except StoreError (Assoc Text Json) :=
  match tree.read path with
  | .ok (.text text) =>
    match Json.parse? text with
    | some (.object fields) => .ok fields
    | _ => .error (.malformed path)
  | .error .missing => .ok []
  | _ => .error (.inaccessible path)

/-- The saved mappings. -/
def load (tree : FileTree) (path : Text) : Except StoreError (List Mapping) :=
  match document tree path with
  | .error e => .error e
  | .ok fields =>
    match Assoc.find? key fields with
    | none => .ok []
    | some saved =>
      match Mapping.listOfJson? saved with
      | some mappings => .ok mappings
      | none => .error (.malformed path)

/-- The fields with a registry's mappings among them. -/
def withMappings (fields : Assoc Text Json) (registry : Registry) : Assoc Text Json :=
  Assoc.insert key (.array (registry.persistable.map Mapping.toJson)) fields

/-- The tree with a registry's mappings saved in the file. -/
def save (tree : FileTree) (path : Text) (registry : Registry) : Except StoreError FileTree :=
  let fields := match document tree path with
    | .ok fields => fields
    | .error _ => []
  match tree.write path (Json.object (withMappings fields registry)).pretty with
  | .ok tree => .ok tree
  | .error _ => .error (.inaccessible path)

end MappingFile

/-- The context of keyword files and a mapping file, neither of which can keep it from being made:
common keywords and the default mappings take their place. -/
def Context.load (tree : FileTree) (keywordFiles : List Text) (mappingFile : Option Text) :
    Context :=
  let saved := match mappingFile.map (MappingFile.load tree) with
    | some (.ok mappings) => mappings
    | _ => []
  Context.of (KeywordSet.loadOrCommon tree keywordFiles) (Registry.ofSaved saved)

end DesignTokens
